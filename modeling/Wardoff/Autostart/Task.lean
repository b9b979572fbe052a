import Wardoff.Autostart.Trust

/-!
# The autostart task (`src/autostart.rs`)

Start with Windows is a task of the Task Scheduler: `is_enabled` looks for it, `set_enabled`
registers or removes it. Every call of the Task Scheduler may fail (`TaskApi.fails`); `Scheduler` is
what it has under the name of the task. Each function takes the outcomes of the calls it makes and
returns what it leaves behind, also when it fails.

Log records are left out, and a worker thread does not panic.
-/

namespace Autostart

/-! ## Errors of the Task Scheduler -/

/-- A `windows::core::Error`. -/
structure WindowsError where
  /-- The `HRESULT`. -/
  code : UInt32
  text : String
  deriving DecidableEq, Repr

def errorFileNotFound : UInt32 := 2
def errorPathNotFound : UInt32 := 3
def errorAccessDenied : UInt32 := 5
def errorNotFound : UInt32 := 1168
def eAccessDenied : UInt32 := 0x80070005

/-- `HRESULT::from_win32`, of an error. -/
def hresultFromWin32 (error : UInt32) : UInt32 := (error &&& 0xFFFF) ||| 0x80070000

def isNotFoundError (error : WindowsError) : Bool :=
  error.code = hresultFromWin32 errorFileNotFound || error.code =
    hresultFromWin32 errorPathNotFound || error.code = hresultFromWin32 errorNotFound

def isAccessDeniedError (error : WindowsError) : Bool :=
  error.code = eAccessDenied || error.code = hresultFromWin32 errorAccessDenied

def taskServiceError (error : WindowsError) : String :=
  if isAccessDeniedError error then
    s!"Wardoff could not access scheduled task {autostartTaskPath}. Run Wardoff elevated and try again: {error.text}"
  else s!"Wardoff could not update scheduled task {autostartTaskPath}: {error.text}"

/-! ## Tasks -/

/-- `TASK_LOGON_TYPE`. -/
inductive LogonType where
  | none
  | password
  | s4u
  | interactiveToken
  | group
  | serviceAccount
  | interactiveTokenOrPassword
  deriving DecidableEq, Repr

/-- `TASK_RUNLEVEL_TYPE`. -/
inductive RunLevel where
  | lua
  | highest
  deriving DecidableEq, Repr

/-- `TASK_INSTANCES_POLICY`. -/
inductive InstancesPolicy where
  | parallel
  | queue
  | ignoreNew
  | stopExisting
  deriving DecidableEq, Repr

structure Principal where
  id : String
  userId : String
  logonType : LogonType
  runLevel : RunLevel
  deriving DecidableEq, Repr

structure Settings where
  allowDemandStart : Bool
  multipleInstances : InstancesPolicy
  stopIfGoingOnBatteries : Bool
  disallowStartIfOnBatteries : Bool
  startWhenAvailable : Bool
  executionTimeLimit : String
  enabled : Bool
  deriving DecidableEq, Repr

structure LogonTrigger where
  id : String
  enabled : Bool
  startBoundary : String
  userId : String
  deriving DecidableEq, Repr

structure ExecAction where
  path : String
  workingDirectory : Option String
  deriving DecidableEq, Repr

structure TaskDefinition where
  author : String
  description : String
  principal : Principal
  settings : Settings
  trigger : LogonTrigger
  action : ExecAction
  deriving DecidableEq, Repr

/-- The task of the name `AUTOSTART_TASK_NAME`. -/
abbrev Scheduler : Type := Option TaskDefinition

/-- Start with Windows is on. -/
def isOn (scheduler : Scheduler) : Bool := scheduler.any (·.settings.enabled)

/-! ## Calls -/

inductive TaskCall where
  | createInstance
  | connect
  | getFolder
  | getTask
  /-- `IRegisteredTask::Enabled`. -/
  | getEnabled
  | newTask
  | registrationInfo
  | setAuthor
  | setDescription
  | principal
  | setPrincipalId
  | setPrincipalUserId
  | setLogonType
  | setRunLevel
  | settings
  | setAllowDemandStart
  | setMultipleInstances
  | setStopIfGoingOnBatteries
  | setDisallowStartIfOnBatteries
  | setStartWhenAvailable
  | setExecutionTimeLimit
  | setEnabled
  | triggers
  | createTrigger
  | castTrigger
  | setTriggerId
  | setTriggerEnabled
  | setStartBoundary
  | setTriggerUserId
  | actions
  | createAction
  | castAction
  | setPath
  | setWorkingDirectory
  | registerTaskDefinition
  | deleteTask
  deriving DecidableEq, Repr

/-- The outcomes of the calls of one worker thread. -/
structure TaskApi where
  spawn : Except String Unit := .ok ()
  /-- `initialize_com_apartment`. -/
  apartment : Except String Unit := .ok ()
  /-- The error of a call that fails. -/
  fails : TaskCall → Option WindowsError := fun _ => none

def TaskApi.call (o : TaskApi) (call : TaskCall) : Except WindowsError Unit :=
  match o.fails call with
  | some error => .error error
  | none => .ok ()

/-- The error of a name that is not there. -/
def notFound : WindowsError :=
  ⟨hresultFromWin32 errorFileNotFound, "The system cannot find the file specified. (0x80070002)"⟩

/-- `ITaskFolder::GetTask`. -/
def TaskApi.getTask (o : TaskApi) (scheduler : Scheduler) : Except WindowsError TaskDefinition :=
  match o.fails .getTask, scheduler with
  | some error, _ => .error error
  | none, some task => .ok task
  | none, none => .error notFound

/-- `ITaskFolder::DeleteTask`. -/
def TaskApi.deleteTask (o : TaskApi) (scheduler : Scheduler) :
    Except WindowsError Unit × Scheduler :=
  match o.fails .deleteTask, scheduler with
  | some error, _ => (.error error, scheduler)
  | none, some _ => (.ok (), none)
  | none, none => (.error notFound, none)

/-- The operation is carried out on a thread of its own. -/
def runTaskScheduler {α : Type} (o : TaskApi) (operation : Except String α) : Except String α :=
  match o.spawn with
  | .error error => .error s!"Wardoff could not start its autostart worker thread: {error}"
  | .ok () =>
    match o.apartment with
    | .error error =>
      .error s!"Wardoff could not initialize the COM apartment for Task Scheduler access: {error}"
    | .ok () => operation

def connectTaskService (o : TaskApi) : Except WindowsError Unit := do
  o.call .createInstance
  o.call .connect

def openRootFolder (o : TaskApi) : Except WindowsError Unit := o.call .getFolder

/-! ## Reading -/

def lookupAutostartTask (o : TaskApi) (scheduler : Scheduler) :
    Except WindowsError (Option TaskDefinition) := do
  openRootFolder o
  match o.getTask scheduler with
  | .ok task => .ok (some task)
  | .error error => if isNotFoundError error then .ok none else .error error

def taskEnabled (o : TaskApi) (scheduler : Scheduler) : Except WindowsError Bool := do
  match ← lookupAutostartTask o scheduler with
  | some task =>
    o.call .getEnabled
    .ok task.settings.enabled
  | none => .ok false

def isEnabled (o : TaskApi) (scheduler : Scheduler) : Except String Bool :=
  runTaskScheduler o <|
    match connectTaskService o with
    | .error error => .error (taskServiceError error)
    | .ok () => (taskEnabled o scheduler).mapError taskServiceError

/-! ## Registering and removing -/

def configureRegistrationInfo (o : TaskApi) : Except WindowsError (String × String) := do
  o.call .registrationInfo
  o.call .setAuthor
  o.call .setDescription
  return ("Wardoff", "Starts Wardoff at current-user logon with the highest available privileges.")

def configurePrincipal (o : TaskApi) (userId : String) : Except WindowsError Principal := do
  o.call .principal
  o.call .setPrincipalId
  o.call .setPrincipalUserId
  o.call .setLogonType
  o.call .setRunLevel
  return { id := "WardoffPrincipal", userId, logonType := .interactiveToken, runLevel := .highest }

def configureSettings (o : TaskApi) : Except WindowsError Settings := do
  o.call .settings
  o.call .setAllowDemandStart
  o.call .setMultipleInstances
  o.call .setStopIfGoingOnBatteries
  o.call .setDisallowStartIfOnBatteries
  o.call .setStartWhenAvailable
  o.call .setExecutionTimeLimit
  o.call .setEnabled
  return {
    allowDemandStart := true
    multipleInstances := .ignoreNew
    stopIfGoingOnBatteries := false
    disallowStartIfOnBatteries := false
    startWhenAvailable := true
    executionTimeLimit := "PT0S"
    enabled := true }

/-- `now` is `trigger_start_boundary`. -/
def configureLogonTrigger (o : TaskApi) (userId now : String) :
    Except WindowsError LogonTrigger := do
  o.call .triggers
  o.call .createTrigger
  o.call .castTrigger
  o.call .setTriggerId
  o.call .setTriggerEnabled
  o.call .setStartBoundary
  o.call .setTriggerUserId
  return { id := "WardoffLogonTrigger", enabled := true, startBoundary := now, userId }

def configureExecAction (o : TaskApi) (executablePath workingDirectory : String) :
    Except WindowsError ExecAction := do
  o.call .actions
  o.call .createAction
  o.call .castAction
  o.call .setPath
  if workingDirectory.isEmpty then return { path := executablePath, workingDirectory := none }
  o.call .setWorkingDirectory
  return { path := executablePath, workingDirectory := some workingDirectory }

/-- What `register_autostart_task` puts together before it registers it. -/
def autostartTaskDefinition (o : TaskApi) (userId executablePath workingDirectory now : String) :
    Except WindowsError TaskDefinition := do
  o.call .newTask
  let (author, description) ← configureRegistrationInfo o
  let principal ← configurePrincipal o userId
  let settings ← configureSettings o
  let trigger ← configureLogonTrigger o userId now
  let action ← configureExecAction o executablePath workingDirectory
  return { author, description, principal, settings, trigger, action }

def registerAutostartTask (o : TaskApi) (userId executablePath workingDirectory now : String)
    (scheduler : Scheduler) : Except WindowsError Unit × Scheduler :=
  match autostartTaskDefinition o userId executablePath workingDirectory now with
  | .error error => (.error error, scheduler)
  | .ok task =>
    match openRootFolder o with
    | .error error => (.error error, scheduler)
    | .ok () =>
      match o.call .registerTaskDefinition with
      | .error error => (.error error, scheduler)
      | .ok () => (.ok (), some task)

/-- The result says whether there was a task. -/
def removeAutostartTask (o : TaskApi) (scheduler : Scheduler) :
    Except WindowsError Bool × Scheduler :=
  match openRootFolder o with
  | .error error => (.error error, scheduler)
  | .ok () =>
    match o.deleteTask scheduler with
    | (.ok (), scheduler) => (.ok true, scheduler)
    | (.error error, scheduler) =>
      if isNotFoundError error then (.ok false, scheduler) else (.error error, scheduler)

/-! ## Setting -/

/-- The outcomes of the calls of one `set_enabled`. -/
structure SetCalls where
  /-- `is_process_elevated`. -/
  elevated : Except String Bool
  /-- `env::current_exe`. -/
  currentExe : Except String Unit
  /-- `fs::canonicalize` of it. -/
  canonicalize : Except String String
  /-- `Path::parent`. -/
  parent : String → Option String
  /-- `current_user_id`. -/
  userId : Except String String
  openToken : Except String Unit
  /-- `GetTokenInformation` for the linked token. -/
  linkedToken : Except String Unit
  duplicateToken : Except String Unit
  /-- What Windows answers about each path. -/
  paths : String → PathCalls
  /-- `trigger_start_boundary`. -/
  now : String
  task : TaskApi

def ensureProcessIsElevated (elevated : Except String Bool) : Except String Unit :=
  match elevated with
  | .ok true => .ok ()
  | .ok false =>
    .error s!"Wardoff requires administrator rights to change scheduled task {autostartTaskPath}. Run Wardoff elevated and try again."
  | .error error =>
    .error s!"Wardoff could not determine whether administrator rights are available before changing scheduled task {autostartTaskPath}: {error}"

def currentExecutablePath (o : SetCalls) : Except String String :=
  match o.currentExe with
  | .error error =>
    .error s!"Wardoff could not resolve its current executable path before updating {autostartTaskPath}: {error}"
  | .ok () =>
    match o.canonicalize with
    | .error error =>
      .error s!"Wardoff could not canonicalize its current executable path before updating {autostartTaskPath}: {error}"
    | .ok path => .ok path

def currentWorkingDirectory (o : SetCalls) (executablePath : String) : String :=
  (o.parent executablePath).getD ""

/-- The calls of a trust check of these two paths. -/
def SetCalls.trust (o : SetCalls) (executablePath workingDirectory : String) : TrustCalls where
  openToken := o.openToken
  linkedToken := o.linkedToken
  duplicateToken := o.duplicateToken
  executable := o.paths executablePath
  directory := o.paths workingDirectory

/-- Everything that `set_enabled` does before it turns to the Task Scheduler: the path and the
user. -/
def prepareSet (o : SetCalls) (enabled : Bool) : Except String (String × String) := do
  ensureProcessIsElevated o.elevated
  let executablePath ← currentExecutablePath o
  let workingDirectory := currentWorkingDirectory o executablePath
  let userId ← o.userId
  if enabled then
    ensureTrustedAutostartLocation (o.trust executablePath workingDirectory) executablePath
      workingDirectory
  return (executablePath, userId)

/-- A worker thread that changes the task. -/
def changeTask {α : Type} (o : TaskApi) (operation : Scheduler → Except WindowsError α × Scheduler)
    (scheduler : Scheduler) : Except String Unit × Scheduler :=
  match runTaskScheduler o ((connectTaskService o).mapError taskServiceError) with
  | .error message => (.error message, scheduler)
  | .ok () =>
    match operation scheduler with
    | (.error error, scheduler) => (.error (taskServiceError error), scheduler)
    | (.ok _, scheduler) => (.ok (), scheduler)

def setEnabled (o : SetCalls) (enabled : Bool) (scheduler : Scheduler) :
    Except String Unit × Scheduler :=
  match prepareSet o enabled with
  | .error message => (.error message, scheduler)
  | .ok (executablePath, userId) =>
    if enabled then
      changeTask o.task
        (registerAutostartTask o.task userId executablePath
          (currentWorkingDirectory o executablePath) o.now)
        scheduler
    else changeTask o.task (removeAutostartTask o.task) scheduler

end Autostart

import Wardoff.Instance.Claim
import Wardoff.Ipc.Forward
import Wardoff.Launch.Cli

/-!
# Processes of a session (`src/main.rs`, `src/windows_util.rs`)

Users, and the autostart task, start Wardoff with any arguments, as often as they like. A process
claims the mutex of the session; as the primary it may start another process in its place, elevated,
or without a console, and end, or become the runtime; otherwise it sends its request to the primary.

`launchStep` is one call of one process with what follows it. The mutex is that of `Instance`: every
step stands for steps of that machine. What a process does once it has its answer or its runtime is
one step (`finish`). A process may end at any time. Log records are left out, and the console that a
process may hide.
-/

namespace Launch

open Instance (ProcAct)
open Ipc (ClientError IpcRequest IpcResponse)
open Runtime (RuntimeOptions)

/-! ## Starting another process -/

inductive ElevationLaunchResult where
  | launched
  | cancelled
  deriving DecidableEq, Repr

inductive ConsoleLaunchContext where
  | none
  | owned
  | inherited
  deriving DecidableEq, Repr

/-- The outcomes of the calls of `handle_primary_runtime_request`. -/
structure PrepareCalls where
  /-- The token can be read. -/
  isProcessElevated : Except String Unit := .ok ()
  relaunchSelfElevated : Except String ElevationLaunchResult := .ok .launched
  consoleLaunchContext : Except String ConsoleLaunchContext := .ok .none
  hideAndFreeConsole : Except String Unit := .ok ()
  relaunchSelfDetached : Except String Unit := .ok ()
  bootstrap : Except String Unit := .ok ()

/-- A process that was started in place of this one. -/
inductive Relaunch where
  /-- `relaunch_self_elevated`. -/
  | elevated
  /-- `relaunch_self_detached`. -/
  | detached
  deriving DecidableEq, Repr

/-- Go on as this process, or end with a code. -/
inductive Disposition where
  | bootstrap
  | exit (code : Int)
  deriving DecidableEq, Repr

/-- The arguments of the process that `relaunch_self_detached` starts. -/
def detachedArgs (args : List String) : List String :=
  if internalDetachedRuntimeArg ∈ args then args else args ++ [internalDetachedRuntimeArg]

def Relaunch.args (args : List String) : Relaunch → List String
  | .elevated => [internalElevatedRelaunchArg]
  | .detached => detachedArgs args

def prepareDefaultLaunch (o : PrepareCalls) (isElevated internalElevatedRelaunch : Bool) :
    Except String Disposition × Option Relaunch :=
  match o.isProcessElevated with
  | .error error =>
    (.error s!"Wardoff could not determine whether administrator rights are available before default startup: {error}",
      none)
  | .ok () =>
    if internalElevatedRelaunch then
      if isElevated then (.ok .bootstrap, none)
      else (.error "Wardoff relaunched its default startup path without administrator rights.",
        none)
    else if isElevated then (.ok .bootstrap, none)
    else
      match o.relaunchSelfElevated with
      | .error error => (.error error, none)
      | .ok .launched => (.ok (.exit 0), some .elevated)
      | .ok .cancelled => (.ok (.exit 1), none)

def prepareRuntimeConsoleLaunch (o : PrepareCalls) (internalDetachedRuntime : Bool) :
    Except String Disposition × Option Relaunch :=
  match o.consoleLaunchContext with
  | .error error => (.error error, none)
  | .ok .none => (.ok .bootstrap, none)
  | .ok .owned =>
    match o.hideAndFreeConsole with
    | .error error => (.error error, none)
    | .ok () => (.ok .bootstrap, none)
  | .ok .inherited =>
    if internalDetachedRuntime then (.ok .bootstrap, none)
    else
      match o.relaunchSelfDetached with
      | .error error => (.error error, none)
      | .ok () => (.ok (.exit 0), some .detached)

/-! ## Processes -/

inductive LaunchPc where
  /-- A claim of the mutex; `again` after the primary was not found. -/
  | claiming (again : Bool)
  /-- `send_request`. -/
  | forwarding (request : IpcRequest)
  /-- `handle_secondary_status_request`. -/
  | readingStatus
  /-- `handle_log_request`. -/
  | readingLog
  /-- `handle_primary_runtime_request`. -/
  | preparing
  /-- `autostart::set_enabled`. -/
  | changingAutostart
  /-- `bootstrap` has succeeded. -/
  | running (options : RuntimeOptions)
  /-- `run_main` has returned; what it held is dropped before the process ends. -/
  | returned (result : Except String Int)
  /-- The process does not exist any more. -/
  | exited

structure Process where
  args : List String
  cli : WardoffCli
  /-- Its token is elevated. -/
  elevated : Bool
  pc : LaunchPc
  /-- The process that a user has launched: this one, or the one it stands in for (a ghost
  field). -/
  launch : Nat
  /-- The arguments the user has given to that process (a ghost field). -/
  given : List String

/-- `handle_primary_runtime_request`, up to the bootstrap. -/
def prepareLaunch (o : PrepareCalls) (proc : Process) :
    Except String Disposition × Option Relaunch :=
  let prepared := match proc.cli.requestedAction with
    | .default => prepareDefaultLaunch o proc.elevated proc.cli.elevatedRelaunch
    | _ => (.ok .bootstrap, none)
  match prepared with
  | (.ok .bootstrap, _) => prepareRuntimeConsoleLaunch o proc.cli.detachedRuntime
  | (disposition, relaunch) => (disposition, relaunch)

structure LaunchSt where
  mutex : Instance.St := {}
  /-- Every process that was started, by its id. -/
  procs : List Process := []

namespace LaunchSt

/-- The process `p` goes on. -/
def goto (s : LaunchSt) (p : Nat) (proc : Process) (pc : LaunchPc) : LaunchSt :=
  { s with procs := s.procs.set p { proc with pc } }

end LaunchSt

def elevatedRelaunchMutexRetryAttempts : Nat := 20

/-- The attempts of the first claim. -/
def claimAttempts (cli : WardoffCli) : Nat :=
  if cli.requestedAction = .default ∧ cli.elevatedRelaunch = true
    then elevatedRelaunchMutexRetryAttempts else 1

/-- A call that a claim makes. -/
def isClaimCall : ProcAct → Bool
  | .nameFails _ => true
  | .create _ => true
  | .openProbe _ => true
  | .close => true
  | .wake => true
  | .start _ => false
  | .dropGuard => false
  | .exit => false

inductive LaunchAct where
  /-- Someone starts Wardoff, elevated or not. -/
  | user (args : List String) (elevated : Bool)
  /-- A call of the claim of the process `p`. -/
  | claim (p : Nat) (call : ProcAct)
  /-- The claim of `p` has returned. -/
  | claimed (p : Nat)
  /-- `send_request` of `p` has returned. -/
  | answered (p : Nat) (result : Except ClientError IpcResponse)
  /-- `handle_primary_runtime_request` of `p`; Windows starts an elevated process with the rights
  `granted`. -/
  | prepare (p : Nat) (o : PrepareCalls) (granted : Bool)
  /-- What `p` does without other processes has ended. -/
  | finish (p : Nat) (result : Except String Int)
  | exit (p : Nat)

section
variable (parse : Parser) (name : String)

/-- A new process, up to its first call. A clap error or `--help` ends it. -/
def LaunchSt.start (s : LaunchSt) (args : List String) (elevated : Bool) (launch : Nat)
    (given : List String) : Option LaunchSt :=
  match parse args with
  | .error code =>
    let proc : Process := { args, cli := {}, elevated, pc := .returned (.ok code), launch, given }
    some { s with procs := s.procs ++ [proc] }
  | .ok cli =>
    let proc : Process := { args, cli, elevated, pc := .claiming false, launch, given }
    match cli.requestedAction with
    | .log _ => some { s with procs := s.procs ++ [{ proc with pc := .readingLog }] }
    | _ =>
      (Instance.step name s.mutex (s.procs.length, .start (claimAttempts cli))).map fun mutex =>
        { s with mutex, procs := s.procs ++ [proc] }

/-- The process `p` goes on after its claim. -/
def LaunchSt.afterClaim (s : LaunchSt) (p : Nat) (proc : Process) (again : Bool) :
    Option LaunchSt :=
  match s.mutex.procs p with
  | .primary =>
    match proc.cli.requestedAction with
    | .status =>
      (Instance.step name s.mutex (p, .dropGuard)).map fun mutex =>
        { s with mutex }.goto p proc (.returned (.ok 1))
    | .autostart _ =>
      (Instance.step name s.mutex (p, .dropGuard)).map fun mutex =>
        { s with mutex }.goto p proc .changingAutostart
    | .log _ => none
    | _ => some (s.goto p proc .preparing)
  | .secondary =>
    if again then some (s.goto p proc (.returned (.error Ipc.activePrimaryPipeUnavailableMessage)))
    else
      match proc.cli.requestedAction with
      | .status => some (s.goto p proc .readingStatus)
      | action => (ipcRequestFor action).map fun request => s.goto p proc (.forwarding request)
  | .failed message => some (s.goto p proc (.returned (.error message)))
  | _ => none

/-- The process `p` starts as the runtime, or another process in its place. -/
def LaunchSt.prepare (s : LaunchSt) (p : Nat) (proc : Process) (o : PrepareCalls) (granted : Bool) :
    Option LaunchSt :=
  match prepareLaunch o proc with
  | (.error message, _) => some (s.goto p proc (.returned (.error message)))
  | (.ok (.exit code), none) => some (s.goto p proc (.returned (.ok code)))
  | (.ok (.exit code), some relaunch) =>
    -- a detached process has the token of its parent
    let elevated := match relaunch with
      | .elevated => granted
      | .detached => proc.elevated
    LaunchSt.start parse name (s.goto p proc (.returned (.ok code))) (relaunch.args proc.args)
      elevated proc.launch proc.given
  | (.ok .bootstrap, _) =>
    match o.bootstrap with
    | .error message => some (s.goto p proc (.returned (.error message)))
    | .ok () =>
      (runtimeOptionsFor proc.cli.requestedAction).map fun options =>
        s.goto p proc (.running options)

def launchStep (s : LaunchSt) : LaunchAct → Option LaunchSt
  | .user args elevated => s.start parse name args elevated s.procs.length args
  | .claim p call =>
    match s.procs[p]? with
    | some { pc := .claiming _, .. } =>
      if isClaimCall call then
        (Instance.step name s.mutex (p, call)).map fun mutex => { s with mutex }
      else none
    | _ => none
  | .claimed p =>
    match s.procs[p]? with
    | some proc =>
      match proc.pc with
      | .claiming again => s.afterClaim name p proc again
      | _ => none
    | none => none
  | .answered p result =>
    match s.procs[p]? with
    | some proc =>
      match proc.pc with
      | .forwarding _ =>
        match Ipc.afterSend result with
        | .returned result => some (s.goto p proc (.returned result))
        | .claiming =>
          (Instance.step name s.mutex (p, .start 1)).map fun mutex =>
            { s with mutex }.goto p proc (.claiming true)
        | _ => none
      | _ => none
    | none => none
  | .prepare p o granted =>
    match s.procs[p]? with
    | some proc =>
      match proc.pc with
      | .preparing => s.prepare parse name p proc o granted
      | _ => none
    | none => none
  | .finish p result =>
    match s.procs[p]? with
    | some proc =>
      match proc.pc with
      | .readingStatus => some (s.goto p proc (.returned result))
      | .readingLog => some (s.goto p proc (.returned result))
      | .changingAutostart => some (s.goto p proc (.returned result))
      | .running _ => some (s.goto p proc (.returned result))
      | _ => none
    | none => none
  | .exit p =>
    match s.procs[p]? with
    | some proc =>
      match proc.pc with
      | .exited => none
      | _ =>
        (Instance.step name s.mutex (p, .exit)).map fun mutex =>
          { s with mutex }.goto p proc .exited
    | none => none

end

end Launch

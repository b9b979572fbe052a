import Wardoff.Runtime.Policy

/-!
# The running application (`src/main.rs`)

`Application` is the state the UI thread owns, together with the statics its window procedure
writes. Each handler takes the outcomes of the calls it makes: the Windows calls of the layers, the
answers of the tray thread, the Task Scheduler and power calls. An `Event` is one message or request
the UI thread handles; between events the thread is back in its message loop. `Quit` ends the loop,
so the run of a real process has no event after it.

Log records are left out. Counters are 64-bit and wrap.
-/

namespace Runtime

open Blocker Ipc

/-! ## The tray thread, as the UI thread sees it -/

/-- What the UI thread sends to the tray thread. -/
inductive TrayCommand where
  | setMode (mode : BlockerMode)
  | setAutostart (enabled : Bool)
  deriving DecidableEq, Repr

/-- How a `SetMode` command of the tray thread goes. -/
inductive TrayAnswer where
  /-- The tray thread has ended; nothing is sent. -/
  | lost
  | answered (result : Except String Unit)
  | timedOut
  /-- The tray thread ends before it answers. -/
  | disconnected

/-- The commands sent so far. -/
structure TrayServiceHandle where
  commands : List TrayCommand := []
  deriving DecidableEq, Repr

namespace TrayServiceHandle

def setMode (answer : TrayAnswer) (mode : BlockerMode) (t : TrayServiceHandle) :
    Except String Unit × TrayServiceHandle :=
  let sent : TrayServiceHandle := { t with commands := t.commands ++ [.setMode mode] }
  match answer with
  | .lost => (.error "Wardoff lost contact with its tray thread.", t)
  | .answered result => (result, sent)
  | .timedOut =>
    (.error "Wardoff timed out while waiting for the tray thread to apply the latest blocker mode.",
      sent)
  | .disconnected => (.error "Wardoff lost contact with its tray thread.", sent)

/-- `alive`: the tray thread still receives. -/
def setAutostartEnabled (alive : Bool) (enabled : Bool) (t : TrayServiceHandle) :
    TrayServiceHandle :=
  if alive then { t with commands := t.commands ++ [.setAutostart enabled] } else t

end TrayServiceHandle

/-- The actions of the tray menu. -/
inductive TrayAction where
  | block
  | allow
  | setAutostart (enabled : Bool)
  | shutdown
  | reboot
  | sleep
  | hibernate
  | quit
  deriving DecidableEq, Repr

/-! ## Outcomes of calls -/

/-- One `Application::set_mode`: the switch, the tray, and the rollback if the tray fails. -/
structure SwitchCalls (Handle : Type) where
  layers : LayerCalls Handle
  tray : TrayAnswer
  rollback : LayerCalls Handle
  trayResync : TrayAnswer

/-- One `set_autostart_enabled`. -/
structure AutostartCalls where
  /-- `autostart::is_enabled` before the change. -/
  before : Except String Bool
  set : Except String Unit
  /-- `autostart::is_enabled` after a failed change. -/
  after : Except String Bool
  trayAlive : Bool

/-- One tray power action. -/
structure PowerActionCalls (Handle : Type) where
  allow : SwitchCalls Handle
  /-- `enable_shutdown_privilege`. -/
  privilege : Except String Unit
  /-- `ExitWindowsEx` or `SetSuspendState`. -/
  request : Except String Unit
  /-- The return to Block after a failed action. -/
  restore : SwitchCalls Handle

/-- What a status snapshot reads outside the application. -/
structure StatusReads where
  uptimeSeconds : UInt64
  /-- The activity flags of Layers 2 to 4. -/
  workers : Bool × Bool × Bool
  /-- The attempts Layers 2 to 4 have blocked. -/
  workerBlocks : UInt64

structure RequestCalls (Handle : Type) where
  switch : SwitchCalls Handle
  autostart : AutostartCalls
  status : StatusReads

structure TrayCalls (Handle : Type) where
  switch : SwitchCalls Handle
  autostart : AutostartCalls
  power : PowerActionCalls Handle

/-- One resume: the renewal of the power requests, and the restoration of Block mode. -/
structure ResumeCalls (Handle : Type) where
  renew : PowerApi Handle
  restore : LayerCalls Handle
  tray : TrayAnswer

section
variable {Handle : Type} (handle : Handle)

/-! Every call succeeds; a new power-request object has the handle `handle`. -/

def SwitchCalls.succeed : SwitchCalls Handle :=
  ⟨.succeed handle, .answered (.ok ()), .succeed handle, .answered (.ok ())⟩

def AutostartCalls.succeed : AutostartCalls := ⟨.ok false, .ok (), .ok false, true⟩

def RequestCalls.succeed : RequestCalls Handle :=
  ⟨.succeed handle, .succeed, ⟨0, (true, true, true), 0⟩⟩

def TrayCalls.succeed : TrayCalls Handle :=
  ⟨.succeed handle, .succeed, ⟨.succeed handle, .ok (), .ok (), .succeed handle⟩⟩

def ResumeCalls.succeed : ResumeCalls Handle :=
  ⟨(LayerCalls.succeed handle).power, .succeed handle, .answered (.ok ())⟩

end

/-- `execute_power_action`. -/
def executePowerAction {Handle : Type} (o : PowerActionCalls Handle) (action : PowerAction) :
    Except String Unit :=
  match o.privilege with
  | .error error =>
    .error s!"Wardoff could not enable the shutdown privilege before {action.debugName}: {error}"
  | .ok () =>
    match o.request with
    | .error error => .error s!"Windows rejected the {action.label} request: {error}"
    | .ok () => .ok ()

/-- `PowerBroadcastEvent`. -/
inductive PowerBroadcastEvent where
  | suspend
  | resume
  deriving DecidableEq, Repr

/-- The event a `WM_POWERBROADCAST` stands for, from the low 32 bits of its `wParam`:
`PBT_APMSUSPEND`, or `PBT_APMRESUMESUSPEND` and `PBT_APMRESUMEAUTOMATIC`. -/
def powerBroadcastEvent (wparam : Nat) : Option PowerBroadcastEvent :=
  match wparam % 0x100000000 with
  | 4 => some .suspend
  | 7 => some .resume
  | 18 => some .resume
  | _ => none

/-- `should_run_end_session_cleanup`. -/
def shouldRunEndSessionCleanup (wparam : Nat) (shutdownInProgress : Bool) : Bool :=
  wparam != 0 && shutdownInProgress

/-! ## The application -/

/-- The state of the UI thread. `endSessionCleanupStarted` is the window procedure's static
`END_SESSION_CLEANUP_STARTED`; `blockedEventCount` counts what Layer 1 added to
`BLOCKED_EVENT_COUNT`. -/
structure Application (Handle : Type) where
  blockerCoordinator : BlockerCoordinator Handle
  trayService : Option TrayServiceHandle
  forcedShutdownCleanupCompleted : Bool := false
  pendingBlockRestoreAfterWake : Option PendingWakeRestore := none
  endSessionCleanupStarted : Bool := false
  blockedEventCount : UInt64 := 0

namespace Application

variable {Handle : Type}

def mode (a : Application Handle) : BlockerMode := a.blockerCoordinator.mode

def clearPendingBlockRestoreAfterWake (a : Application Handle) : Application Handle :=
  { a with pendingBlockRestoreAfterWake := none }

/-- Without a tray there is nothing to update. -/
def syncTray (answer : TrayAnswer) (mode : BlockerMode) (a : Application Handle) :
    Except String Unit × Application Handle :=
  match a.trayService with
  | some trayService =>
    let (result, trayService) := trayService.setMode answer mode
    (result, { a with trayService := some trayService })
  | none => (.ok (), a)

/-- A failure is only logged. -/
def syncTrayAutostart (alive : Bool) (enabled : Bool) (a : Application Handle) :
    Application Handle :=
  { a with trayService := a.trayService.map (·.setAutostartEnabled alive enabled) }

/-- Switches the coordinator; if the tray cannot follow, switches it back. -/
def setMode (o : SwitchCalls Handle) (mode : BlockerMode) (a : Application Handle) :
    Except String Unit × Application Handle :=
  let previousMode := a.mode
  if previousMode = mode then a.syncTray o.tray previousMode
  else
    match a.blockerCoordinator.setMode o.layers mode with
    | (.error error, c) =>
      (.error s!"Wardoff could not switch from {modeLabel previousMode} mode to {modeLabel mode} mode: {error}",
        { a with blockerCoordinator := c })
    | (.ok _, c) =>
      match syncTray o.tray c.mode { a with blockerCoordinator := c } with
      | (.ok (), a) => (.ok (), a)
      | (.error trayError, a) =>
        let (rollbackResult, c) := a.blockerCoordinator.setMode o.rollback previousMode
        let finalMode := c.mode
        let (trayResyncResult, a) :=
          syncTray o.trayResync finalMode { a with blockerCoordinator := c }
        let updateFailed :=
          s!"Wardoff could not update the tray UI after switching to {modeLabel mode} mode: {trayError}"
        let rolledBack := match rollbackResult with
          | .ok _ => s!" Wardoff rolled the blocker state back to {modeLabel previousMode} mode."
          | .error rollbackError =>
            s!" Wardoff could not roll the blocker state back to {modeLabel previousMode} mode and is currently in {modeLabel finalMode} mode: {rollbackError}"
        let resynced := match trayResyncResult with
          | .ok () => ""
          | .error trayResyncError =>
            s!" Wardoff also could not resync the tray UI to {modeLabel finalMode} mode: {trayResyncError}"
        (.error (updateFailed ++ rolledBack ++ resynced), a)

/-- The task's state decides the checkbox; only the change itself decides the result. -/
def setAutostartEnabled (o : AutostartCalls) (enabled : Bool) (a : Application Handle) :
    Except String Unit × Application Handle :=
  let previousState := o.before.toOption
  match o.set with
  | .ok () => (.ok (), a.syncTrayAutostart o.trayAlive enabled)
  | .error error =>
    let a := match resolvedAutostartStateForTray previousState o.after with
      | .ok restoredState => a.syncTrayAutostart o.trayAlive restoredState
      | .error _ => a
    (.error s!"Wardoff could not turn Start with Windows {onOffLabel enabled}: {error}", a)

def statusOutput (o : StatusReads) (a : Application Handle) : StatusOutput :=
  .active a.mode (a.blockerCoordinator.layerStatus o.workers) o.uptimeSeconds
    (a.blockedEventCount + o.workerBlocks)

def handleIpcRequest (o : RequestCalls Handle) (request : IpcRequest) (a : Application Handle) :
    IpcResponse × Application Handle :=
  match request with
  | .setMode mode =>
    match a.clearPendingBlockRestoreAfterWake.setMode o.switch mode.toBlockerMode with
    | (.ok (), a) => (.ok, a)
    | (.error message, a) => (.error message, a)
  | .setAutostart enabled =>
    match a.setAutostartEnabled o.autostart enabled with
    | (.ok (), a) => (.ok, a)
    | (.error message, a) => (.error message, a)
  | .status => (.status (a.statusOutput o.status), a)
  | .shutdownServer =>
    (.error "Wardoff cannot route the internal shutdown request through the UI thread.", a)

/-- Switches to Allow and issues the action; a failed action returns to the previous mode. -/
def runPowerAction (o : PowerActionCalls Handle) (action : PowerAction) (a : Application Handle) :
    Except String Unit × Application Handle :=
  let previousMode := a.mode
  let a := { a with
    pendingBlockRestoreAfterWake := pendingWakeRestoreForTrayPowerAction previousMode action }
  match a.setMode o.allow .allow with
  | (.error error, a) => (.error error, a.clearPendingBlockRestoreAfterWake)
  | (.ok (), a) =>
    match executePowerAction o action with
    | .ok () => (.ok (), a)
    | .error message =>
      let a := a.clearPendingBlockRestoreAfterWake
      if previousMode = .block then
        match a.setMode o.restore .block with
        | (.ok (), a) =>
          (.error s!"{message} Wardoff restored Block mode after the failed {action.debugName} request.",
            a)
        | (.error restoreError, a) =>
          (.error s!"{message} Wardoff could not restore Block mode after the failed {action.debugName} request and remains in {modeLabel a.mode} mode: {restoreError}",
            a)
      else (.error s!"{message} Wardoff remains in {modeLabel a.mode} mode.", a)

/-- The result says whether the message loop ends. -/
def handleTrayAction (o : TrayCalls Handle) (action : TrayAction) (a : Application Handle) :
    Except String Bool × Application Handle :=
  let andContinue (result : Except String Unit × Application Handle) :=
    (result.1.map fun _ => false, result.2)
  match action with
  | .block => andContinue (a.clearPendingBlockRestoreAfterWake.setMode o.switch .block)
  | .allow => andContinue (a.clearPendingBlockRestoreAfterWake.setMode o.switch .allow)
  | .setAutostart enabled => andContinue (a.setAutostartEnabled o.autostart enabled)
  | .shutdown => andContinue (a.runPowerAction o.power .shutdown)
  | .reboot => andContinue (a.runPowerAction o.power .reboot)
  | .sleep => andContinue (a.runPowerAction o.power .sleep)
  | .hibernate => andContinue (a.runPowerAction o.power .hibernate)
  | .quit => (.ok true, a)

def handleForcedShutdownCleanup (power : PowerApi Handle) (a : Application Handle) :
    Application Handle :=
  if a.forcedShutdownCleanupCompleted then a
  else
    let a := { a with forcedShutdownCleanupCompleted := true }.clearPendingBlockRestoreAfterWake
    { a with blockerCoordinator := a.blockerCoordinator.forcedShutdownCleanup power }

/-- A failure is only logged. -/
def restoreBlockAfterWakeIfNeeded (o : ResumeCalls Handle) (a : Application Handle) :
    Application Handle :=
  match pendingWakeRestoreReadyForResume a.pendingBlockRestoreAfterWake with
  | none => a
  | some _ =>
    let a := a.clearPendingBlockRestoreAfterWake
    match a.blockerCoordinator.setMode o.restore .block with
    | (.error _, c) => { a with blockerCoordinator := c }
    | (.ok _, c) => (syncTray o.tray c.mode { a with blockerCoordinator := c }).2

def handlePowerBroadcast (o : ResumeCalls Handle) (event : PowerBroadcastEvent)
    (a : Application Handle) : Application Handle :=
  match event with
  | .suspend =>
    match a.pendingBlockRestoreAfterWake with
    | some pendingRestore =>
      { a with pendingBlockRestoreAfterWake := some pendingRestore.markSystemSuspended }
    | none => a
  | .resume =>
    let (_, c) := a.blockerCoordinator.renewSleepRequestsAfterResume o.renew
    { a with blockerCoordinator := c }.restoreBlockAfterWakeIfNeeded o

/-! ## The window procedure of Layer 1 -/

/-- The answer to `WM_QUERYENDSESSION`: 0 refuses. A refusal is counted. -/
def handleQueryEndSession (a : Application Handle) : Nat × Application Handle :=
  if a.blockerCoordinator.shutdownBlocker.blockerActive then
    (0, { a with blockedEventCount := a.blockedEventCount + 1 })
  else (1, a)

/-- A forced `WM_ENDSESSION` ends Layer 1 behind its owner's back: `BLOCKER_ACTIVE` is cleared and
the reason destroyed (its result is ignored) while `reason_registered` stays. The cleanup runs
once. -/
def handleEndSession (wparam : Nat) (shutdownInProgress : Bool) (power : PowerApi Handle)
    (a : Application Handle) : Application Handle :=
  if shouldRunEndSessionCleanup wparam shutdownInProgress then
    let c := a.blockerCoordinator
    let a := { a with blockerCoordinator :=
      { c with shutdownBlocker := { c.shutdownBlocker with blockerActive := false } } }
    if a.endSessionCleanupStarted then a
    else handleForcedShutdownCleanup power { a with endSessionCleanupStarted := true }
  else a

/-! ## Startup -/

/-- The outcomes of the calls of startup. -/
structure BootstrapCalls (Handle : Type) where
  layers : LayerCalls Handle
  /-- `spawn_tray_service`. -/
  tray : Except String Unit
  /-- `IpcServer::start`. -/
  ipcServer : Except String Unit
  /-- `autostart::is_enabled`. -/
  autostart : Except String Bool
  trayAlive : Bool

/-- Every call succeeds. -/
def BootstrapCalls.succeed (handle : Handle) : BootstrapCalls Handle :=
  ⟨.succeed handle, .ok (), .ok (), .ok false, true⟩

/-- A headless runtime has no tray service. -/
def startTray (surface : TraySurface) (spawned : Except String Unit) :
    Except String (Option TrayServiceHandle) :=
  match surface with
  | .headless => .ok none
  | .visible => spawned.map fun _ => some {}
  | .hidden => spawned.map fun _ => some {}

/-- The application at the start of its message loop. A task state that cannot be read shows as
off. -/
def bootstrap (o : BootstrapCalls Handle) (options : RuntimeOptions) :
    Except String (Application Handle) := do
  let blockerCoordinator ← BlockerCoordinator.new o.layers options.initialMode
  let trayService ← startTray options.traySurface o.tray
  o.ipcServer
  let a : Application Handle := { blockerCoordinator, trayService }
  let enabled := match o.autostart with
    | .ok enabled => enabled
    | .error _ => false
  return a.syncTrayAutostart o.trayAlive enabled

end Application

/-! ## Runs of the UI thread -/

/-- One thing the UI thread handles, with the outcomes of the calls it makes meanwhile. -/
inductive Event (Handle : Type) where
  | ipcRequest (request : IpcRequest) (o : RequestCalls Handle)
  | trayAction (action : TrayAction) (o : TrayCalls Handle)
  | queryEndSession
  | endSession (wparam : Nat) (shutdownInProgress : Bool) (power : PowerApi Handle)
  | powerBroadcast (wparam : Nat) (o : ResumeCalls Handle)

namespace Event

variable {Handle : Type}

def handle (a : Application Handle) : Event Handle → Application Handle
  | .ipcRequest request o => (a.handleIpcRequest o request).2
  | .trayAction action o => (a.handleTrayAction o action).2
  | .queryEndSession => a.handleQueryEndSession.2
  | .endSession wparam shutdownInProgress power =>
    a.handleEndSession wparam shutdownInProgress power
  | .powerBroadcast wparam o =>
    match powerBroadcastEvent wparam with
    | some event => a.handlePowerBroadcast o event
    | none => a

/-- The reply an IPC request gets. -/
def reply (a : Application Handle) : Event Handle → Option IpcResponse
  | .ipcRequest request o => some (a.handleIpcRequest o request).1
  | _ => none

end Event

end Runtime

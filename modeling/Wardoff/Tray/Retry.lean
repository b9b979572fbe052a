import Wardoff.Tray.System

/-!
# When the tray thread tries again (`src/tray/mod.rs`)

Explorer may not be there to take the tray icon. The thread then tries again, and says in the log
that it waits. `RetryState` adds to `TrayThreadState` what it remembers for this: whether it has
reported a failed creation, since when it waits, when the next attempt is due, and when it has
warned last.

`clock k` is the `k`-th reading of `Instant::now`, in nanoseconds. `history` are the records that
the thread logs, with the attempts and the creations between them.
-/

namespace Tray

open Blocker (BlockerMode)

def trayRetryInterval : Nat := 2 * 1000000000

def trayUnavailableWarningInterval : Nat := 30 * 1000000000

inductive TrayRecord where
  /-- `tray_reinitialize_requested`. -/
  | reinitializeRequested
  /-- `tray_update_failed`. -/
  | updateFailed
  /-- A call of `create_tray_controller`, at the last reading before it. -/
  | attempted (now : Nat)
  /-- `tray_creation_failed`. -/
  | creationFailed
  /-- A controller was created and shows the state of the thread. -/
  | created
  /-- `tray_initialized`. -/
  | initialized
  /-- `tray_retrying`, at the last reading before it. -/
  | retrying (now : Nat)
  deriving DecidableEq, Repr

structure RetryState where
  tray : TrayThreadState
  creationFailureReported : Bool := false
  waitingSince : Option Nat := none
  nextRetryAt : Nat
  lastWarningAt : Option Nat := none
  /-- How often the clock was read. -/
  reads : Nat := 0
  history : List TrayRecord := []

namespace RetryState

def log (record : TrayRecord) (s : RetryState) : RetryState :=
  { s with history := s.history ++ [record] }

section
variable (clock : Nat → Nat)

/-- `Instant::now`. -/
def now (s : RetryState) : Nat × RetryState := (clock s.reads, { s with reads := s.reads + 1 })

/-- `self.waiting_since = Some(Instant::now())`, if it is `None`. -/
def startWaiting (s : RetryState) : RetryState :=
  match s.waitingSince with
  | some _ => s
  | none =>
    let (now, s) := s.now clock
    { s with waitingSince := some now }

def startWarning (s : RetryState) : RetryState :=
  match s.lastWarningAt with
  | some _ => s
  | none =>
    let (now, s) := s.now clock
    { s with lastWarningAt := some now }

def resetTrayController (s : RetryState) : RetryState :=
  let s := { s with tray := s.tray.resetTrayController, creationFailureReported := false }
  let (now, s) := ((s.startWaiting clock).startWarning clock).now clock
  { s with nextRetryAt := now }

/-- A failure is logged once. -/
def logTrayCreationFailure (s : RetryState) : RetryState :=
  if s.creationFailureReported then s
  else { s.log .creationFailed with creationFailureReported := true }

/-- A controller was created. -/
def finishWaiting (s : RetryState) : RetryState :=
  match s.waitingSince with
  | none => s
  | some waitingSince =>
    let (now, s) := s.now clock
    let s := { s with waitingSince := none }
    if trayRetryInterval ≤ now - waitingSince then s.log .initialized else s

def tryCreateTrayController (create : CreateCalls) (update : UpdateCalls) (s : RetryState) :
    RetryState :=
  let (now, s) := s.now clock
  let s := { s with nextRetryAt := now + trayRetryInterval }.log (.attempted now)
  match TrayController.new create s.tray.visibility with
  | .error _ => s.logTrayCreationFailure
  | .ok controller =>
    match (controller.setAutostartEnabled s.tray.autostartEnabled).setMode update s.tray.mode with
    | (.error _, _) => s.logTrayCreationFailure
    | (.ok (), controller) =>
      let s := (s.log .created).finishWaiting clock
      { s with lastWarningAt := none, tray := { s.tray with controller := some controller } }

/-- The warning of `attempt_tray_creation`. -/
def warnIfDue (s : RetryState) : RetryState :=
  match s.lastWarningAt with
  | none => s
  | some lastWarningAt =>
    let (now, s) := s.now clock
    if trayUnavailableWarningInterval ≤ now - lastWarningAt then
      let (next, s) := (s.log (.retrying now)).now clock
      { s with lastWarningAt := some next }
    else s

def attemptTrayCreation (create : CreateCalls) (update : UpdateCalls) (s : RetryState) :
    RetryState :=
  let s := match s.waitingSince with
    | some _ => s
    | none =>
      let (waiting, s) := s.now clock
      let (warning, s) := s.now clock
      { s with waitingSince := some waiting, lastWarningAt := some warning }
  let (now, s) := s.now clock
  let s := if s.nextRetryAt ≤ now then s.tryCreateTrayController clock create update else s
  s.warnIfDue clock

/-- `pending`: `TASKBAR_CREATED_PENDING`. -/
def handleTaskbarCreated (pending : Bool) (s : RetryState) : RetryState :=
  if pending then (s.log .reinitializeRequested).resetTrayController clock else s

/-- A tray that cannot show the state is dropped. -/
def applyOrReset (o : UpdateCalls) (s : RetryState) : Except String Unit × RetryState :=
  match s.tray.applyCurrentTrayState o with
  | (.error error, tray) =>
    (.error error, ({ s with tray }.log .updateFailed).resetTrayController clock)
  | (.ok (), tray) => (.ok (), { s with tray })

def handleTrayCommand (o : UpdateCalls) (command : QueuedCommand) (s : RetryState) :
    Bool × Option (Nat × Except String Unit) × RetryState :=
  match command with
  | .setMode mode ticket =>
    let (result, s) := { s with tray := { s.tray with mode } }.applyOrReset clock o
    (false, some (ticket, result), s)
  | .setAutostart enabled =>
    (false, none,
      ({ s with tray := { s.tray with autostartEnabled := enabled } }.applyOrReset clock o).2)
  | .shutdown => (true, none, s)

end

end RetryState

/-- What the tray thread does in its loop. -/
inductive RetryAct where
  | pump (pending : Bool)
  | command (o : UpdateCalls) (command : QueuedCommand)
  | attempt (create : CreateCalls) (update : UpdateCalls)

/-- The thread only tries to create a tray while it has none. -/
def retryStep (clock : Nat → Nat) (s : RetryState) : RetryAct → RetryState
  | .pump pending => s.handleTaskbarCreated clock pending
  | .command o command => (s.handleTrayCommand clock o command).2.2
  | .attempt create update =>
    if s.tray.controller.isNone then s.attemptTrayCreation clock create update else s

/-- The thread when it starts its loop. -/
def RetryState.start (clock : Nat → Nat) (visibility : TrayVisibility) (initialMode : BlockerMode) :
    RetryState :=
  { tray := { visibility, mode := initialMode }, nextRetryAt := clock 0, reads := 1 }

end Tray

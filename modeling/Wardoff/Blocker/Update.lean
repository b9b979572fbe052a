import Wardoff.Blocker.Polling

/-!
# The reboot task (`src/blocker/update.rs`)

While it blocks, Layer 3 keeps the reboot task of the update orchestrator disabled: a worker
disables it, looks again every five minutes, and enables it again at its end if it was enabled when
the worker first looked. What it has to restore is remembered in `RestoreState`, which every
activation resets.

`updateStep` is one step of the UI thread, of a worker, one call of the Task Scheduler at a time, or
of someone else who changes the task. Any call may fail; a call on a task that does not exist does.
-/

namespace Blocker

inductive RebootTask where
  | missingFolder
  | missingTask
  | present (enabled : Bool)
  deriving DecidableEq, Repr

structure RestoreState where
  originalStateRecorded : Bool := false
  restoreEnabledOnExit : Bool := false
  deriving DecidableEq, Repr

/-- `run_worker` of Layer 3. In the calls of `ensure_reboot_task_disabled`, `initial` tells the
first one, before the guard, from those in the loop. -/
inductive UpdatePc where
  /-- Initializes the COM apartment. -/
  | starting
  /-- Takes the lock of the restore state, and looks the task up. -/
  | lookup (initial : Bool)
  /-- `task_is_enabled`. -/
  | query (initial : Bool)
  /-- `set_task_enabled(false)`; `first`: the task is to be restored. -/
  | disable (initial first : Bool)
  /-- About to create the guard, which sets the flag. -/
  | activating
  | waiting
  /-- Out of the loop, about to drop the guard. -/
  | leaving
  /-- `restore_task_if_needed`: reads the restore state, and looks the task up. -/
  | restoreLookup
  | restoreQuery
  /-- `set_task_enabled(true)`. -/
  | restoreEnable
  /-- Panicked with the guard, about to drop it. -/
  | unwinding
  | finished
  deriving DecidableEq, Repr

structure UpdateSt where
  workers : PollingThreads UpdatePc := {}
  task : RebootTask
  restore : RestoreState := {}
  /-- A thread has panicked with the lock of the restore state. -/
  poisoned : Bool := false
  /-- No call of the Task Scheduler has failed, and no thread has panicked, since the last
  activation (a ghost field). -/
  clean : Bool := true
  /-- What the first look at the task has found since the last activation (a ghost field). -/
  firstSeen : Option Bool := none
  /-- A worker has enabled the task since the last activation (a ghost field). -/
  reenabled : Bool := false

/-- What follows `ensure_reboot_task_disabled`; `ok`: it has returned `Ok(true)`. -/
def UpdatePc.afterEnsure (initial ok : Bool) : UpdatePc :=
  match initial, ok with
  | true, true => .activating
  | true, false => .finished
  | false, true => .waiting
  | false, false => .leaving

inductive UpdateThreadAct where
  /-- `CoInitializeEx`. -/
  | coInitialize (ok : Bool)
  /-- The next call of the Task Scheduler. -/
  | call (ok : Bool)
  | activate
  | receive
  | timeout
  | dropGuard
  | panic

inductive UpdateAct where
  | activate (o : UpdateCalls)
  | controller (a : ControllerAct)
  | thread (i : Nat) (a : UpdateThreadAct)
  /-- Someone else changes the task. -/
  | external (task : RebootTask)

/-- The thread `i` goes on at `pc`. -/
def UpdateSt.goto (s : UpdateSt) (i : Nat) (thread : Thread UpdatePc) (pc : UpdatePc) : UpdateSt :=
  { s with workers := { s.workers with threads := s.workers.threads.set i { thread with pc } } }

/-- A call of `ensure_reboot_task_disabled` has failed. -/
def UpdateSt.ensureFails (s : UpdateSt) (i : Nat) (thread : Thread UpdatePc) (initial : Bool) :
    UpdateSt :=
  { s with clean := false }.goto i thread (.afterEnsure initial false)

/-- A call of `restore_task_if_needed` has failed. -/
def UpdateSt.restoreFails (s : UpdateSt) (i : Nat) (thread : Thread UpdatePc) : UpdateSt :=
  { s with clean := false }.goto i thread .finished

/-- The next call of the Task Scheduler, with what follows it. -/
def updateCall (s : UpdateSt) (i : Nat) (thread : Thread UpdatePc) (ok : Bool) : Option UpdateSt :=
  match thread.pc with
  | .lookup initial =>
    -- a poisoned lock ends the call before the Task Scheduler is asked
    if s.poisoned then some (s.goto i thread (.afterEnsure initial false))
    else if !ok then some (s.ensureFails i thread initial)
    else match s.task with
      | .present _ => some (s.goto i thread (.query initial))
      | .missingFolder => some (s.goto i thread (.afterEnsure initial false))
      | .missingTask => some (s.goto i thread (.afterEnsure initial false))
  | .query initial =>
    match ok, s.task with
    | true, .present enabled =>
      let s := { s with firstSeen := s.firstSeen.or (some enabled) }
      if !s.restore.originalStateRecorded then
        let s := { s with restore := { s.restore with originalStateRecorded := true } }
        if enabled then some (s.goto i thread (.disable initial true))
        else some (s.goto i thread (.afterEnsure initial true))
      else if enabled then some (s.goto i thread (.disable initial false))
      else some (s.goto i thread (.afterEnsure initial true))
    | true, _ => none
    | false, _ => some (s.ensureFails i thread initial)
  | .disable initial first =>
    match ok, s.task with
    | true, .present _ =>
      let restore := if first then { s.restore with restoreEnabledOnExit := true } else s.restore
      some ({ s with task := .present false, restore }.goto i thread (.afterEnsure initial true))
    | true, _ => none
    | false, _ => some (s.ensureFails i thread initial)
  | .restoreLookup =>
    if s.poisoned || !s.restore.restoreEnabledOnExit then some (s.goto i thread .finished)
    else if !ok then some (s.restoreFails i thread)
    else match s.task with
      | .present _ => some (s.goto i thread .restoreQuery)
      | .missingFolder => some (s.goto i thread .finished)
      | .missingTask => some (s.goto i thread .finished)
  | .restoreQuery =>
    match ok, s.task with
    | true, .present enabled =>
      some (s.goto i thread (if enabled then .finished else .restoreEnable))
    | true, _ => none
    | false, _ => some (s.restoreFails i thread)
  | .restoreEnable =>
    match ok, s.task with
    | true, .present _ =>
      some ({ s with task := .present true, reenabled := true }.goto i thread .finished)
    | true, _ => none
    | false, _ => some (s.restoreFails i thread)
  | _ => none

/-- Where a thread goes when it panics, and whether it holds the lock of the restore state. -/
def UpdatePc.afterPanic : UpdatePc → Option (UpdatePc × Bool)
  | .starting => some (.finished, false)
  | .lookup true => some (.finished, true)
  | .query true => some (.finished, true)
  | .disable true _ => some (.finished, true)
  | .activating => some (.finished, false)
  | .lookup false => some (.unwinding, true)
  | .query false => some (.unwinding, true)
  | .disable false _ => some (.unwinding, true)
  | .waiting => some (.unwinding, false)
  | .leaving => some (.unwinding, false)
  | .restoreLookup => some (.finished, false)
  | .restoreQuery => some (.finished, false)
  | .restoreEnable => some (.finished, false)
  | .unwinding => none
  | .finished => none

def updateThreadStep (s : UpdateSt) (i : Nat) (thread : Thread UpdatePc) :
    UpdateThreadAct → Option UpdateSt
  | .coInitialize ok =>
    match thread.pc with
    | .starting => some (s.goto i thread (if ok then .lookup true else .finished))
    | _ => none
  | .call ok => updateCall s i thread ok
  | .activate =>
    match thread.pc with
    | .activating =>
      some ({ s with workers := { s.workers with active := true } }.goto i thread .waiting)
    | _ => none
  | .receive =>
    match thread.pc with
    | .waiting => if thread.stop then some (s.goto i thread .leaving) else none
    | _ => none
  | .timeout =>
    match thread.pc with
    | .waiting => if thread.stop then none else some (s.goto i thread (.lookup false))
    | _ => none
  | .dropGuard =>
    match thread.pc with
    | .leaving =>
      some ({ s with workers := { s.workers with active := false } }.goto i thread .restoreLookup)
    | .unwinding =>
      some ({ s with workers := { s.workers with active := false } }.goto i thread .finished)
    | _ => none
  | .panic =>
    match thread.pc.afterPanic with
    | some (pc, locked) =>
      some ({ s with poisoned := s.poisoned || locked, clean := false }.goto i thread pc)
    | none => none

def UpdatePc.isFinished (pc : UpdatePc) : Bool := pc == .finished

def updateStep (s : UpdateSt) : UpdateAct → Option UpdateSt
  | .activate o =>
    match s.workers.controller with
    | .idle =>
      let workers :=
        s.workers.activated .starting (UpdateRebootBlocker.activate o s.workers.layer).2
      if s.workers.layer.worker.isSome then some { s with workers }
      else some { s with
        workers
        restore := if s.poisoned then s.restore else {}
        clean := true
        firstSeen := none
        reenabled := false }
    | _ => none
  | .controller a =>
    (s.workers.controllerStep UpdatePc.isFinished a).map fun workers => { s with workers }
  | .thread i a =>
    match s.workers.threads[i]? with
    | some thread => updateThreadStep s i thread a
    | none => none
  | .external task => some { s with task }

end Blocker

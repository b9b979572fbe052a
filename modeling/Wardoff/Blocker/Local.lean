import Wardoff.Blocker.Polling

/-!
# The threads of Layer 2 (`src/blocker/local.rs`)

The worker of Layer 2 blocks in `ProcessTrace` until its trace session ends. The handle of the trace
is shared by the worker and the slot (`SharedProcessTraceHandle`): whoever comes first takes it and
closes it. Unlike the polling layers, this one drops a worker that has ended by itself as soon as it
is seen (`cleanup_finished_worker`).
-/

namespace Blocker

/-- A `SharedProcessTraceHandle`. -/
structure TraceHandle where
  /-- It has not been taken yet. -/
  shared : Bool := true
  /-- How often `CloseTrace` was called with it (a ghost field). -/
  closeCalls : Nat := 0
  deriving DecidableEq, Repr

/-- Takes the handle, if it is there, and closes it. -/
def TraceHandle.close (handle : TraceHandle) : TraceHandle :=
  if handle.shared then { shared := false, closeCalls := handle.closeCalls + 1 } else handle

/-- `run_worker` of Layer 2. -/
inductive LocalPc where
  /-- About to read the handle. -/
  | starting
  /-- The handle was gone; about to stop the session. -/
  | abandoning
  /-- About to create the guard, which sets the flag. -/
  | activating
  /-- In `ProcessTrace`. -/
  | tracing
  /-- About to close the handle. -/
  | closing
  /-- About to stop the session. -/
  | stopping
  /-- About to drop the guard. -/
  | leaving
  /-- Panicked with the guard, about to drop it. -/
  | unwinding
  | finished
  deriving DecidableEq, Repr

/-- The UI thread in `deactivate`; it has taken the worker out of the slot. -/
inductive LocalControllerPc where
  | idle
  /-- About to clear the flag. -/
  | clearing
  /-- About to stop the trace session. -/
  | stopping
  /-- `cancel_trace_processing`. -/
  | cancelling
  | joining
  deriving DecidableEq, Repr

/-- A worker thread, and its trace. -/
structure LocalThread where
  pc : LocalPc := .starting
  handle : Nat
  deriving DecidableEq, Repr

structure LocalSt where
  layer : LocalShutdownBlocker := {}
  /-- `active_state`. -/
  active : Bool := false
  /-- Every thread that was spawned; the last one is the one in the slot, or the one being
  joined. -/
  threads : List LocalThread := []
  /-- Every trace that was opened. -/
  handles : List TraceHandle := []
  controller : LocalControllerPc := .idle
  /-- `deactivate` has returned, and `activate` was not called since (a ghost field). -/
  deactivated : Bool := false

def LocalSt.isActive (s : LocalSt) : Bool := s.active

inductive LocalControllerAct where
  | activate (o : LocalCalls)
  /-- `finished`: `JoinHandle::is_finished` of the worker in the slot. -/
  | deactivate (finished : Bool)
  | clear
  | stopSession
  | cancel
  | join

inductive LocalThreadAct where
  | readHandle
  | activate
  /-- `ProcessTrace` returns. -/
  | traceEnds
  | close
  | stopSession
  | dropGuard
  | panic

inductive LocalAct where
  | controller (a : LocalControllerAct)
  | thread (i : Nat) (a : LocalThreadAct)

/-- The last thread has ended. -/
def LocalSt.lastFinished (s : LocalSt) : Bool :=
  match s.threads.getLast? with
  | some thread => thread.pc == .finished
  | none => false

/-- What `activate` does besides the slot: it opens a trace, and starts a thread for it, or closes
the trace again where it cannot. -/
def LocalSt.activated (o : LocalCalls) (s : LocalSt) : LocalSt :=
  let layer := (s.layer.activate o).2
  let s := { s with deactivated := false }
  if (s.layer.cleanupFinishedWorker o.finished).worker.isSome then { s with layer }
  else match o.preflight, o.subscription, o.spawn with
    | .available, .ok (), .ok () =>
      { s with
        layer
        threads := s.threads ++ [{ handle := s.handles.length }]
        handles := s.handles ++ [{}] }
    | .available, .ok (), .error _ =>
      { s with layer, handles := s.handles ++ [TraceHandle.close {}] }
    | _, _, _ => { s with layer }

def localControllerStep (s : LocalSt) : LocalControllerAct → Option LocalSt
  | .activate o =>
    match s.controller with
    | .idle =>
      -- only a thread that has ended can be found finished
      if s.layer.worker.isSome && o.finished && !s.lastFinished then none else some (s.activated o)
    | _ => none
  | .deactivate finished =>
    match s.controller with
    | .idle =>
      if s.layer.worker.isSome && finished && !s.lastFinished then none
      else if (s.layer.cleanupFinishedWorker finished).worker.isSome then
        some { s with layer := s.layer.deactivate finished, controller := .clearing }
      else some { s with layer := s.layer.deactivate finished, deactivated := true }
    | _ => none
  | .clear =>
    match s.controller with
    | .clearing => some { s with active := false, controller := .stopping }
    | _ => none
  | .stopSession =>
    match s.controller with
    | .stopping => some { s with controller := .cancelling }
    | _ => none
  | .cancel =>
    match s.controller, s.threads.getLast? with
    | .cancelling, some thread =>
      some { s with handles := s.handles.modify thread.handle TraceHandle.close,
                    controller := .joining }
    | _, _ => none
  | .join =>
    match s.controller with
    | .joining =>
      if s.lastFinished then some { s with controller := .idle, deactivated := true } else none
    | _ => none

/-- Where a thread goes when it panics. -/
def LocalPc.afterPanic : LocalPc → Option LocalPc
  | .starting => some .finished
  | .abandoning => some .finished
  | .activating => some .finished
  | .tracing => some .unwinding
  | .closing => some .unwinding
  | .stopping => some .unwinding
  | .leaving => some .unwinding
  | .unwinding => none
  | .finished => none

/-- The thread `i` goes on at `pc`. -/
def LocalSt.goto (s : LocalSt) (i : Nat) (thread : LocalThread) (pc : LocalPc) : LocalSt :=
  { s with threads := s.threads.set i { thread with pc } }

def localThreadStep (s : LocalSt) (i : Nat) (thread : LocalThread) : LocalThreadAct → Option LocalSt
  | .readHandle =>
    match thread.pc, s.handles[thread.handle]? with
    | .starting, some handle =>
      some (s.goto i thread (if handle.shared then .activating else .abandoning))
    | _, _ => none
  | .activate =>
    match thread.pc with
    | .activating => some ({ s with active := true }.goto i thread .tracing)
    | _ => none
  | .traceEnds =>
    match thread.pc with
    | .tracing => some (s.goto i thread .closing)
    | _ => none
  | .close =>
    match thread.pc with
    | .closing =>
      some ({ s with handles := s.handles.modify thread.handle TraceHandle.close }.goto i thread
        .stopping)
    | _ => none
  | .stopSession =>
    match thread.pc with
    | .abandoning => some (s.goto i thread .finished)
    | .stopping => some (s.goto i thread .leaving)
    | _ => none
  | .dropGuard =>
    match thread.pc with
    | .leaving => some ({ s with active := false }.goto i thread .finished)
    | .unwinding => some ({ s with active := false }.goto i thread .finished)
    | _ => none
  | .panic => thread.pc.afterPanic.map fun pc => s.goto i thread pc

def localStep (s : LocalSt) : LocalAct → Option LocalSt
  | .controller a => localControllerStep s a
  | .thread i a =>
    match s.threads[i]? with
    | some thread => localThreadStep s i thread a
    | none => none

end Blocker

import Wardoff.Blocker.Layers
import Wardoff.Machine.Worker

/-!
# The threads of the polling layers (`src/blocker/remote.rs`, `src/blocker/update.rs`)

Layers 3 and 4 keep their worker the same way: `PollingThreads` is the slot of the layer with all
the threads that were ever put into it, and the flag `active_state` they share. `controllerStep` is
the UI thread inside `begin_forced_shutdown_cleanup` and `deactivate`, one shared access at a time;
`activate` is the function of the slot. The threads of Layer 4 follow; those of Layer 3 have their
own module.

A thread may panic anywhere. It then unwinds, which drops its `ActiveStateGuard`.
-/

namespace Blocker

open Machine.Worker (Stage View)

/-- A worker thread, and whether there is a message in its stop channel. -/
structure Thread (Pc : Type) where
  pc : Pc
  stop : Bool := false
  deriving DecidableEq, Repr

/-- The UI thread in the layer's functions; `join`: in `deactivate`. -/
inductive ControllerPc where
  | idle
  /-- About to clear the flag. -/
  | clearing (join : Bool)
  /-- About to send the stop message. -/
  | sending (join : Bool)
  /-- Has taken the worker out of the slot, and joins it. -/
  | joining
  deriving DecidableEq, Repr

structure PollingThreads (Pc : Type) where
  layer : PollingLayer := {}
  /-- `active_state`. -/
  active : Bool := false
  /-- Every thread that was spawned; the last one is the one in the slot, or the one being
  joined. -/
  threads : List (Thread Pc) := []
  controller : ControllerPc := .idle
  /-- `deactivate` has returned, and `activate` was not called since (a ghost field). -/
  deactivated : Bool := false

namespace PollingThreads

variable {Pc : Type}

def isActive (s : PollingThreads Pc) : Bool := s.active

/-- `activate` has returned with this slot; where it has filled it, a thread runs from `first`. -/
def activated (first : Pc) (layer : PollingLayer) (s : PollingThreads Pc) : PollingThreads Pc :=
  { s with
    layer
    threads :=
      if s.layer.worker.isNone && layer.worker.isSome then s.threads ++ [{ pc := first }] else
        s.threads
    deactivated := false }

end PollingThreads

inductive ControllerAct where
  /-- `begin_forced_shutdown_cleanup` is called. -/
  | beginCleanup
  /-- `deactivate` is called. -/
  | deactivate
  | clear
  | send
  | join
  deriving DecidableEq, Repr

/-- `finished` tells the threads that have ended. -/
def PollingThreads.controllerStep {Pc : Type} (finished : Pc → Bool) (s : PollingThreads Pc) :
    ControllerAct → Option (PollingThreads Pc)
  | .beginCleanup =>
    match s.controller with
    | .idle =>
      if s.layer.worker.isSome then some { s with controller := .clearing false }
      else some { s with layer := s.layer.beginForcedShutdownCleanup }
    | _ => none
  | .deactivate =>
    match s.controller with
    | .idle =>
      if s.layer.worker.isSome then some { s with controller := .clearing true }
      else some { s with layer := s.layer.deactivate, deactivated := true }
    | _ => none
  | .clear =>
    match s.controller with
    | .clearing join => some { s with active := false, controller := .sending join }
    | _ => none
  | .send =>
    match s.controller with
    | .sending join =>
      let threads := s.threads.modify (s.threads.length - 1) fun thread =>
        { thread with stop := true }
      if join then some { s with threads, layer := s.layer.deactivate, controller := .joining }
      else some { s with threads, layer := s.layer.beginForcedShutdownCleanup, controller := .idle }
    | _ => none
  | .join =>
    match s.controller, s.threads.getLast? with
    | .joining, some thread =>
      if finished thread.pc then some { s with controller := .idle, deactivated := true } else none
    | _, _ => none

/-! ## Layer 4 -/

/-- The outcome of `abort_pending_shutdown`. -/
inductive ShutdownAbortOutcome where
  | aborted
  | noShutdownPending
  | accessDenied (details : String)
  | failed (details : String)
  deriving DecidableEq, Repr

/-- Whether polling goes on. -/
def pollRemoteShutdown : ShutdownAbortOutcome → Bool
  | .aborted => true
  | .noShutdownPending => true
  | .accessDenied _ => false
  | .failed _ => false

/-- `run_worker` of Layer 4. -/
inductive RemotePc where
  /-- `poll_remote_shutdown`; `initial`: before the guard. -/
  | polling (initial : Bool)
  /-- About to create the guard, which sets the flag. -/
  | activating
  /-- In `recv_timeout`. -/
  | waiting
  /-- Out of the loop, about to drop the guard. -/
  | leaving
  /-- Panicked with the guard, about to drop it. -/
  | unwinding
  | finished
  deriving DecidableEq, Repr

inductive RemoteThreadAct where
  | poll (outcome : ShutdownAbortOutcome)
  | activate
  /-- `recv_timeout` returns the stop message. -/
  | receive
  | timeout
  | dropGuard
  | panic

/-- One step of a thread: where it goes on, and the flag. -/
def remoteThreadStep (active : Bool) (thread : Thread RemotePc) :
    RemoteThreadAct → Option (RemotePc × Bool)
  | .poll outcome =>
    match thread.pc with
    | .polling true => some (if pollRemoteShutdown outcome then .activating else .finished, active)
    | .polling false => some (if pollRemoteShutdown outcome then .waiting else .leaving, active)
    | _ => none
  | .activate =>
    match thread.pc with
    | .activating => some (.waiting, true)
    | _ => none
  | .receive =>
    match thread.pc with
    | .waiting => if thread.stop then some (.leaving, active) else none
    | _ => none
  | .timeout =>
    match thread.pc with
    | .waiting => if thread.stop then none else some (.polling false, active)
    | _ => none
  | .dropGuard =>
    match thread.pc with
    | .leaving => some (.finished, false)
    | .unwinding => some (.finished, false)
    | _ => none
  | .panic =>
    match thread.pc with
    | .polling true => some (.finished, active)
    | .activating => some (.finished, active)
    | .polling false => some (.unwinding, active)
    | .waiting => some (.unwinding, active)
    | .leaving => some (.unwinding, active)
    | .unwinding => none
    | .finished => none

inductive RemoteAct where
  | activate (spawn : Except String Unit)
  | controller (a : ControllerAct)
  | thread (i : Nat) (a : RemoteThreadAct)

def RemotePc.isFinished (pc : RemotePc) : Bool := pc == .finished

def remoteStep (s : PollingThreads RemotePc) : RemoteAct → Option (PollingThreads RemotePc)
  | .activate spawn =>
    match s.controller with
    | .idle => some (s.activated (.polling true) (RemoteShutdownBlocker.activate spawn s.layer).2)
    | _ => none
  | .controller a => s.controllerStep RemotePc.isFinished a
  | .thread i a =>
    match s.threads[i]? with
    | some thread =>
      (remoteThreadStep s.active thread a).map fun (pc, active) =>
        { s with active, threads := s.threads.set i { thread with pc } }
    | none => none

end Blocker

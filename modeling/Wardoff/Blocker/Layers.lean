import Wardoff.Blocker.Sleep

/-!
# The shutdown layers (`src/blocker/{shutdown,local,update,remote}.rs`)

The objects the coordinator owns besides the sleep layer, as the UI thread sees them. Each operation
takes the outcomes of the Windows calls it makes. Threads are seen through the slot that holds them:
what a worker thread does after it was spawned is not part of these functions, and neither are log
records.

`armed` is a ghost field of the layers that run a worker: it says that the layer was activated after
it was last deactivated or told to stop. No function reads it.
-/

namespace Blocker

/-! ## Layer 1: the interactive veto -/

/-- `ShutdownBlocker` with the module's static `BLOCKER_ACTIVE`, which the window procedure reads
and also writes (`handle_end_session`). -/
structure ShutdownBlocker where
  reasonRegistered : Bool := false
  blockerActive : Bool := false
  deriving DecidableEq, Repr

namespace ShutdownBlocker

/-- `create` is the outcome of `ShutdownBlockReasonCreate`. -/
def activate (create : Except String Unit) (b : ShutdownBlocker) :
    Except String Unit × ShutdownBlocker :=
  if b.reasonRegistered then (.ok (), b)
  else match create with
    | .error error => (.error error, b)
    | .ok () => (.ok (), { b with reasonRegistered := true, blockerActive := true })

/-- `destroy` is the outcome of `ShutdownBlockReasonDestroy`. -/
def deactivate (destroy : Except String Unit) (b : ShutdownBlocker) :
    Except String Unit × ShutdownBlocker :=
  if !b.reasonRegistered then (.ok (), { b with blockerActive := false })
  else match destroy with
    | .error error => (.error error, b)
    | .ok () => (.ok (), { b with reasonRegistered := false, blockerActive := false })

def isActive (b : ShutdownBlocker) : Bool := b.reasonRegistered

end ShutdownBlocker

/-! ## Layer 2: `shutdown.exe` monitoring -/

/-- `preflight_shutdown_abort_capability`. -/
inductive ShutdownAbortCapability where
  | available
  | accessDenied (details : String)
  | failed (details : String)
  deriving DecidableEq, Repr

/-- The outcomes of the calls of one Layer 2 operation. -/
structure LocalCalls where
  /-- `JoinHandle::is_finished` of the held worker. -/
  finished : Bool
  preflight : ShutdownAbortCapability
  /-- `build_session_name`. -/
  sessionName : String
  /-- `LocalTraceSubscription::start`. -/
  subscription : Except String Unit
  spawn : Except String Unit

structure LocalShutdownWorker where
  sessionName : String
  deriving DecidableEq, Repr

structure LocalShutdownBlocker where
  worker : Option LocalShutdownWorker := none
  armed : Bool := false
  deriving DecidableEq, Repr

namespace LocalShutdownBlocker

/-- Joins a worker that has already ended. -/
def cleanupFinishedWorker (finished : Bool) (b : LocalShutdownBlocker) : LocalShutdownBlocker :=
  if b.worker.isSome && finished then { b with worker := none } else b

/-- Layer 2 stays inactive, without an error, where it is unavailable. -/
def activate (o : LocalCalls) (b : LocalShutdownBlocker) :
    Except String Unit × LocalShutdownBlocker :=
  let b := b.cleanupFinishedWorker o.finished
  if b.worker.isSome then (.ok (), b)
  else match o.preflight with
    | .accessDenied _ => (.ok (), { b with armed := true })
    | .failed _ => (.ok (), { b with armed := true })
    | .available =>
      match o.subscription with
      | .error _ => (.ok (), { b with armed := true })
      | .ok () =>
        match o.spawn with
        | .ok () => (.ok (), { b with worker := some ⟨o.sessionName⟩, armed := true })
        | .error error => (.error s!"Layer 2 could not start its ETW worker thread: {error}", b)

def deactivate (finished : Bool) (b : LocalShutdownBlocker) : LocalShutdownBlocker :=
  let b := b.cleanupFinishedWorker finished
  { b with worker := none, armed := false }

end LocalShutdownBlocker

/-! ## Layers 3 and 4: polling workers -/

/-- A worker thread that polls until a message arrives on its stop channel. -/
structure PollingWorker where
  stopSent : Bool := false
  deriving DecidableEq, Repr

/-- The slot of a polling worker. -/
structure PollingLayer where
  worker : Option PollingWorker := none
  armed : Bool := false
  deriving DecidableEq, Repr

namespace PollingLayer

/-- Puts a new worker into the slot; `message` introduces the error of a failed spawn. -/
def start (message : String) (spawn : Except String Unit) (b : PollingLayer) :
    Except String Unit × PollingLayer :=
  match spawn with
  | .ok () => (.ok (), { worker := some {}, armed := true })
  | .error error => (.error s!"{message}: {error}", b)

/-- Tells the worker to stop without waiting for it; the worker stays in its slot. -/
def beginForcedShutdownCleanup (b : PollingLayer) : PollingLayer :=
  match b.worker with
  | none => { b with armed := false }
  | some worker => { b with worker := some { worker with stopSent := true }, armed := false }

/-- Tells the worker to stop and joins it. -/
def deactivate (b : PollingLayer) : PollingLayer :=
  { b.beginForcedShutdownCleanup with worker := none }

end PollingLayer

/-- The outcomes of the calls of one Layer 3 activation. -/
structure UpdateCalls where
  /-- `is_process_elevated`. -/
  elevated : Except String Bool
  spawn : Except String Unit

abbrev UpdateRebootBlocker := PollingLayer

/-- Layer 3 is skipped, without an error, where the process is not known to be elevated. -/
def UpdateRebootBlocker.activate (o : UpdateCalls) (b : UpdateRebootBlocker) :
    Except String Unit × UpdateRebootBlocker :=
  if b.worker.isSome then (.ok (), b)
  else match o.elevated with
    | .ok true => b.start "Layer 3 could not start its polling thread" o.spawn
    | .ok false => (.ok (), { b with armed := true })
    | .error _ => (.ok (), { b with armed := true })

abbrev RemoteShutdownBlocker := PollingLayer

def RemoteShutdownBlocker.activate (spawn : Except String Unit) (b : RemoteShutdownBlocker) :
    Except String Unit × RemoteShutdownBlocker :=
  if b.worker.isSome then (.ok (), b)
  else b.start "Layer 4 could not start its polling thread" spawn

end Blocker

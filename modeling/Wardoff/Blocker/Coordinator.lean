import Wardoff.Blocker.Layers

/-!
# The blocker coordinator (`src/blocker/mod.rs`)

`BlockerCoordinator` owns the five layers and the cached mode. `set_mode` does nothing when the
cached mode already is the requested one; otherwise it activates the layers in order, Layer 1 last,
rolling all of them back when one fails, or deactivates all of them, Layer 1 first.

A run of the coordinator is a list of `CoordinatorOp`s, each with the outcomes of the Windows calls
made while it executes.
-/

namespace Blocker

/-- The global blocker mode. -/
inductive BlockerMode where
  | block
  | allow
  deriving DecidableEq, Repr

/-- Whether each layer is active (`LayerStatus`). -/
structure LayerStatus where
  shutdown : Bool
  localShutdown : Bool
  update : Bool
  remote : Bool
  sleep : Bool
  deriving DecidableEq, Repr

/-- The outcomes of the Windows calls of one coordinator operation. -/
structure LayerCalls (Handle : Type) where
  localLayer : LocalCalls
  update : UpdateCalls
  /-- Spawning the Layer 4 thread. -/
  remote : Except String Unit
  power : PowerApi Handle
  reasonCreate : Except String Unit
  reasonDestroy : Except String Unit

/-- Every call succeeds; a new power-request object has the handle `handle`. -/
def LayerCalls.succeed {Handle : Type} (handle : Handle) : LayerCalls Handle where
  localLayer := ⟨false, .available, "Wardoff", .ok (), .ok ()⟩
  update := ⟨.ok true, .ok ()⟩
  remote := .ok ()
  power := ⟨.ok handle, fun _ _ => .ok (), fun _ _ => .ok (), fun _ => .ok ()⟩
  reasonCreate := .ok ()
  reasonDestroy := .ok ()

structure BlockerCoordinator (Handle : Type) where
  mode : BlockerMode := .allow
  shutdownBlocker : ShutdownBlocker := {}
  localShutdownBlocker : LocalShutdownBlocker := {}
  updateRebootBlocker : UpdateRebootBlocker := {}
  remoteShutdownBlocker : RemoteShutdownBlocker := {}
  sleepBlocker : SleepBlocker Handle := {}

namespace BlockerCoordinator

variable {Handle : Type}

/-- The status reported to clients. The flags of Layers 2 to 4 are atomics that their worker threads
write; `workers` is what they hold when the status is read. -/
def layerStatus (workers : Bool × Bool × Bool) (c : BlockerCoordinator Handle) : LayerStatus where
  shutdown := c.shutdownBlocker.isActive
  localShutdown := workers.1
  update := workers.2.1
  remote := workers.2.2
  sleep := c.sleepBlocker.isActive

/-- Renews idle-power requests only when Block remains the requested mode. -/
def renewSleepRequestsAfterResume (power : PowerApi Handle) (c : BlockerCoordinator Handle) :
    Except String Unit × BlockerCoordinator Handle :=
  if c.mode = .block then
    let (result, sleepBlocker) := c.sleepBlocker.renewAfterResume power
    (result, { c with sleepBlocker })
  else (.ok (), c)

/-- The closure of `activate_block_mode`: the layers in order, up to the first that fails. -/
def activateLayers (o : LayerCalls Handle) (c : BlockerCoordinator Handle) :
    Except String Unit × BlockerCoordinator Handle :=
  match c.localShutdownBlocker.activate o.localLayer with
  | (.error error, b) => (.error error, { c with localShutdownBlocker := b })
  | (.ok (), b) =>
    let c := { c with localShutdownBlocker := b }
    match c.updateRebootBlocker.activate o.update with
    | (.error error, b) => (.error error, { c with updateRebootBlocker := b })
    | (.ok (), b) =>
      let c := { c with updateRebootBlocker := b }
      match c.remoteShutdownBlocker.activate o.remote with
      | (.error error, b) => (.error error, { c with remoteShutdownBlocker := b })
      | (.ok (), b) =>
        let c := { c with remoteShutdownBlocker := b }
        match c.sleepBlocker.activate o.power with
        | (.error error, b) => (.error error, { c with sleepBlocker := b })
        | (.ok (), b) =>
          let c := { c with sleepBlocker := b }
          match c.shutdownBlocker.activate o.reasonCreate with
          | (.error error, b) =>
            (.error s!"Layer 1 could not enter Block mode: {error}",
              { c with shutdownBlocker := b })
          | (.ok (), b) => (.ok (), { c with shutdownBlocker := b })

/-- The error of a failed activation whose rollback succeeded. -/
def rolledBackMessage (error : String) : String :=
  s!"Wardoff could not switch to Block mode: {error}. Wardoff rolled back safely to Allow mode."

/-- The error of a failed activation whose rollback failed in Layer 1. -/
def rollbackFailedMessage (error rollbackError : String) : String :=
  s!"Wardoff could not switch to Block mode: {error}. Wardoff also failed to roll Layer 1 back to Allow mode: {rollbackError}"

/-- Deactivates every layer but Layer 1. -/
def deactivateWorkers (o : LayerCalls Handle) (c : BlockerCoordinator Handle) :
    BlockerCoordinator Handle :=
  { c with
    sleepBlocker := c.sleepBlocker.deactivate o.power
    remoteShutdownBlocker := c.remoteShutdownBlocker.deactivate
    updateRebootBlocker := c.updateRebootBlocker.deactivate
    localShutdownBlocker := c.localShutdownBlocker.deactivate o.localLayer.finished }

def rollbackFailedBlockActivation (o : LayerCalls Handle) (error : String)
    (c : BlockerCoordinator Handle) : String × BlockerCoordinator Handle :=
  let c := c.deactivateWorkers o
  match c.shutdownBlocker.deactivate o.reasonDestroy with
  | (.ok (), b) => (rolledBackMessage error, { c with shutdownBlocker := b })
  | (.error rollbackError, b) =>
    (rollbackFailedMessage error rollbackError, { c with shutdownBlocker := b })

def activateBlockMode (o : LayerCalls Handle) (c : BlockerCoordinator Handle) :
    Except String Unit × BlockerCoordinator Handle :=
  match c.activateLayers o with
  | (.error error, c) =>
    let (message, c) := c.rollbackFailedBlockActivation o error
    (.error message, c)
  | (.ok (), c) => (.ok (), c)

/-- Deactivates Layer 1 first; the other layers are stopped whether or not that succeeds
(`deactivate_allow_mode_layers`). -/
def activateAllowMode (o : LayerCalls Handle) (c : BlockerCoordinator Handle) :
    Except String Unit × BlockerCoordinator Handle :=
  let (shutdownResult, shutdownBlocker) := c.shutdownBlocker.deactivate o.reasonDestroy
  let c := { c with shutdownBlocker }.deactivateWorkers o
  match shutdownResult with
  | .ok () => (.ok (), c)
  | .error error =>
    (.error s!"Wardoff could not fully switch to Allow mode because Layer 1 could not deactivate: {error}",
      c)

/-- Applies a new mode. The result says whether the mode changed. -/
def setMode (o : LayerCalls Handle) (mode : BlockerMode) (c : BlockerCoordinator Handle) :
    Except String Bool × BlockerCoordinator Handle :=
  if c.mode = mode then (.ok false, c)
  else
    let (result, c) := match mode with
      | .block => c.activateBlockMode o
      | .allow => c.activateAllowMode o
    match result with
    | .error error => (.error error, c)
    | .ok () => (.ok true, { c with mode })

/-- The non-blocking cleanup when Windows forces the session to end: Layers 2 and 1 are left to the
process exit. -/
def forcedShutdownCleanup (power : PowerApi Handle) (c : BlockerCoordinator Handle) :
    BlockerCoordinator Handle :=
  { c with
    updateRebootBlocker := c.updateRebootBlocker.beginForcedShutdownCleanup
    sleepBlocker := c.sleepBlocker.beginForcedShutdownCleanup power
    remoteShutdownBlocker := c.remoteShutdownBlocker.beginForcedShutdownCleanup
    mode := .allow }

/-- A new coordinator starts with every layer off and enters its initial mode. -/
def new (o : LayerCalls Handle) (initialMode : BlockerMode) :
    Except String (BlockerCoordinator Handle) :=
  match setMode o initialMode {} with
  | (.error error, _) => .error error
  | (.ok _, c) => .ok c

end BlockerCoordinator

/-! ## Runs of the coordinator -/

/-- An operation of the coordinator with the outcomes of its Windows calls. -/
inductive CoordinatorOp (Handle : Type) where
  | setMode (mode : BlockerMode) (o : LayerCalls Handle)
  | renewSleepRequestsAfterResume (power : PowerApi Handle)
  | forcedShutdownCleanup (power : PowerApi Handle)

def CoordinatorOp.run {Handle : Type} (c : BlockerCoordinator Handle) :
    CoordinatorOp Handle → BlockerCoordinator Handle
  | .setMode mode o => (c.setMode o mode).2
  | .renewSleepRequestsAfterResume power => (c.renewSleepRequestsAfterResume power).2
  | .forcedShutdownCleanup power => c.forcedShutdownCleanup power

end Blocker

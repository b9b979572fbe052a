import Wardoff.Runtime.Application

/-!
# The life of a runtime (`src/main.rs`)

`bootstrap`, then `run`: the message loop and, whatever its result, `Application::shutdown`
(`run_with_cleanup`), and last the drop of everything that is still there. A `bootstrap` that fails
drops what it has made so far.

The events are those the message loop handles before it ends; `loop` is its result, which is an
error where `WaitMessage` fails. The layers are seen as in `Blocker.BlockerCoordinator`: their
threads and the windows of Layer 1 are not part of it.
-/

namespace Blocker

variable {Handle : Type}

/-- The outcomes of the calls of the drop of a coordinator. -/
structure DropCalls (Handle : Type) where
  reasonDestroy : Except String Unit
  /-- `JoinHandle::is_finished` of the worker of Layer 2. -/
  finished : Bool
  power : PowerApi Handle

/-- `Drop for ShutdownBlocker`. -/
def ShutdownBlocker.drop (destroy : Except String Unit) (b : ShutdownBlocker) : ShutdownBlocker :=
  { (b.deactivate destroy).2 with blockerActive := false }

/-- The drop of the layers, in the order of the fields. -/
def BlockerCoordinator.drop (o : DropCalls Handle) (c : BlockerCoordinator Handle) :
    BlockerCoordinator Handle where
  mode := c.mode
  shutdownBlocker := c.shutdownBlocker.drop o.reasonDestroy
  localShutdownBlocker := c.localShutdownBlocker.deactivate o.finished
  updateRebootBlocker := c.updateRebootBlocker.deactivate
  remoteShutdownBlocker := c.remoteShutdownBlocker.deactivate
  sleepBlocker := c.sleepBlocker.drop o.power

/-- `BlockerCoordinator::shutdown`, which is `deactivate`. -/
def BlockerCoordinator.shutdown (o : LayerCalls Handle) (c : BlockerCoordinator Handle) :
    Except String Unit × BlockerCoordinator Handle :=
  let (result, c) := c.setMode o .allow
  (result.map fun _ => (), c)

end Blocker

namespace Runtime

open Blocker

variable {Handle : Type}

/-- The result of `run_with_cleanup`. -/
def runWithCleanup (loopResult cleanupResult : Except String Unit) : Except String Unit :=
  match loopResult, cleanupResult with
  | .ok (), .ok () => .ok ()
  | .error loopError, .ok () => .error loopError
  | .ok (), .error cleanupError => .error cleanupError
  | .error loopError, .error cleanupError =>
    .error s!"runtime loop failed: {loopError}; cleanup failed: {cleanupError}"

/-- The result of `Application::shutdown`. -/
def shutdownResult (ipcShutdown blockerShutdown : Except String Unit) : Except String Unit :=
  match ipcShutdown, blockerShutdown with
  | .ok (), .ok () => .ok ()
  | .error ipcError, .ok () => .error ipcError
  | .ok (), .error blockerError => .error blockerError
  | .error ipcError, .error blockerError =>
    .error s!"Wardoff encountered shutdown errors in both the IPC server and blocker coordinator: {ipcError}; {blockerError}"

/-- The outcomes of the calls of a life. -/
structure LifeCalls (Handle : Type) where
  /-- `initialize_structured_logging`. -/
  logging : Except String Unit
  /-- `ShutdownBlocker::new`. -/
  windows : Except String Unit
  bootstrap : Application.BootstrapCalls Handle
  /-- The message loop. -/
  loop : Except String Unit
  /-- `IpcServer::shutdown`. -/
  ipcShutdown : Except String Unit
  blockerShutdown : LayerCalls Handle
  last : DropCalls Handle

/-- `run`. -/
def Application.run (o : LifeCalls Handle) (events : List (Event Handle)) (a : Application Handle) :
    Except String Unit × BlockerCoordinator Handle :=
  let a := events.foldl Event.handle a
  let (blockerShutdown, c) := a.blockerCoordinator.shutdown o.blockerShutdown
  (runWithCleanup o.loop (shutdownResult o.ipcShutdown blockerShutdown), c.drop o.last)

/-- A whole life: its result, and what it leaves of the layers. -/
def life (o : LifeCalls Handle) (options : RuntimeOptions) (events : List (Event Handle)) :
    Except String Unit × BlockerCoordinator Handle :=
  match o.logging, o.windows with
  | .error error, _ => (.error error, {})
  | .ok (), .error error => (.error s!"Layer 1 could not create its shutdown windows: {error}", {})
  | .ok (), .ok () =>
    match BlockerCoordinator.setMode o.bootstrap.layers options.initialMode {} with
    | (.error error, c) => (.error error, c.drop o.last)
    | (.ok _, c) =>
      match Application.bootstrap o.bootstrap options with
      | .error error => (.error error, c.drop o.last)
      | .ok a => a.run o events

end Runtime

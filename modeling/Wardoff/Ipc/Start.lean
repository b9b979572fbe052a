import Wardoff.Ipc.System

/-!
# The start of the servers (`src/ipc.rs`)

`IpcServer::start` names both pipes, spawns the control worker, then the status worker, and waits
for their reports. It returns at the first call that fails: a failed spawn of the status worker
leaves the control worker behind, which already runs and is never joined.

`StartSt` is the system of `step` with the part of `IpcServer::start` that comes before
`wait_for_server_startup`. A worker takes its steps from its spawn on; what the caller does after an
error is not part of it.
-/

namespace Ipc

/-- Where `IpcServer::start` is. -/
inductive StartPc where
  /-- `current_control_pipe_path`. -/
  | namesControl
  /-- `current_status_pipe_path`. -/
  | namesStatus
  | spawnsControl
  | spawnsStatus
  /-- Both workers are spawned: `wait_for_server_startup`, and what follows it. -/
  | spawned
  /-- Returned an error before that; `control`: the control worker is spawned. -/
  | refused (control : Bool)
  deriving DecidableEq, Repr

structure StartSt (Handle : Type) where
  pc : StartPc := .namesControl
  sys : St Handle

variable {Handle : Type}

/-- `IpcServer::start` is called. -/
def StartSt.init (controlClaim statusClaim : Bool) (app : Runtime.Application Handle) :
    StartSt Handle where
  sys := .init controlClaim statusClaim app

end Ipc

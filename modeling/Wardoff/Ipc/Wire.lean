import Wardoff.Blocker.Coordinator

/-!
# The messages of the named pipes (`src/ipc.rs`, `src/cli.rs`)

The requests a client may send to the primary runtime and the replies it gets. The wire encoding
itself (`serde_json`, with the code that `serde` derives) is a parameter of what reads and writes
them.
-/

namespace Ipc

open Blocker (BlockerMode LayerStatus)

/-- The mode transported across the pipe. -/
inductive PipeMode where
  | block
  | allow
  deriving DecidableEq, Repr

def PipeMode.toBlockerMode : PipeMode → BlockerMode
  | .block => .block
  | .allow => .allow

/-- The commands accepted by the primary runtime. -/
inductive IpcRequest where
  | setMode (mode : PipeMode)
  | setAutostart (enabled : Bool)
  | status
  | shutdownServer
  deriving DecidableEq, Repr

inductive StatusState where
  | block
  | allow
  | inactive
  deriving DecidableEq, Repr

def StatusState.ofMode : BlockerMode → StatusState
  | .block => .block
  | .allow => .allow

/-- The payload of `wardoff --status`. -/
structure StatusOutput where
  state : StatusState
  layers : Option LayerStatus
  uptimeSeconds : Option UInt64
  blockedCount : Option UInt64
  deriving DecidableEq, Repr

def StatusOutput.active (mode : BlockerMode) (layers : LayerStatus)
    (uptimeSeconds blockedCount : UInt64) : StatusOutput where
  state := .ofMode mode
  layers := some layers
  uptimeSeconds := some uptimeSeconds
  blockedCount := some blockedCount

/-- The replies returned over the pipe. -/
inductive IpcResponse where
  | ok
  | status (status : StatusOutput)
  | error (message : String)
  deriving DecidableEq, Repr

end Ipc

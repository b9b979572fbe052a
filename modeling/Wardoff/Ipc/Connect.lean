import Wardoff.Ipc.Forward
import Wardoff.Machine.Attempts

/-!
# Claiming and opening the pipes (`src/ipc.rs`, `src/main.rs`)

The loops around `CreateNamedPipeW` and around the open of a pipe, given the outcomes of these
calls: `claim_initial_pipe_instance` of the servers, `connect_control_pipe` and
`connect_status_pipe` of the clients, and `handle_secondary_status_request`, which connects to the
status pipe and, where there is none, to the control pipe within the same budget.

The clock counts nanoseconds. A sleep takes at least as long as it was asked for: what it takes more
is part of the time that has elapsed when the clock is read next.
-/

namespace Ipc

open Machine (Trial retry forAttempts)

/-! ## The first instance of a pipe -/

def initialPipeClaimAttempts : Nat := 10

def isRetryableInitialPipeClaimError (errorCode : Nat) : Bool :=
  (errorCode : Int) == errorAccessDenied

/-- How the loop of `claim_initial_pipe_instance` returns. -/
inductive PipeClaim (Pipe : Type) where
  | claimed (pipe : Pipe)
  /-- The last attempt was denied, too. -/
  | retryWindow (error : String)
  | failed (error : String)
  deriving DecidableEq, Repr

def PipeClaim.toResult {Pipe : Type} (pipePath : String) : PipeClaim Pipe → Except String Pipe
  | .claimed pipe => .ok pipe
  | .retryWindow error =>
    .error s!"Wardoff could not claim its initial pipe instance on {pipePath} within the startup retry window: {error}"
  | .failed error => .error error

section
variable {Pipe : Type}

/-- Whether the loop returns after this outcome of `create_pipe`; otherwise it sleeps. -/
def initialClaimSettles (attempt : Nat) : Except (String × Nat) Pipe → Option (PipeClaim Pipe)
  | .ok pipe => some (.claimed pipe)
  | .error (error, errorCode) =>
    if isRetryableInitialPipeClaimError errorCode && attempt + 1 < initialPipeClaimAttempts then
      none
    else if isRetryableInitialPipeClaimError errorCode then some (.retryWindow error)
    else some (.failed error)

def initialClaimLoop (creates : Nat → Except (String × Nat) Pipe) :
    Option (PipeClaim Pipe) × List (Trial (Except (String × Nat) Pipe)) :=
  retry initialClaimSettles creates initialPipeClaimAttempts

def claimInitialPipeInstance (pipePath : String) (creates : Nat → Except (String × Nat) Pipe) :
    Except String Pipe :=
  match (initialClaimLoop creates).1 with
  | some claim => claim.toResult pipePath
  | none => .error s!"Wardoff could not claim its initial pipe instance on {pipePath}."

end

/-! ## Opening a pipe -/

/-- A `std::io::Error` of an open. -/
structure OpenError where
  text : String
  /-- `raw_os_error`. -/
  rawCode : Option Int
  deriving DecidableEq, Repr

structure OpenAttempt where
  result : Except OpenError Unit
  /-- The time from the last reading of the clock, or from the end of the last sleep as it was asked
  for, to the reading after this attempt. -/
  elapsed : Nat

/-- One of the two connect loops. -/
structure Connecting where
  /-- The clock. -/
  now : Nat
  /-- The outcomes of the opens. -/
  tried : List (Except OpenError Unit) := []
  /-- The delays of `wait_before_pipe_retry`. -/
  delays : List Nat := []

/-- `last_error_code` after the loop. -/
def Connecting.lastErrorCode (c : Connecting) : Option Int :=
  match c.tried.getLast? with
  | some (.error error) => error.rawCode
  | _ => none

/-- After an open. -/
def Connecting.opened (c : Connecting) (o : OpenAttempt) : Connecting :=
  { c with now := c.now + o.elapsed, tried := c.tried ++ [o.result] }

/-- After the sleep of `wait_before_pipe_retry`. -/
def Connecting.slept (c : Connecting) (delay : Nat) : Connecting :=
  { c with now := c.now + delay, delays := c.delays ++ [delay] }

/-- The error may go away. -/
def isRetriedConnectError (rawCode : Option Int) : Bool :=
  rawCode == some errorFileNotFound || rawCode == some errorPathNotFound || rawCode ==
    some errorPipeBusy

section
variable (isControlPipe : Bool) (path : String) (connectDeadline : Option Nat)
    (opens : Nat → OpenAttempt)

/-- One iteration of a connect loop. The clock is only read where the error may go away. -/
def connectAttempt (attempt : Nat) (c : Connecting) :
    Option (Except ClientError Unit) × Connecting :=
  let c := c.opened (opens attempt)
  match (opens attempt).result with
  | .ok () => (some (.ok ()), c)
  | .error error =>
    let delay := if isRetriedConnectError error.rawCode then
        pipeRetryDelay attempt (connectDeadline.map fun deadline => deadline - c.now)
      else none
    match delay with
    | some delay => (none, c.slept delay)
    | none => (some (.error (mapConnectError path isControlPipe error.text error.rawCode)), c)

def connectLoop (now : Nat) : Option (Except ClientError Unit) × Connecting :=
  forAttempts (connectAttempt isControlPipe path connectDeadline opens) 0 pipeConnectAttempts
    { now }

/-- A connect loop, with what follows it. -/
def connectPipe (now : Nat) : Except ClientError Unit × Connecting :=
  match connectLoop isControlPipe path connectDeadline opens now with
  | (some result, c) => (result, c)
  | (none, c) => (.error (finalConnectError path c.lastErrorCode), c)

end

def connectControlPipe : String → Option Nat → (Nat → OpenAttempt) → Nat →
    Except ClientError Unit × Connecting := connectPipe true

def connectStatusPipe : String → Option Nat → (Nat → OpenAttempt) → Nat →
    Except ClientError Unit × Connecting := connectPipe false

/-! ## `wardoff --status` -/

/-- `STATUS_PIPE_DISCOVERY_TIMEOUT`, in nanoseconds. -/
def statusPipeDiscoveryTimeout : Nat := 2 * 1000000000

/-- How the exchange on an open control pipe fails before the reply is read. -/
inductive ExchangeError where
  | serialize (error : String)
  | write (error : String)
  | finish (error : String)
  | flush (error : String)
  deriving DecidableEq, Repr

def ExchangeError.message (path : String) : ExchangeError → String
  | .serialize error => s!"Wardoff could not serialize its IPC request: {error}"
  | .write error => s!"Wardoff could not write to {path}: {error}"
  | .finish error => s!"Wardoff could not finish writing to {path}: {error}"
  | .flush error => s!"Wardoff could not flush {path}: {error}"

/-- The outcomes of the calls of `handle_secondary_status_request`. -/
structure DiscoveryCalls where
  /-- The clock when the budget starts. -/
  start : Nat
  /-- `current_status_pipe_path`. -/
  statusPath : Except String String
  statusOpens : Nat → OpenAttempt
  /-- What arrives on the status pipe, or why it cannot be read. -/
  statusReply : Except String (List UInt8)
  /-- `current_control_pipe_path`. -/
  controlPath : Except String String
  controlOpens : Nat → OpenAttempt
  exchange : Except ExchangeError Unit
  controlReply : Except String (List UInt8)

/-- What `handle_secondary_status_request` has done. -/
structure Discovery where
  /-- The connection to the status pipe, if it was tried. -/
  status : Option (Except ClientError Unit × Connecting)
  /-- The connection to the control pipe, if it was tried. -/
  control : Option (Except ClientError Unit × Connecting)
  /-- What is printed, or the error. -/
  result : Except String String

/-- The connections that were tried, in this order. -/
def Discovery.phases (d : Discovery) : List (Except ClientError Unit × Connecting) :=
  d.status.toList ++ d.control.toList

/-- All the delays that were asked for. -/
def Discovery.delays (d : Discovery) : List Nat := d.phases.flatMap (·.2.delays)

section
variable (replies : Replies) (o : DiscoveryCalls)

def DiscoveryCalls.deadline : Nat := o.start + statusPipeDiscoveryTimeout

/-- `read_status`, with its connection. -/
def DiscoveryCalls.readStatus :
    Except ClientError StatusOutput × Option (Except ClientError Unit × Connecting) :=
  match o.statusPath with
  | .error message => (.error (.transport message), none)
  | .ok path =>
    match connectStatusPipe path (some o.deadline) o.statusOpens o.start with
    | (.error error, c) => (.error error, some (.error error, c))
    | (.ok (), c) => (Ipc.readStatus replies path o.statusReply, some (.ok (), c))

/-- `send_status_request_with_connect_deadline`, with its connection. -/
def DiscoveryCalls.sendStatusRequest (now : Nat) :
    Except ClientError IpcResponse × Option (Except ClientError Unit × Connecting) :=
  match o.controlPath with
  | .error message => (.error (.transport message), none)
  | .ok path =>
    match connectControlPipe path (some o.deadline) o.controlOpens now with
    | (.error error, c) => (.error error, some (.error error, c))
    | (.ok (), c) =>
      match o.exchange with
      | .error error => (.error (.transport (error.message path)), some (.ok (), c))
      | .ok () => (readResponse replies path o.controlReply, some (.ok (), c))

/-- The clock goes on from the one phase to the other. -/
def discoverStatus : Discovery :=
  match o.readStatus replies with
  | (.error .unavailable, status) =>
    let now := match status with
      | some (_, c) => c.now
      | none => o.start
    let (response, control) := o.sendStatusRequest replies now
    { status, control,
      result := handleSecondaryStatusRequest replies (.error .unavailable) response }
  | (reply, status) =>
    { status, control := none,
      result := handleSecondaryStatusRequest replies reply (.error .unavailable) }

end

end Ipc

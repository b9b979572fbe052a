import Mathlib.Algebra.Ring.Nat
import Wardoff.Instance.Claim
import Wardoff.Ipc.Client
import Wardoff.Ipc.System

/-!
# Forwarding a command to the primary (`forward_request_to_primary` of `src/main.rs`)

A process whose claim was Secondary sends its command to the primary over the control pipe
(`send_request` of `src/ipc.rs`). If no pipe is there it claims the mutex again, and where it is
Primary now it runs the command itself.

`forwardStep` is one step of this process, or of the world around it: runtimes start, end at any
time, and make their own steps, other clients included. The calls of the process may fail at any
time and with any error; a write that fails may have written some of its bytes.
-/

open Instance (ClaimDisposition)
open Runtime (Application)

namespace Ipc

/-! ## Connecting -/

def errorFileNotFound : Int := 2

def errorPathNotFound : Int := 3

def errorAccessDenied : Int := 5

def errorPipeBusy : Int := 231

/-- In nanoseconds, as a `Duration` counts. -/
def pipeConnectDelay : Nat := 100 * 1000000

/-- The delay before the next attempt, if there is one. -/
def pipeRetryDelay (attempt : Nat) (remaining : Option Nat) : Option Nat :=
  if pipeConnectAttempts ≤ attempt + 1 then none
  else
    let delay := match remaining with
      | none => pipeConnectDelay
      | some remaining => min remaining pipeConnectDelay
    if delay = 0 then none else some delay

/-- `wait_before_pipe_retry`, without the wait. -/
def waitBeforePipeRetry (attempt : Nat) (remaining : Option Nat) : Bool :=
  (pipeRetryDelay attempt remaining).isSome

def controlPipeAccessDeniedMessage : String :=
  "Wardoff could not send that control command to the active primary runtime. Non-elevated shells can control an elevated Wardoff runtime only for the same interactive Windows user. If Wardoff is running as a different user, close that runtime or relaunch the command from the matching account."

def finalConnectError (path : String) (lastErrorCode : Option Int) : ClientError :=
  if lastErrorCode = some errorFileNotFound ∨ lastErrorCode = some errorPathNotFound
    then .unavailable
  else if lastErrorCode = some errorPipeBusy then
    .transport s!"Wardoff found a primary instance, but {path} stayed busy."
  else .transport s!"Wardoff could not connect to {path}."

def mapConnectError (path : String) (isControlPipe : Bool) (error : String) (rawCode : Option Int) :
    ClientError :=
  if rawCode = some errorFileNotFound ∨ rawCode = some errorPathNotFound then .unavailable
  else if rawCode = some errorAccessDenied ∧ isControlPipe then
    .transport controlPipeAccessDeniedMessage
  else if rawCode = some errorPipeBusy then
    .transport s!"Wardoff found a primary instance, but {path} is busy: {error}"
  else .transport s!"Wardoff could not connect to {path}: {error}"

/-- After a failed attempt: the next one, or the error. -/
def afterOpenError (path error : String) (rawCode : Option Int) (attempt : Nat)
    (remaining : Option Nat) : Except ClientError Nat :=
  let retried := rawCode = some errorFileNotFound ∨ rawCode = some errorPathNotFound ∨
    rawCode = some errorPipeBusy
  if retried ∧ waitBeforePipeRetry attempt remaining then
    if attempt + 1 < pipeConnectAttempts then .ok (attempt + 1)
    else .error (finalConnectError path rawCode)
  else .error (mapConnectError path true error rawCode)

/-! ## The process and the runtimes -/

/-- A connection: the runtime it leads to, and its id there. -/
structure Link where
  runtime : Nat
  id : Nat
  deriving DecidableEq, Repr

inductive ForwardPc where
  /-- `current_control_pipe_path`. -/
  | naming
  | opening (attempt : Nat)
  | serializing (link : Link)
  | writing (link : Link) (payload : List UInt8)
  /-- Writes the newline. -/
  | finishing (link : Link)
  | flushing (link : Link)
  | reading (link : Link)
  /-- `send_request` has returned Unavailable; `claim_primary_instance`. -/
  | claiming
  /-- `local_fallback` runs. -/
  | fallback
  | returned (result : Except String Int)

/-- A runtime that was started, and whether its process is alive. -/
structure Runtime (Handle : Type) where
  st : St Handle
  alive : Bool := true

/-- The process that forwards the command. -/
structure Sender where
  pc : ForwardPc := .naming
  /-- What `send_request` has returned. -/
  sendResult : Option (Except ClientError IpcResponse) := none
  /-- The connections the process has opened (a ghost field). -/
  opened : List Link := []
  /-- The bytes of the request that the process has written to any pipe (a ghost field). -/
  written : List UInt8 := []
  /-- How often `local_fallback` was called (a ghost field). -/
  localRuns : Nat := 0

structure World (Handle : Type) where
  /-- Every runtime that was started. -/
  runtimes : List (Runtime Handle) := []
  sender : Sender := {}

variable {Handle : Type}

def World.goto (w : World Handle) (pc : ForwardPc) : World Handle :=
  { w with sender := { w.sender with pc } }

/-- A step of a living runtime. -/
def World.runtimeStep (w : World Handle) (r : Nat) (f : St Handle → Option (St Handle)) :
    Option (World Handle) :=
  match w.runtimes[r]? with
  | some runtime =>
    if runtime.alive then
      (f runtime.st).map fun st => { w with runtimes := w.runtimes.set r { runtime with st } }
    else none
  | none => none

/-- A step of the process on its connection. -/
def World.linkStep (w : World Handle) (link : Link) (a : ClientAct) : Option (World Handle) :=
  w.runtimeStep link.runtime fun st =>
    if st.controlPipe.serves link.id then clientStep st a else none

/-- The process drops its end of the pipe. -/
def World.closed (w : World Handle) (link : Link) : World Handle :=
  (w.linkStep link .closeControl).getD w

/-- Some bytes get through to the pipe. -/
def World.put (w : World Handle) (link : Link) (bytes : List UInt8) : Option (World Handle) :=
  if bytes.isEmpty then some w
  else (w.linkStep link (.writeControl bytes)).map fun w =>
    { w with sender := { w.sender with written := w.sender.written ++ bytes } }

/-- What `forward_request_to_primary` does with the result of `send_request`. -/
def afterSend : Except ClientError IpcResponse → ForwardPc
  | .ok .ok => .returned (.ok 0)
  | .ok (.error message) => .returned (.error message)
  | .ok (.status _) => .returned (.error "Wardoff received a status payload for a control command.")
  | .error .unavailable => .claiming
  | .error (.transport message) => .returned (.error message)

/-- `send_request` returns. -/
def World.sendReturns (w : World Handle) (result : Except ClientError IpcResponse) : World Handle :=
  { w with sender := { w.sender with sendResult := some result, pc := afterSend result } }

/-- `send_request` fails on a connection, which is dropped. -/
def World.sendFails (w : World Handle) (link : Link) (message : String) : World Handle :=
  (w.closed link).sendReturns (.error (.transport message))

inductive ForwardAct (Handle : Type) where
  /-- A runtime starts its servers. -/
  | start (controlClaim statusClaim : Bool) (app : Application Handle)
  /-- The process of a runtime ends. -/
  | exit (r : Nat)
  /-- A step of a runtime or of another client of it. -/
  | runtime (r : Nat) (a : Act Handle)
  | name (result : Except String Unit)
  /-- The pipe of that runtime is opened. -/
  | openPipe (r : Nat)
  | openFails (error : String) (rawCode : Option Int)
  | serialize
  /-- A write gets so many bytes through, and fails or is complete. -/
  | write (count : Nat) (error : Option String)
  | flush (result : Except String Unit)
  /-- The read fails, or these bytes arrive until it ends. -/
  | read (incoming : Except String (List UInt8))
  | claim (result : Except String ClaimDisposition)
  | fallbackReturns (result : Except String Int)

/-- The step is made by another client on the connection of the process. -/
def Act.onLink (id : Nat) (st : St Handle) : Act Handle → Bool
  | .client (.writeControl _) => st.controlPipe.serves id
  | .client .closeControl => st.controlPipe.serves id
  | _ => false

/-- The process's own connection to that runtime. -/
def World.owns (w : World Handle) (r : Nat) (st : St Handle) (a : Act Handle) : Bool :=
  w.sender.opened.any fun link => link.runtime == r && a.onLink link.id st

/-- `J` is the code the runtimes read requests with, `path` the name of the control pipe, `payload`
what `serde_json::to_string` makes of the request, and `replies` the code the process reads the
reply with. -/
def forwardStep (J : Json) (path : String) (payload : Except String (List UInt8))
    (replies : Replies) (w : World Handle) : ForwardAct Handle → Option (World Handle)
  | .start controlClaim statusClaim app =>
    some { w with runtimes := w.runtimes ++ [{ st := .init controlClaim statusClaim app }] }
  | .exit r =>
    match w.runtimes[r]? with
    | some runtime => some { w with runtimes := w.runtimes.set r { runtime with alive := false } }
    | none => none
  | .runtime r a => w.runtimeStep r fun st => if w.owns r st a then none else step J st a
  | .name result =>
    match w.sender.pc, result with
    | .naming, .ok () => some (w.goto (.opening 0))
    | .naming, .error message => some (w.sendReturns (.error (.transport message)))
    | _, _ => none
  | .openPipe r =>
    match w.sender.pc, w.runtimes[r]? with
    | .opening _, some runtime =>
      (w.runtimeStep r fun st => clientStep st .openControl).map fun w =>
        let link := ⟨r, runtime.st.nextId⟩
        { w with
          sender := { w.sender with opened := w.sender.opened ++ [link], pc := .serializing link } }
    | _, _ => none
  | .openFails error rawCode =>
    match w.sender.pc with
    | .opening attempt =>
      match afterOpenError path error rawCode attempt none with
      | .ok attempt => some (w.goto (.opening attempt))
      | .error error => some (w.sendReturns (.error error))
    | _ => none
  | .serialize =>
    match w.sender.pc, payload with
    | .serializing link, .ok bytes => some (w.goto (.writing link bytes))
    | .serializing link, .error error =>
      some (w.sendFails link s!"Wardoff could not serialize its IPC request: {error}")
    | _, _ => none
  | .write count error =>
    match w.sender.pc, error with
    | .writing link bytes, none => (w.put link bytes).map fun w => w.goto (.finishing link)
    | .writing link bytes, some error =>
      (w.put link (bytes.take count)).map fun w =>
        w.sendFails link s!"Wardoff could not write to {path}: {error}"
    | .finishing link, none => (w.put link [newline]).map fun w => w.goto (.flushing link)
    | .finishing link, some error =>
      some (w.sendFails link s!"Wardoff could not finish writing to {path}: {error}")
    | _, _ => none
  | .flush result =>
    match w.sender.pc, result with
    | .flushing link, .ok () => some (w.goto (.reading link))
    | .flushing link, .error error =>
      some (w.sendFails link s!"Wardoff could not flush {path}: {error}")
    | _, _ => none
  | .read incoming =>
    match w.sender.pc with
    | .reading link => some ((w.closed link).sendReturns (readResponse replies path incoming))
    | _ => none
  | .claim result =>
    match w.sender.pc, result with
    | .claiming, .error message => some (w.goto (.returned (.error message)))
    | .claiming, .ok .primary => 
      some { w with
        sender := { w.sender with pc := .fallback, localRuns := w.sender.localRuns + 1 } }
    | .claiming, .ok .secondary =>
      some (w.goto (.returned (.error activePrimaryPipeUnavailableMessage)))
    | _, _ => none
  | .fallbackReturns result =>
    match w.sender.pc with
    | .fallback => some (w.goto (.returned result))
    | _ => none

/-- How often a runtime has handled a request from a connection of the process. -/
def World.remoteRuns (w : World Handle) : Nat :=
  (w.sender.opened.map fun link =>
    match w.runtimes[link.runtime]? with
    | some runtime => runtime.st.handled.countP (·.id == link.id)
    | none => 0).sum

end Ipc

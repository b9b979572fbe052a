import Wardoff.Ipc.Wire
import Wardoff.Text.Codec

/-!
# Reading a control request (`read_request` of `src/ipc.rs`)

A request is one line of JSON of at most `maxRequestBytes` bytes, the newline included. The worker
polls a nonblocking pipe until the line is complete, the client is gone or the deadline has passed.
`readIteration` is one iteration of that loop: what it does with the outcome of one `ReadFile`.
`readRequestUntilDeadline` is the loop, given the outcomes it meets.

`serde_json` is a parameter (`Json`).
-/

namespace Ipc

open Text (Codec isWhitespace trimEnd utf8)

/-- `MAX_REQUEST_BYTES`: includes the terminating newline. -/
def maxRequestBytes : Nat := 4096

/-- The byte `\n`. -/
def newline : UInt8 := 10

/-- The code outside the repository that takes a line apart and puts one together: `serde_json`,
with the derived code of `IpcRequest`. -/
structure Json extends Codec IpcRequest where
  /-- The text of a `Utf8Error`. -/
  utf8Error : List UInt8 → String

/-- The bytes of `serde_json::to_string` of a request, which does not fail. -/
def Json.line (J : Json) (request : IpcRequest) : List UInt8 := utf8 (J.encode request)

def Json.shutdownServer (J : Json) : List UInt8 := J.line .shutdownServer

/-- A complete line: it is UTF-8, it is not blank, and its right-trimmed text is a request. -/
def Json.parseLine (J : Json) (line : List UInt8) : Except String IpcRequest :=
  match String.fromUTF8? ⟨line.toArray⟩ with
  | none => .error s!"Wardoff received malformed IPC JSON: {J.utf8Error line}"
  | some text =>
    if text.toList.all isWhitespace then .error "Wardoff received an empty IPC request."
    else
      match J.decode (trimEnd text) with
      | .ok request => .ok request
      | .error error => .error s!"Wardoff received malformed IPC JSON: {error}"

/-- `incomplete_request_error`. -/
def incompleteRequestError (empty : Bool) : String :=
  if empty then "Wardoff received an empty IPC request."
  else "Wardoff received an IPC request without a terminating newline."

/-- The error of a request that is too long. -/
def oversizeRequestError : String := s!"Wardoff IPC request exceeds {maxRequestBytes} bytes."

/-- What one iteration of the read loop meets. -/
inductive ReadOutcome where
  /-- The deadline has passed before the read. -/
  | timedOut
  | chunk (bytes : List UInt8)
  /-- A read of no bytes. -/
  | eof
  /-- `ERROR_NO_DATA`: nothing to read yet. -/
  | noData
  /-- `ERROR_BROKEN_PIPE`: the client is gone. -/
  | brokenPipe
  | failed (error : String)
  deriving DecidableEq, Repr

inductive ReadResult where
  | more (line : List UInt8)
  | done (result : Except String IpcRequest)

/-- One iteration of `read_request_until_deadline`, with `line` read so far. -/
def readIteration (J : Json) (line : List UInt8) : ReadOutcome → ReadResult
  | .timedOut => .done (.error "Wardoff timed out reading an IPC request.")
  | .eof => .done (.error (incompleteRequestError line.isEmpty))
  | .noData => .more line
  | .brokenPipe => .done (.error (incompleteRequestError line.isEmpty))
  | .failed error => .done (.error s!"Wardoff could not read an IPC request: {error}")
  | .chunk bytes =>
    let position := bytes.findIdx? (· == newline)
    let lineBytes := match position with
      | some position => position + 1
      | none => bytes.length
    if maxRequestBytes < line.length + lineBytes then .done (.error oversizeRequestError)
    else
      let line := line ++ bytes.take lineBytes
      if position.isSome then .done (J.parseLine line)
      -- a full buffer without a newline cannot complete within the frame limit
      else if line.length = maxRequestBytes then .done (.error oversizeRequestError)
      else .more line

/-- `request_line` at the end of an iteration, also of the last one. -/
def requestLineAfter (line : List UInt8) : ReadOutcome → List UInt8
  | .chunk bytes =>
    let lineBytes := match bytes.findIdx? (· == newline) with
      | some position => position + 1
      | none => bytes.length
    if maxRequestBytes < line.length + lineBytes then line else line ++ bytes.take lineBytes
  | _ => line

/-- The loop: what it has read, and its result once it has returned. -/
structure ReadLoop where
  requestLine : List UInt8 := []
  result : Option (Except String IpcRequest) := none

/-- An outcome that comes after the loop has returned is not met. -/
def ReadLoop.step (J : Json) (r : ReadLoop) (outcome : ReadOutcome) : ReadLoop :=
  match r.result with
  | some _ => r
  | none =>
    match readIteration J r.requestLine outcome with
    | .more line => { requestLine := line }
    | .done result =>
      { requestLine := requestLineAfter r.requestLine outcome, result := some result }

def readRequestUntilDeadline (J : Json) (outcomes : List ReadOutcome) : ReadLoop :=
  outcomes.foldl (ReadLoop.step J) {}

end Ipc

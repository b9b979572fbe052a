import Wardoff.Ipc.Frame

/-!
# Replies on the pipes (`src/ipc.rs`, `src/main.rs`)

What the servers write (`write_response`, `write_status_output`), what the clients make of the bytes
they receive (`send_request`, `read_status`) and what `wardoff --status` prints. `serde_json` is a
parameter (`Replies`).
-/

namespace Ipc

open Text (Codec utf8 ofUtf8? pieces trimEnd)

/-- Why a client could not talk to the primary runtime. -/
inductive ClientError where
  /-- No primary runtime was reachable on the named pipe. -/
  | unavailable
  | transport (message : String)
  deriving DecidableEq, Repr

/-- The code outside the repository that writes and reads the replies: `serde_json`, with the
derived code of these types. It does not fail to write one. -/
structure Replies where
  response : Codec IpcResponse
  status : Codec StatusOutput

/-! ## Writing -/

/-- The bytes of `write_response`. -/
def writeResponse (replies : Replies) (response : IpcResponse) : List UInt8 :=
  utf8 (replies.response.encode response) ++ [newline]

/-- The bytes of `write_status_output`. -/
def writeStatusOutput (replies : Replies) (status : StatusOutput) : List UInt8 :=
  utf8 (replies.status.encode status) ++ [newline]

/-! ## Reading -/

/-- `BufReader::read_line`, given the bytes that arrive until the end. -/
def readLine (bytes : List UInt8) : Except String String :=
  match pieces bytes with
  | [] => .ok ""
  | piece :: _ =>
    match ofUtf8? piece with
    | some text => .ok text
    | none => .error "stream did not contain valid UTF-8"

/-- The texts a client reports a bad reply with. -/
structure ReplyTexts where
  notRead : String → String
  missing : String
  malformed : String → String

/-- Reads one line and decodes it. `incoming` is an I/O error, or the bytes that arrive. -/
def readReply {α : Type} (codec : Codec α) (texts : ReplyTexts)
    (incoming : Except String (List UInt8)) :
    Except ClientError α :=
  match incoming.bind readLine with
  | .error error => .error (.transport (texts.notRead error))
  | .ok line =>
    if line.isEmpty then .error (.transport texts.missing)
    else match codec.decode (trimEnd line) with
      | .ok reply => .ok reply
      | .error error => .error (.transport (texts.malformed error))

def controlReplyTexts (controlPipePath : String) : ReplyTexts where
  notRead error := s!"Wardoff could not read the reply from {controlPipePath}: {error}"
  missing := s!"Wardoff did not receive any reply from {controlPipePath}."
  malformed error := s!"Wardoff received malformed IPC JSON from {controlPipePath}: {error}"

def statusReplyTexts (statusPipePath : String) : ReplyTexts where
  notRead error := s!"Wardoff could not read the status reply from {statusPipePath}: {error}"
  missing := s!"Wardoff did not receive any status reply from {statusPipePath}."
  malformed error := s!"Wardoff received malformed status JSON from {statusPipePath}: {error}"

/-- The end of `send_request`. -/
def readResponse (replies : Replies) (controlPipePath : String)
    (incoming : Except String (List UInt8)) :
    Except ClientError IpcResponse :=
  readReply replies.response (controlReplyTexts controlPipePath) incoming

/-- The end of `read_status`. -/
def readStatus (replies : Replies) (statusPipePath : String)
    (incoming : Except String (List UInt8)) :
    Except ClientError StatusOutput :=
  readReply replies.status (statusReplyTexts statusPipePath) incoming

/-! ## `wardoff --status` of a secondary process -/

def activePrimaryPipeUnavailableMessage : String :=
  "Wardoff found an active primary instance, but its control pipe is unavailable. The primary instance may still be starting up or shutting down."

/-- What is printed, or the error, given the result of the request over the control pipe. -/
def handleSecondaryStatusRequestViaControlPipe (replies : Replies) :
    Except ClientError IpcResponse → Except String String
  | .ok (.status status) => .ok (replies.status.encode status)
  | .ok (.error message) => .error message
  | .ok .ok => .error "Wardoff received an unexpected empty response for --status."
  | .error .unavailable => .error activePrimaryPipeUnavailableMessage
  | .error (.transport message) => .error message

/-- What is printed, or the error, given the result of `read_status` and, where the status pipe is
unavailable, that of the request over the control pipe. -/
def handleSecondaryStatusRequest (replies : Replies) (status : Except ClientError StatusOutput)
    (control : Except ClientError IpcResponse) : Except String String :=
  match status with
  | .ok status => .ok (replies.status.encode status)
  | .error .unavailable => handleSecondaryStatusRequestViaControlPipe replies control
  | .error (.transport message) => .error message

end Ipc

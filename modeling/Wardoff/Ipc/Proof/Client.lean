import Wardoff.Ipc.Client
import Wardoff.Ipc.Proof.Frame

/-!
# The wire format round-trips

* `readReply_line`: a client that reads the line of a message and takes its end off gets what the
  message is decoded to.
* `replies_round_trip`: so a client gets the response that was written, and the two ways to ask for
  the status agree.

Of `serde_json` they need that it writes the message on one line and reads it back
(`Text.Codec.Carries`).
-/

namespace Ipc

open Text (Codec OneLine utf8 lf)

/-! ## Lines -/

/-- A text on one line is the line that is read. -/
theorem readLine_text {text : String} (h : OneLine text) (rest : List UInt8) :
    readLine (utf8 text ++ newline :: rest) = .ok (text ++ "\n") := by
  have hline : utf8 text ++ [newline] = utf8 (text ++ "\n") := by
    rw [Text.utf8_append]
    rfl
  have hpieces := Text.pieces_line h.newline rest
  rw [readLine, show newline = lf from rfl, hpieces]
  simp only [show lf = newline from rfl, hline, Text.ofUtf8?_utf8]

section
variable {α : Type} {codec : Codec α} {texts : ReplyTexts} {incoming : Except String (List UInt8)}

/-- A reply that cannot be read is no reason to fall back. -/
theorem readReply_ne_unavailable : readReply codec texts incoming ≠ .error .unavailable := by
  unfold readReply
  split
  · simp
  · split
    · simp
    · split <;> simp

/-- A client that reads the line of a message gets the message. -/
theorem readReply_line {reply : α} (h : codec.Carries reply) (rest : List UInt8) :
    readReply codec texts (.ok (utf8 (codec.encode reply) ++ newline :: rest)) = .ok reply := by
  have hread : Except.bind (.ok (utf8 (codec.encode reply) ++ newline :: rest)) readLine =
      .ok (codec.encode reply ++ "\n") := readLine_text h.line rest
  have hne : (codec.encode reply ++ "\n").isEmpty = false := by
    simp [String.isEmpty_eq_false_iff]
  simp only [readReply, hread, hne, h.line.trimEnd_append, h.decoded]
  rfl

end

/-! ## Messages -/

section
variable {replies : Replies} {response : IpcResponse} {status : StatusOutput}

theorem readResponse_writeResponse (h : replies.response.Carries response)
    (controlPipePath : String) :
    readResponse replies controlPipePath (.ok (writeResponse replies response)) = .ok response :=
  readReply_line h []

theorem readStatus_writeStatusOutput (h : replies.status.Carries status) (statusPipePath : String) :
    readStatus replies statusPipePath (.ok (writeStatusOutput replies status)) = .ok status :=
  readReply_line h []

/-- **The wire format round-trips, and the two ways to the status agree.** A client of the control
pipe gets the response that was written. A client of the status pipe gets from `write_status_output`
what the client of the control pipe gets from the Status response, and both print the same text. -/
theorem replies_round_trip (controlPipePath statusPipePath : String)
    (hresponse : replies.response.Carries response) (hstatus : replies.status.Carries status)
    (hboth : replies.response.Carries (.status status)) (other : Except ClientError IpcResponse) :
    readResponse replies controlPipePath (.ok (writeResponse replies response)) = .ok response ∧
    (∃ obtained, readStatus replies statusPipePath (.ok (writeStatusOutput replies status)) =
      .ok obtained ∧
      readResponse replies controlPipePath (.ok (writeResponse replies (.status status))) =
        .ok (.status obtained)) ∧
    handleSecondaryStatusRequest replies
        (readStatus replies statusPipePath (.ok (writeStatusOutput replies status))) other =
      .ok (replies.status.encode status) ∧
    handleSecondaryStatusRequest replies (.error .unavailable)
        (readResponse replies controlPipePath (.ok (writeResponse replies (.status status)))) =
      .ok (replies.status.encode status) := by
  have hobtained := readStatus_writeStatusOutput hstatus statusPipePath
  have hfallback := readResponse_writeResponse hboth controlPipePath
  refine ⟨readResponse_writeResponse hresponse controlPipePath, ⟨status, hobtained, hfallback⟩, ?_⟩
  rw [hobtained, hfallback]
  exact ⟨rfl, rfl⟩

end

/-- An error with quotes, a newline and a space at its end. -/
def quotedError : IpcResponse := .error "Layer 3: \"denied\"\n\\ "

/-- A status with a counter at its maximum, and one that is absent. -/
def longStatus : StatusOutput where
  state := .block
  layers := some { shutdown := true, localShutdown := true, update := true, remote := false,
                   sleep := true }
  uptimeSeconds := some 18446744073709551615
  blockedCount := none

/-- The object of `longStatus`. -/
def longStatusText : String :=
  "\x7b\"state\":\"block\",\"layers\":\x7b\"shutdown\":true,\"local_shutdown\":true,\"update\":true,\"remote\":false,\"sleep\":true\x7d,\"uptime_seconds\":18446744073709551615\x7d"

/-- The texts of `serde_json` for these replies. -/
def sampleReplies : List (IpcResponse × String) :=
  [(.ok, "\x7b\"type\":\"ok\"\x7d"),
    (quotedError, "\x7b\"type\":\"error\",\"message\":\"Layer 3: \\\"denied\\\"\\n\\\\ \"\x7d"),
    (.status longStatus, "\x7b\"type\":\"status\",\"status\":" ++ longStatusText ++ "\x7d")]

/-- `serde_json` on the replies of `sampleReplies`, and on `longStatus`. -/
def Replies.sample : Replies where
  response := {
    encode := fun response => (sampleReplies.lookup response).getD ""
    decode := fun text =>
      match sampleReplies.find? (·.2 == text) with
      | some (response, _) => .ok response
      | none => .error "expected value at line 1 column 1" }
  status := {
    encode := fun status => if status = longStatus then longStatusText else ""
    decode := fun text =>
      if text = longStatusText then .ok longStatus else .error "expected value at line 1 column 1" }

theorem replies_round_trip_escaped :
    readResponse .sample "control" (.ok (writeResponse .sample quotedError)) = .ok quotedError ∧
    (∃ obtained, readStatus .sample "status" (.ok (writeStatusOutput .sample longStatus)) =
      .ok obtained ∧
      readResponse .sample "control" (.ok (writeResponse .sample (.status longStatus))) =
        .ok (.status obtained)) ∧
    handleSecondaryStatusRequest .sample
        (readStatus .sample "status" (.ok (writeStatusOutput .sample longStatus)))
        (.error .unavailable) =
      .ok longStatusText ∧
    handleSecondaryStatusRequest .sample (.error .unavailable)
        (readResponse .sample "control" (.ok (writeResponse .sample (.status longStatus)))) =
      .ok longStatusText := by
  have herror : Replies.sample.response.Carries quotedError :=
    ⟨by decide +kernel, by decide +kernel⟩
  have hstatus : Replies.sample.status.Carries longStatus := ⟨by decide +kernel, by decide +kernel⟩
  have hboth : Replies.sample.response.Carries (.status longStatus) :=
    ⟨by decide +kernel, by decide +kernel⟩
  exact replies_round_trip "control" "status" herror hstatus hboth (.error .unavailable)

end Ipc

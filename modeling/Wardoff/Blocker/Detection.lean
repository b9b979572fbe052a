import Wardoff.Blocker.Polling
import Wardoff.Text.Utf16

/-!
# The events of Layer 2 (`src/blocker/local.rs`)

`processEventRecord` is what `process_event_record` does with one event of the trace: the calls and
the log records, in this order. The properties of an event are given as the bytes that
`TdhGetProperty` returns, and `fileName` is `Path::file_name`.
-/

namespace Blocker

open Text (decodeUtf16)

def layer2ProcessStartEventId : UInt16 := 1

def layer2ProcessStartTask : UInt16 := 1

def layer2ProcessStartOpcode : UInt8 := 1

def shutdownImageName : String := "shutdown.exe"

def kernelProcessProviderGuid : BitVec 128 := 0x22fb2cd60e7b422ba0c72fad1fd0e716#128

/-- An `EVENT_RECORD`. -/
structure EventRecord where
  providerId : BitVec 128
  id : UInt16
  task : UInt16
  opcode : UInt8
  processId : UInt32
  /-- `read_property_bytes`. -/
  property : String → Option (List UInt8)

/-! ## Properties -/

section
variable (littleEndian : Bool)

/-- `u16::from_ne_bytes`. -/
def u16FromNeBytes (a b : UInt8) : UInt16 :=
  if littleEndian then .ofNat (a.toNat + 0x100 * b.toNat) else .ofNat (b.toNat + 0x100 * a.toNat)

/-- `u32::from_ne_bytes`. -/
def u32FromNeBytes (a b c d : UInt8) : UInt32 :=
  if littleEndian then .ofNat (a.toNat + 0x100 * (b.toNat + 0x100 * (c.toNat + 0x100 * d.toNat)))
  else .ofNat (d.toNat + 0x100 * (c.toNat + 0x100 * (b.toNat + 0x100 * a.toNat)))

/-- The whole chunks of two bytes. -/
def codeUnits : List UInt8 → List UInt16
  | a :: b :: rest => u16FromNeBytes littleEndian a b :: codeUnits rest
  | _ => []

def readUnicodeProperty (record : EventRecord) (propertyName : String) : Option String :=
  match record.property propertyName with
  | none => none
  | some propertyBuffer =>
    if propertyBuffer.length < 2 then none
    else
      let propertyBuffer :=
        if propertyBuffer.length % 2 ≠ 0 then propertyBuffer.dropLast else propertyBuffer
      let utf16 := (codeUnits littleEndian propertyBuffer).takeWhile (· != 0)
      if utf16.isEmpty then none
      -- `String::from_utf16`
      else (decodeUtf16 utf16).map String.ofList

def readU32Property (record : EventRecord) (propertyName : String) : Option UInt32 :=
  match record.property propertyName with
  | some (a :: b :: c :: d :: _) => some (u32FromNeBytes littleEndian a b c d)
  | _ => none

end

/-! ## Detection -/

/-- `str::eq_ignore_ascii_case`. -/
def eqIgnoreAsciiCase (a b : String) : Bool :=
  a.toList.map Char.toLower == b.toList.map Char.toLower

/-- A `shutdown.exe` that has started. -/
structure Detected where
  processId : UInt32
  parentProcessId : UInt32
  imageBasename : String
  deriving DecidableEq, Repr

def Detected.details (d : Detected) : String :=
  s!"(pid={d.processId}, parent_pid={d.parentProcessId}, image={d.imageBasename})"

inductive Layer2Effect where
  /-- `logger::log_event`, with the source `EventSource::Local`. -/
  | log (event action : String) (success : Bool)
  | abortPendingShutdown
  /-- `super::record_blocked_event`. -/
  | recordBlockedEvent
  deriving DecidableEq, Repr

section
variable (littleEndian : Bool) (fileName : String → Option String)

def basenameOrOriginal (imageName : String) : String := (fileName imageName).getD imageName

/-- The event is a process start of `shutdown.exe`. -/
def detect (record : EventRecord) : Option Detected :=
  if record.providerId ≠ kernelProcessProviderGuid then none
  else if record.id ≠ layer2ProcessStartEventId ∨ record.task ≠ layer2ProcessStartTask ∨
      record.opcode ≠ layer2ProcessStartOpcode then none
  else match readUnicodeProperty littleEndian record "ImageName" with
    | none => none
    | some imageName =>
      let imageBasename := basenameOrOriginal fileName imageName
      if eqIgnoreAsciiCase imageBasename shutdownImageName then
        some {
          processId := (readU32Property littleEndian record "ProcessID").getD record.processId
          parentProcessId := (readU32Property littleEndian record "ParentProcessID").getD 0
          imageBasename }
      else none

/-- What follows the call of `abort_pending_shutdown`. -/
def afterAbort (d : Detected) : ShutdownAbortOutcome → List Layer2Effect
  | .aborted => [.recordBlockedEvent,
    .log "local_shutdown_abort_succeeded"
      s!"Layer 2 detected shutdown.exe {d.details} and AbortSystemShutdownW(None) aborted a pending shutdown."
      true]
  | .noShutdownPending => [.log "local_shutdown_abort_not_needed"
      s!"Layer 2 detected shutdown.exe {d.details} but AbortSystemShutdownW(None) reported that no shutdown was pending. This can happen when the local shutdown path was already past the abortable window, including fast paths such as shutdown /t 0 /f."
      false]
  | .accessDenied details => [.log "local_shutdown_abort_failed"
      s!"Layer 2 detected shutdown.exe {d.details} but AbortSystemShutdownW(None) was denied: {details}" false]
  | .failed details => [.log "local_shutdown_abort_failed"
      s!"Layer 2 detected shutdown.exe {d.details} but AbortSystemShutdownW(None) failed unexpectedly: {details}"
      false]

/-- `outcome` is that of `abort_pending_shutdown`. -/
def processEventRecord (record : EventRecord) (outcome : ShutdownAbortOutcome) :
    List Layer2Effect :=
  match detect littleEndian fileName record with
  | none => []
  | some d =>
    .log "local_shutdown_process_detected"
        s!"Layer 2 detected a local shutdown.exe process start {d.details} and is attempting AbortSystemShutdownW(None)."
        true ::
      .abortPendingShutdown :: afterAbort d outcome

end

end Blocker

import Wardoff.Logger.Files
import Wardoff.Machine.Run

/-!
# The writer thread and its queue (`src/logger/mod.rs`)

Any thread may log: `log_event` puts a record together and sends it to the writer thread, which
takes the commands in their order. `shutdown_structured_logging` sends a command of its own and
joins the writer; what is sent after it is lost. The main thread alone starts and stops the writer,
and may do so more than once.

`logStep` is one step of one thread. `sent`, `processed` and `flushed` are ghost fields.
-/

namespace Logger

/-- The subsystem that emitted a record. -/
inductive EventSource where
  | autostart
  | application
  | cli
  | ipc
  | localLayer
  | remote
  | shutdown
  | sleep
  | tray
  | updateOrchestrator
  deriving DecidableEq, Repr

def EventSource.label : EventSource → String
  | .autostart => "autostart"
  | .application => "application"
  | .cli => "cli"
  | .ipc => "ipc"
  | .localLayer => "local"
  | .remote => "remote"
  | .shutdown => "shutdown"
  | .sleep => "sleep"
  | .tray => "tray"
  | .updateOrchestrator => "update_orchestrator"

/-- `now` is the text of the current time. -/
def LogRecord.new (now : String) (event : String) (source : EventSource) (action : String)
    (success : Bool) :
    LogRecord :=
  { timestamp := now, event, source := source.label, action, success }

inductive LogCommand where
  | record (record : LogRecord)
  | shutdown
  deriving DecidableEq, Repr

/-- `run_writer_loop`. -/
inductive WriterPc where
  /-- Not spawned. -/
  | absent
  | receiving
  /-- Has returned; its receiver is gone. -/
  | finished
  deriving DecidableEq, Repr

/-- The main thread in `shutdown_structured_logging`. -/
inductive MainPc where
  | idle
  /-- Has sent the command; about to take the join handle. -/
  | taking
  | joining
  deriving DecidableEq, Repr

structure LogSt where
  /-- `LOG_COMMANDS` is set. -/
  initialized : Bool := false
  /-- `WRITER_HANDLE` holds the join handle. -/
  handle : Bool := false
  queue : List LogCommand := []
  writer : WriterPc := .absent
  main : MainPc := .idle
  /-- The record a thread is about to send. -/
  threads : Nat → Option LogRecord := fun _ => none
  log : Log := {}
  /-- The commands that were sent, in this order. -/
  sent : List LogCommand := []
  /-- The records given to `write_record`, with the outcomes of its calls. -/
  processed : List (Fs × LogRecord) := []
  /-- `shutdown_structured_logging` has joined the writer. -/
  flushed : Bool := false

inductive LogAct where
  /-- `initialize_structured_logging`; `spawn` is the outcome of starting the thread. -/
  | start (spawn : Except String Unit)
  /-- A thread calls `log_event`; `now` is the time at which it puts the record together. -/
  | log (thread : Nat) (now event : String) (source : EventSource) (action : String)
      (success : Bool)
  /-- It sends the record. -/
  | send (thread : Nat)
  /-- `shutdown_structured_logging` is called. -/
  | shutdown
  | take
  | join
  /-- The writer takes the next command; `fs` are the outcomes of the calls of its
  `write_record`. -/
  | write (fs : Fs)

/-- Sends a command; it is lost where the receiver is gone. -/
def LogSt.push (s : LogSt) (command : LogCommand) : LogSt :=
  { s with
    queue := if s.writer = .finished then s.queue else s.queue ++ [command]
    sent := s.sent ++ [command] }

/-- `toJson` is what `serde_json::to_string` makes of a record. -/
def logStep (toJson : LogRecord → String) (path : String) (s : LogSt) : LogAct → Option LogSt
  | .start spawn =>
    match s.main with
    | .idle =>
      if s.initialized then some s
      else match spawn with
        | .error _ => some s
        | .ok () => some { s with initialized := true, handle := true, writer := .receiving }
    | _ => none
  | .log thread now event source action success =>
    match s.threads thread with
    | none =>
      -- without a sender `log_event` returns
      if s.initialized then
        let record := LogRecord.new now event source action success
        some { s with threads := Function.update s.threads thread (some record) }
      else some s
    | some _ => none
  | .send thread =>
    match s.threads thread with
    | some record =>
      some { s.push (.record record) with threads := Function.update s.threads thread none }
    | none => none
  | .shutdown =>
    match s.main with
    | .idle =>
      if s.initialized then some { s.push .shutdown with main := .taking }
      else some { s with main := .taking }
    | _ => none
  | .take =>
    match s.main with
    | .taking =>
      if s.handle then some { s with handle := false, main := .joining }
        else some { s with main := .idle }
    | _ => none
  | .join =>
    match s.main, s.writer with
    | .joining, .finished => some { s with main := .idle, flushed := true }
    | _, _ => none
  | .write fs =>
    match s.writer, s.queue with
    | .receiving, .record record :: queue =>
      some { s with
        queue
        log := s.log.record toJson fs path record
        processed := s.processed ++ [(fs, record)] }
    | .receiving, .shutdown :: queue => some { s with queue, writer := .finished }
    | _, _ => none

end Logger

import Wardoff.Ipc.Frame
import Wardoff.Machine.Run
import Wardoff.Runtime.Application

/-!
# The IPC servers and the UI thread (`src/ipc.rs`, `src/main.rs`)

Four parties share a request queue, per-request reply channels, a shutdown flag with its gate, and
two named pipes of one instance each: the control worker (`run_server_loop`), the status worker
(`run_status_server_loop`), the UI thread (`IpcServer::start`, the message loop and
`Application::shutdown`) and any number of clients. `step` is one step of one party; what the source
does without touching anything shared is part of the step before it.

A pipe instance is `listening` until a client opens it, and stays `connected` until the server drops
it, also when the client has closed its end. A connection is told from others by its `id`; a control
connection carries at most one request, so that its `id` also names the request.

The replies the workers write are smaller than the pipe's buffer: a write succeeds or fails, it does
not wait for the client. Threads do not panic. `handled` and `sent` are ghost logs, and so is the
`origin` of a reply; no step depends on them but the UI thread's read of the reply to its own
request.
-/

open Runtime (Application Event RequestCalls)

namespace Ipc

/-! ## Pipes and channels -/

/-- A client's connection to a pipe instance. -/
structure Conn where
  id : Nat
  /-- The client is the UI thread itself. -/
  ui : Bool
  /-- Written by the client and not read yet. -/
  unread : List UInt8 := []
  isOpen : Bool := true
  deriving DecidableEq, Repr

/-- The single instance of a named pipe. -/
inductive Pipe where
  | absent
  | listening
  | connected (conn : Conn)
  deriving DecidableEq, Repr

/-- The client end of the connection `id` is closed. -/
def Pipe.close (id : Nat) : Pipe → Pipe
  | .connected conn =>
    if conn.id = id then .connected { conn with isOpen := false } else .connected conn
  | p => p

/-- The instance still belongs to the connection `id`. -/
def Pipe.serves (id : Nat) : Pipe → Bool
  | .connected conn => conn.id == id
  | _ => false

/-- Where a reply comes from: `handle_ipc_request`, the drain of the shutting down UI thread, or the
worker itself. -/
inductive Origin where
  | handling
  | rejection
  | worker
  deriving DecidableEq, Repr

structure Reply where
  response : IpcResponse
  origin : Origin
  deriving DecidableEq, Repr

/-- A request with the reply channel that belongs to its connection. -/
structure PendingRequest where
  id : Nat
  request : IpcRequest
  deriving DecidableEq, Repr

/-- A reply written to a control client. -/
structure Sent where
  id : Nat
  request : Option IpcRequest
  reply : Reply
  deriving DecidableEq, Repr

/-- A request that went through `handle_ipc_request`. -/
structure Handled where
  id : Nat
  request : IpcRequest
  response : IpcResponse
  deriving DecidableEq, Repr

inductive ServerStartupKind where
  | control
  | status
  deriving DecidableEq, Repr

/-- The report of a worker that claimed its initial pipe instance, or failed to. -/
structure ServerStartupResult where
  kind : ServerStartupKind
  ok : Bool
  deriving DecidableEq, Repr

def shuttingDown : IpcResponse := .error "Wardoff is shutting down."

/-! ## Where each party is -/

/-- `run_server_loop`. -/
inductive ControlPc where
  /-- Claims the initial instance. -/
  | claiming
  | reporting
  /-- Creates the next instance. -/
  | creating
  /-- Owns an instance and calls `ConnectNamedPipe`. -/
  | connecting
  /-- Blocked in `ConnectNamedPipe`. -/
  | waiting
  /-- Serves a client; about to bound its reads. -/
  | accepted (id : Nat)
  | reading (id : Nat) (line : List UInt8)
  | enqueueing (id : Nat) (request : IpcRequest)
  /-- Queued the request; about to wake the UI thread. -/
  | waking (id : Nat) (request : IpcRequest)
  /-- Blocked in `response_rx.recv()`. -/
  | awaiting (id : Nat) (request : IpcRequest)
  /-- Writes a reply, then drops the instance; `stop`: and leaves the loop. -/
  | responding (id : Nat) (request : Option IpcRequest) (reply : Reply) (stop : Bool)
  | exited
  deriving DecidableEq, Repr

/-- `run_status_server_loop`. -/
inductive StatusPc where
  | claiming
  | reporting
  /-- Takes the accept gate; `initial`: with the initial instance in hand. -/
  | locking (initial : Bool)
  /-- Holds the gate; checks the flag and publishes an instance. -/
  | publishing (initial : Bool)
  /-- Holds the gate; its instance is published. -/
  | unlocking
  | connecting
  | waiting
  /-- Serves a client; checks the flag again. -/
  | rechecking (id : Nat)
  | enqueueing (id : Nat)
  | waking (id : Nat)
  | awaiting (id : Nat)
  | responding (response : IpcResponse)
  | exited
  deriving DecidableEq, Repr

/-- On whose behalf the UI thread stops the servers: the cleanup of a failed startup,
`Application::shutdown` before its drain (`begin_shutdown`), or after it (`IpcServer::shutdown`). -/
inductive Stop where
  | startup (controlReady : Bool)
  | begin
  | final
  deriving DecidableEq, Repr

/-- The UI thread. -/
inductive UiPc where
  /-- In `wait_for_server_startup`, with so many reports received. -/
  | starting (received : Nat) (controlReady : Bool)
  /-- In the message loop. -/
  | running
  | handling (pending : PendingRequest)
  /-- `StatusShutdown::request`. -/
  | requesting (stop : Stop)
  /-- `wake_status_server`: opens the status pipe. -/
  | opensStatus (stop : Stop)
  /-- Drops the connection it woke the status worker with. -/
  | closesStatus (stop : Stop)
  /-- `reject_pending_ipc_requests`. -/
  | draining
  /-- `connect_control_pipe` for `ShutdownServer`. -/
  | opensControl (stop : Stop) (attempt : Nat)
  /-- Writes the request; `payload`: its text is written, the newline is not. -/
  | writes (stop : Stop) (id : Nat) (payload : Bool)
  | readsReply (stop : Stop) (id : Nat)
  | joinsControl (stop : Stop)
  | joinsStatus (stop : Stop)
  /-- `IpcServer::start` has returned its error. -/
  | startFailed
  /-- `IpcServer::shutdown` has returned. -/
  | stopped
  /-- The application is dropped, and with it the queue's receiver. -/
  | dropped
  deriving DecidableEq, Repr

/-- `PIPE_CONNECT_ATTEMPTS`. -/
def pipeConnectAttempts : Nat := 20

structure St (Handle : Type) where
  /-- Whether the workers' first claims will succeed. -/
  controlClaim : Bool
  statusClaim : Bool
  app : Application Handle
  controlPipe : Pipe := .absent
  statusPipe : Pipe := .absent
  control : ControlPc := .claiming
  status : StatusPc := .claiming
  ui : UiPc := .starting 0 false
  /-- The startup channel. -/
  startup : List ServerStartupResult := []
  /-- `StatusShutdown::requested`. -/
  shutdownRequested : Bool := false
  /-- The status worker holds the accept gate. -/
  gateHeld : Bool := false
  queue : List PendingRequest := []
  /-- The queue's receiver exists. -/
  receiverAlive : Bool := true
  /-- What was sent on the reply channels. -/
  replies : List (Nat × Reply) := []
  nextId : Nat := 0
  handled : List Handled := []
  sent : List Sent := []

/-- `IpcServer::start` has spawned its workers. -/
def St.init {Handle : Type} (controlClaim statusClaim : Bool) (app : Application Handle) :
    St Handle :=
  { controlClaim, statusClaim, app }

/-! ## The control worker -/

inductive ControlAct where
  | claim
  | report
  /-- `CreateNamedPipeW`. -/
  | create (ok : Bool)
  /-- `ConnectNamedPipe` returns, or blocks. -/
  | connect
  /-- `ConnectNamedPipe` fails for a reason of its own. -/
  | connectFails
  /-- `ConnectNamedPipe` returns after it blocked. -/
  | accept
  /-- `SetNamedPipeHandleState` before the read loop. -/
  | bound (result : Except String Unit)
  /-- One iteration of the read loop; `restore` is `SetNamedPipeHandleState` after a good
  request. -/
  | read (outcome : ReadOutcome) (restore : Except String Unit)
  | enqueue
  /-- `PostThreadMessageW`. -/
  | wake (result : Except String Unit)
  | receive
  | respond (written : Bool)

/-- What a read may meet on the connection. -/
def ReadOutcome.fits (conn : Conn) : ReadOutcome → Bool
  | .chunk bytes => !bytes.isEmpty && bytes.length ≤ 512 && bytes.isPrefixOf conn.unread
  | .noData => conn.unread.isEmpty && conn.isOpen
  | .brokenPipe => conn.unread.isEmpty && !conn.isOpen
  | .timedOut => true
  | .eof => true
  | .failed _ => true

/-- What is left to read. -/
def ReadOutcome.rest (conn : Conn) : ReadOutcome → Conn
  | .chunk bytes => { conn with unread := conn.unread.drop bytes.length }
  | _ => conn

/-- A worker's own reply to a request it does not pass on. -/
def ControlPc.reject (id : Nat) (message : String) : ControlPc :=
  .responding id none ⟨.error message, .worker⟩ false

/-- What the worker does with the result of `read_request`. -/
def ControlPc.afterRead (id : Nat) (restore : Except String Unit) :
    Except String IpcRequest → ControlPc
  | .error message => .reject id message
  | .ok request =>
    match restore with
    | .error error => .reject id s!"Wardoff could not restore its IPC reply mode: {error}"
    | .ok () =>
      if request = .shutdownServer then .responding id (some request) ⟨.ok, .worker⟩ true
      else .enqueueing id request

variable {Handle : Type}

def controlStep (J : Json) (s : St Handle) : ControlAct → Option (St Handle)
  | .claim =>
    match s.control with
    | .claiming =>
      some { s with
        controlPipe := if s.controlClaim then .listening else s.controlPipe
        control := .reporting }
    | _ => none
  | .report =>
    match s.control with
    | .reporting =>
      some { s with
        startup := s.startup ++ [⟨.control, s.controlClaim⟩]
        control := if s.controlClaim then .connecting else .exited }
    | _ => none
  | .create ok =>
    match s.control with
    | .creating =>
      if ok then some { s with controlPipe := .listening, control := .connecting }
      else some { s with control := .exited }
    | _ => none
  | .connect =>
    match s.control, s.controlPipe with
    | .connecting, .listening => some { s with control := .waiting }
    | .connecting, .connected conn =>
      -- ERROR_PIPE_CONNECTED is a success, ERROR_NO_DATA (the client is gone again) is not
      if conn.isOpen then some { s with control := .accepted conn.id }
      else some { s with controlPipe := .absent, control := .exited }
    | _, _ => none
  | .connectFails =>
    match s.control with
    | .connecting => some { s with controlPipe := .absent, control := .exited }
    | .waiting => some { s with controlPipe := .absent, control := .exited }
    | _ => none
  | .accept =>
    match s.control, s.controlPipe with
    | .waiting, .connected conn => some { s with control := .accepted conn.id }
    | _, _ => none
  | .bound result =>
    match s.control with
    | .accepted id =>
      match result with
      | .ok () => some { s with control := .reading id [] }
      | .error error =>
        some { s with
          control := .reject id s!"Wardoff could not bound its IPC request read: {error}" }
    | _ => none
  | .read outcome restore =>
    match s.control, s.controlPipe with
    | .reading id line, .connected conn =>
      if outcome.fits conn then
        let s := { s with controlPipe := .connected (outcome.rest conn) }
        match readIteration J line outcome with
        | .more line => some { s with control := .reading id line }
        | .done result => some { s with control := .afterRead id restore result }
      else none
    | _, _ => none
  | .enqueue =>
    match s.control with
    | .enqueueing id request =>
      if s.receiverAlive then
        some { s with queue := s.queue ++ [⟨id, request⟩], control := .waking id request }
      else
        some { s with control := .responding id (some request) ⟨shuttingDown, .worker⟩ true }
    | _ => none
  | .wake result =>
    match s.control with
    | .waking id request =>
      match result with
      | .ok () => some { s with control := .awaiting id request }
      | .error error =>
        let message := s!"Wardoff could not wake its UI thread for IPC: {error}"
        some { s with control := .responding id (some request) ⟨.error message, .worker⟩ false }
    | _ => none
  | .receive =>
    match s.control with
    | .awaiting id request =>
      match s.replies.lookup id with
      | some reply => some { s with control := .responding id (some request) reply false }
      | none =>
        -- the channel is closed once the queue is gone
        if s.receiverAlive then none
        else some { s with control := .responding id (some request) ⟨shuttingDown, .worker⟩ true }
    | _ => none
  | .respond written =>
    match s.control with
    | .responding id request reply stop =>
      some { s with
        sent := if written then s.sent ++ [⟨id, request, reply⟩] else s.sent
        controlPipe := .absent
        control := if stop then .exited else .creating }
    | _ => none

/-! ## The status worker -/

inductive StatusAct where
  | claim
  | report
  | lock
  /-- The flag is checked under the gate; `ok` is `CreateNamedPipeW` where an instance is needed. -/
  | publish (ok : Bool)
  | unlock
  | connect
  | connectFails
  | accept
  | recheck
  | enqueue
  | wake (ok : Bool)
  | receive
  /-- Writes the status, or only logs what it got instead, and drops the instance. -/
  | respond

def statusStep (s : St Handle) : StatusAct → Option (St Handle)
  | .claim =>
    match s.status with
    | .claiming =>
      some { s with
        statusPipe := if s.statusClaim then .listening else s.statusPipe
        status := .reporting }
    | _ => none
  | .report =>
    match s.status with
    | .reporting =>
      some { s with
        startup := s.startup ++ [⟨.status, s.statusClaim⟩]
        status := if s.statusClaim then .locking true else .exited }
    | _ => none
  | .lock =>
    match s.status with
    | .locking initial =>
      if s.gateHeld then none else some { s with gateHeld := true, status := .publishing initial }
    | _ => none
  | .publish ok =>
    match s.status with
    | .publishing initial =>
      if s.shutdownRequested then
        some { s with gateHeld := false, statusPipe := .absent, status := .exited }
      else if initial then some { s with status := .unlocking }
      else if ok then some { s with statusPipe := .listening, status := .unlocking }
      else some { s with gateHeld := false, status := .exited }
    | _ => none
  | .unlock =>
    match s.status with
    | .unlocking => some { s with gateHeld := false, status := .connecting }
    | _ => none
  | .connect =>
    match s.status, s.statusPipe with
    | .connecting, .listening => some { s with status := .waiting }
    | .connecting, .connected conn =>
      if conn.isOpen then some { s with status := .rechecking conn.id }
      else some { s with statusPipe := .absent, status := .exited }
    | _, _ => none
  | .connectFails =>
    match s.status with
    | .connecting => some { s with statusPipe := .absent, status := .exited }
    | .waiting => some { s with statusPipe := .absent, status := .exited }
    | _ => none
  | .accept =>
    match s.status, s.statusPipe with
    | .waiting, .connected conn => some { s with status := .rechecking conn.id }
    | _, _ => none
  | .recheck =>
    match s.status with
    | .rechecking id =>
      if s.shutdownRequested then some { s with statusPipe := .absent, status := .exited }
      else some { s with status := .enqueueing id }
    | _ => none
  | .enqueue =>
    match s.status with
    | .enqueueing id =>
      if s.receiverAlive then
        some { s with queue := s.queue ++ [⟨id, .status⟩], status := .waking id }
      else some { s with statusPipe := .absent, status := .exited }
    | _ => none
  | .wake ok =>
    match s.status with
    | .waking id =>
      if ok then some { s with status := .awaiting id }
      else some { s with statusPipe := .absent, status := .locking false }
    | _ => none
  | .receive =>
    match s.status with
    | .awaiting id =>
      match s.replies.lookup id with
      | some reply => some { s with status := .responding reply.response }
      | none =>
        if s.receiverAlive then none
        else some { s with statusPipe := .absent, status := .exited }
    | _ => none
  | .respond =>
    match s.status with
    | .responding _ => some { s with statusPipe := .absent, status := .locking false }
    | _ => none

/-! ## The UI thread -/

inductive UiAct (Handle : Type) where
  | receiveReport
  /-- The startup channel is closed: both workers are gone. -/
  | startupClosed
  /-- Takes a request off the queue (`process_ipc_requests`). -/
  | take
  /-- Handles it and sends the response. -/
  | finish (o : RequestCalls Handle)
  /-- Another event of the message loop. -/
  | event (e : Event Handle)
  | leaveLoop
  | request
  | openStatus
  | closeStatus
  /-- Takes a request off the queue and rejects it. -/
  | reject
  | drained
  /-- `failed`: the open fails for another reason than a busy or missing pipe. -/
  | openControl (failed : Bool)
  | write (ok : Bool)
  /-- `ok`: what arrives can be read as a response. -/
  | readReply (ok : Bool)
  | joinControl
  | joinStatus
  | dropApplication

/-- What follows the wake-up of the status worker. -/
def Stop.afterWake : Stop → UiPc
  | .startup true => .opensControl (.startup true) 0
  | .startup false => .joinsControl (.startup false)
  | .begin => .draining
  | .final => .opensControl .final 0

/-- What follows a `ShutdownServer` request; `ok`: it was acknowledged, or no server was there. The
cleanup of a failed startup ignores the result. -/
def Stop.afterRequest (ok : Bool) : Stop → UiPc
  | .final => if ok then .joinsControl .final else .stopped
  | stop => .joinsControl stop

/-- What follows the last join. -/
def Stop.afterJoin : Stop → UiPc
  | .startup _ => .startFailed
  | _ => .stopped

def uiStep (J : Json) (s : St Handle) : UiAct Handle → Option (St Handle)
  | .receiveReport =>
    match s.ui, s.startup with
    | .starting received controlReady, report :: rest =>
      let s := { s with startup := rest }
      if report.ok then
        let controlReady := controlReady || report.kind == .control
        some { s with
          ui := if received + 1 < 2 then .starting (received + 1) controlReady else .running }
      else some { s with ui := .requesting (.startup controlReady) }
    | _, _ => none
  | .startupClosed =>
    match s.ui, s.startup, s.control, s.status with
    | .starting _ controlReady, [], .exited, .exited =>
      some { s with ui := .requesting (.startup controlReady) }
    | _, _, _, _ => none
  | .take =>
    match s.ui, s.queue with
    | .running, pending :: rest => some { s with queue := rest, ui := .handling pending }
    | _, _ => none
  | .finish o =>
    match s.ui with
    | .handling pending =>
      let (response, app) := s.app.handleIpcRequest o pending.request
      some { s with
        app
        replies := s.replies ++ [(pending.id, ⟨response, .handling⟩)]
        handled := s.handled ++ [⟨pending.id, pending.request, response⟩]
        ui := .running }
    | _ => none
  | .event e =>
    match s.ui, e with
    | .running, .ipcRequest _ _ => none
    | .running, e => some { s with app := e.handle s.app }
    | _, _ => none
  | .leaveLoop =>
    match s.ui with
    | .running => some { s with ui := .requesting .begin }
    | _ => none
  | .request =>
    match s.ui with
    | .requesting stop =>
      if s.gateHeld then none
      else some { s with shutdownRequested := true, ui := .opensStatus stop }
    | _ => none
  | .openStatus =>
    match s.ui with
    | .opensStatus stop =>
      match s.statusPipe with
      | .listening =>
        some { s with
          statusPipe := .connected { id := s.nextId, ui := true }
          nextId := s.nextId + 1
          ui := .closesStatus stop }
      | _ => some { s with ui := stop.afterWake }
    | _ => none
  | .closeStatus =>
    match s.ui with
    | .closesStatus stop =>
      some { s with
        statusPipe := match s.statusPipe with
          | .connected conn => .connected (if conn.ui then { conn with isOpen := false } else conn)
          | p => p
        ui := stop.afterWake }
    | _ => none
  | .reject =>
    match s.ui, s.queue with
    | .draining, pending :: rest =>
      some { s with
        queue := rest
        replies := s.replies ++ [(pending.id, ⟨shuttingDown, .rejection⟩)] }
    | _, _ => none
  | .drained =>
    match s.ui, s.queue with
    | .draining, [] => some { s with ui := .requesting .final }
    | _, _ => none
  | .openControl failed =>
    match s.ui with
    | .opensControl stop attempt =>
      if failed then some { s with ui := stop.afterRequest false }
      else match s.controlPipe with
        | .listening =>
          some { s with
            controlPipe := .connected { id := s.nextId, ui := true }
            nextId := s.nextId + 1
            ui := .writes stop s.nextId false }
        | .absent =>
          if attempt + 1 < pipeConnectAttempts then
            some { s with ui := .opensControl stop (attempt + 1) }
          else some { s with ui := stop.afterRequest true }
        | .connected _ =>
          if attempt + 1 < pipeConnectAttempts then
            some { s with ui := .opensControl stop (attempt + 1) }
          else some { s with ui := stop.afterRequest false }
    | _ => none
  | .write ok =>
    match s.ui with
    | .writes stop id payload =>
      if ok then
        match s.controlPipe with
        | .connected conn =>
          if conn.id = id then
            let bytes := if payload then [newline] else J.shutdownServer
            some { s with
              controlPipe := .connected { conn with unread := conn.unread ++ bytes }
              ui := if payload then .readsReply stop id else .writes stop id true }
          else none
        | _ => none
      else some { s with controlPipe := s.controlPipe.close id, ui := stop.afterRequest false }
    | _ => none
  | .readReply ok =>
    match s.ui with
    | .readsReply stop id =>
      match s.sent.find? (·.id == id) with
      | some sent =>
        some { s with
          controlPipe := s.controlPipe.close id
          ui := stop.afterRequest (ok && sent.reply.response == .ok) }
      | none =>
        if s.controlPipe.serves id then none else some { s with ui := stop.afterRequest false }
    | _ => none
  | .joinControl =>
    match s.ui, s.control with
    | .joinsControl stop, .exited => some { s with ui := .joinsStatus stop }
    | _, _ => none
  | .joinStatus =>
    match s.ui, s.status with
    | .joinsStatus stop, .exited => some { s with ui := stop.afterJoin }
    | _, _ => none
  | .dropApplication =>
    match s.ui with
    | .stopped => some { s with queue := [], receiverAlive := false, ui := .dropped }
    | _ => none

/-! ## The clients -/

inductive ClientAct where
  | openControl
  | writeControl (bytes : List UInt8)
  | closeControl
  | openStatus
  | closeStatus

/-- Any client may open a listening instance, write to it, and close its end, at any time. -/
def clientStep (s : St Handle) : ClientAct → Option (St Handle)
  | .openControl =>
    match s.controlPipe with
    | .listening =>
      some { s with
        controlPipe := .connected { id := s.nextId, ui := false }
        nextId := s.nextId + 1 }
    | _ => none
  | .writeControl bytes =>
    match s.controlPipe with
    | .connected conn =>
      if conn.ui || !conn.isOpen then none
      else some { s with controlPipe := .connected { conn with unread := conn.unread ++ bytes } }
    | _ => none
  | .closeControl =>
    match s.controlPipe with
    | .connected conn =>
      if conn.ui then none
      else some { s with controlPipe := .connected { conn with isOpen := false } }
    | _ => none
  | .openStatus =>
    match s.statusPipe with
    | .listening =>
      some { s with
        statusPipe := .connected { id := s.nextId, ui := false }
        nextId := s.nextId + 1 }
    | _ => none
  | .closeStatus =>
    match s.statusPipe with
    | .connected conn =>
      if conn.ui then none
      else some { s with statusPipe := .connected { conn with isOpen := false } }
    | _ => none

/-! ## The system -/

inductive Act (Handle : Type) where
  | control (a : ControlAct)
  | status (a : StatusAct)
  | ui (a : UiAct Handle)
  | client (a : ClientAct)

/-- One step of one party. -/
def step (J : Json) (s : St Handle) : Act Handle → Option (St Handle)
  | .control a => controlStep J s a
  | .status a => statusStep s a
  | .ui a => uiStep J s a
  | .client a => clientStep s a

end Ipc

import Wardoff.Ipc.Proof.Frame
import Wardoff.Ipc.System

/-!
# What one step can do

`ControlStep`, `StatusStep`, `UiStep` and `ClientStep` say, transition by transition, when a party
may take a step and what the step leaves: the executable `step` does nothing else
(`controlStep_cases` and its siblings). Every invariant of the system is proved by cases on these.

`ControlKeeps`, `StatusKeeps` and `ClientKeeps` list what the other parties can rely on.
-/

namespace Ipc

variable {Handle : Type} {J : Json} {s t : St Handle}

/-! ## The control worker -/

/-- The transitions of the control worker. -/
inductive ControlStep (J : Json) (s : St Handle) : ControlAct → St Handle → Prop where
  | claim (hpc : s.control = .claiming) :
    ControlStep J s .claim { s with
      controlPipe := if s.controlClaim then .listening else s.controlPipe
      control := .reporting }
  | report (hpc : s.control = .reporting) :
    ControlStep J s .report { s with
      startup := s.startup ++ [⟨.control, s.controlClaim⟩]
      control := if s.controlClaim then .connecting else .exited }
  | create (hpc : s.control = .creating) :
    ControlStep J s (.create true) { s with controlPipe := .listening, control := .connecting }
  | createFails (hpc : s.control = .creating) :
    ControlStep J s (.create false) { s with control := .exited }
  | wait (hpc : s.control = .connecting) (hpipe : s.controlPipe = .listening) :
    ControlStep J s .connect { s with control := .waiting }
  | connected {conn : Conn} (hpc : s.control = .connecting)
      (hpipe : s.controlPipe = .connected conn)
      (hopen : conn.isOpen = true) :
    ControlStep J s .connect { s with control := .accepted conn.id }
  | noData {conn : Conn} (hpc : s.control = .connecting) (hpipe : s.controlPipe = .connected conn)
      (hclosed : conn.isOpen = false) :
    ControlStep J s .connect { s with controlPipe := .absent, control := .exited }
  | connectFails (hpc : s.control = .connecting ∨ s.control = .waiting) :
    ControlStep J s .connectFails { s with controlPipe := .absent, control := .exited }
  | accept {conn : Conn} (hpc : s.control = .waiting) (hpipe : s.controlPipe = .connected conn) :
    ControlStep J s .accept { s with control := .accepted conn.id }
  | bound {id : Nat} (hpc : s.control = .accepted id) :
    ControlStep J s (.bound (.ok ())) { s with control := .reading id [] }
  | boundFails {id : Nat} {error : String} (hpc : s.control = .accepted id) :
    ControlStep J s (.bound (.error error)) { s with
      control := .reject id s!"Wardoff could not bound its IPC request read: {error}" }
  | readMore {id : Nat} {line line' : List UInt8} {conn : Conn} {outcome : ReadOutcome}
      {restore : Except String Unit} (hpc : s.control = .reading id line)
      (hpipe : s.controlPipe = .connected conn) (hfits : outcome.fits conn = true)
      (hread : readIteration J line outcome = .more line') :
    ControlStep J s (.read outcome restore) { s with
      controlPipe := .connected (outcome.rest conn), control := .reading id line' }
  | readFails {id : Nat} {line : List UInt8} {conn : Conn} {outcome : ReadOutcome}
      {restore : Except String Unit} {message : String} (hpc : s.control = .reading id line)
      (hpipe : s.controlPipe = .connected conn) (hfits : outcome.fits conn = true)
      (hread : readIteration J line outcome = .done (.error message)) :
    ControlStep J s (.read outcome restore) { s with
      controlPipe := .connected (outcome.rest conn), control := .reject id message }
  | restoreFails {id : Nat} {line : List UInt8} {conn : Conn} {outcome : ReadOutcome}
      {request : IpcRequest} {error message : String} (hpc : s.control = .reading id line)
      (hpipe : s.controlPipe = .connected conn) (hfits : outcome.fits conn = true)
      (hread : readIteration J line outcome = .done (.ok request)) :
    ControlStep J s (.read outcome (.error error)) { s with
      controlPipe := .connected (outcome.rest conn), control := .reject id message }
  | readShutdown {id : Nat} {line : List UInt8} {conn : Conn} {outcome : ReadOutcome}
      (hpc : s.control = .reading id line) (hpipe : s.controlPipe = .connected conn)
      (hfits : outcome.fits conn = true)
      (hread : readIteration J line outcome = .done (.ok .shutdownServer)) :
    ControlStep J s (.read outcome (.ok ())) { s with
      controlPipe := .connected (outcome.rest conn)
      control := .responding id (some .shutdownServer) ⟨.ok, .worker⟩ true }
  | readRequest {id : Nat} {line : List UInt8} {conn : Conn} {outcome : ReadOutcome}
      {request : IpcRequest} (hpc : s.control = .reading id line)
      (hpipe : s.controlPipe = .connected conn) (hfits : outcome.fits conn = true)
      (hread : readIteration J line outcome = .done (.ok request))
        (hne : request ≠ .shutdownServer) :
    ControlStep J s (.read outcome (.ok ())) { s with
      controlPipe := .connected (outcome.rest conn), control := .enqueueing id request }
  | enqueue {id : Nat} {request : IpcRequest} (hpc : s.control = .enqueueing id request)
      (halive : s.receiverAlive = true) :
    ControlStep J s .enqueue { s with
      queue := s.queue ++ [⟨id, request⟩], control := .waking id request }
  | enqueueClosed {id : Nat} {request : IpcRequest} (hpc : s.control = .enqueueing id request)
      (hdead : s.receiverAlive = false) :
    ControlStep J s .enqueue { s with
      control := .responding id (some request) ⟨shuttingDown, .worker⟩ true }
  | wake {id : Nat} {request : IpcRequest} (hpc : s.control = .waking id request) :
    ControlStep J s (.wake (.ok ())) { s with control := .awaiting id request }
  | wakeFails {id : Nat} {request : IpcRequest} {error message : String}
      (hpc : s.control = .waking id request) :
    ControlStep J s (.wake (.error error)) { s with
      control := .responding id (some request) ⟨.error message, .worker⟩ false }
  | receive {id : Nat} {request : IpcRequest} {reply : Reply}
      (hpc : s.control = .awaiting id request)
      (hreply : s.replies.lookup id = some reply) :
    ControlStep J s .receive { s with control := .responding id (some request) reply false }
  | receiveClosed {id : Nat} {request : IpcRequest} (hpc : s.control = .awaiting id request)
      (hreply : s.replies.lookup id = none) (hdead : s.receiverAlive = false) :
    ControlStep J s .receive { s with
      control := .responding id (some request) ⟨shuttingDown, .worker⟩ true }
  | respond {id : Nat} {request : Option IpcRequest} {reply : Reply} {stop written : Bool}
      (hpc : s.control = .responding id request reply stop) :
    ControlStep J s (.respond written) { s with
      sent := if written then s.sent ++ [⟨id, request, reply⟩] else s.sent
      controlPipe := .absent
      control := if stop then .exited else .creating }

theorem controlStep_cases {a : ControlAct} (h : controlStep J s a = some t) :
    ControlStep J s a t := by
  cases a with
  | claim =>
    simp only [controlStep] at h
    split at h <;> cases h
    exact .claim ‹_›
  | report =>
    simp only [controlStep] at h
    split at h <;> cases h
    exact .report ‹_›
  | create ok =>
    simp only [controlStep] at h
    split at h
    · split at h <;> cases h
      · rename_i hok
        subst hok
        exact .create ‹_›
      · rename_i hok
        obtain rfl : ok = false := by simpa using hok
        exact .createFails ‹_›
    · cases h
  | connect =>
    simp only [controlStep] at h
    split at h
    · cases h
      exact .wait ‹_› ‹_›
    · split at h <;> cases h
      · exact .connected ‹_› ‹_› ‹_›
      · exact .noData ‹_› ‹_› (eq_false_of_ne_true ‹_›)
    · cases h
  | connectFails =>
    simp only [controlStep] at h
    split at h <;> cases h
    · exact .connectFails (.inl ‹_›)
    · exact .connectFails (.inr ‹_›)
  | accept =>
    simp only [controlStep] at h
    split at h <;> cases h
    exact .accept ‹_› ‹_›
  | bound result =>
    simp only [controlStep] at h
    split at h
    · split at h <;> cases h
      · exact .bound ‹_›
      · exact .boundFails ‹_›
    · cases h
  | read outcome restore =>
    simp only [controlStep] at h
    split at h
    · split at h
      · split at h
        · cases h
          exact .readMore ‹_› ‹_› ‹_› ‹_›
        · rename_i result hread
          rcases result with message | request
          · cases h
            exact .readFails ‹_› ‹_› ‹_› hread
          · rcases restore with error | ⟨⟩
            · cases h
              exact .restoreFails ‹_› ‹_› ‹_› hread
            · simp only [ControlPc.afterRead] at h
              split at h <;> cases h
              · rename_i hr
                subst hr
                exact .readShutdown ‹_› ‹_› ‹_› hread
              · exact .readRequest ‹_› ‹_› ‹_› hread ‹_›
      · cases h
    · cases h
  | enqueue =>
    simp only [controlStep] at h
    split at h
    · split at h <;> cases h
      · exact .enqueue ‹_› ‹_›
      · exact .enqueueClosed ‹_› (eq_false_of_ne_true ‹_›)
    · cases h
  | wake result =>
    simp only [controlStep] at h
    split at h
    · split at h <;> cases h
      · exact .wake ‹_›
      · exact .wakeFails ‹_›
    · cases h
  | receive =>
    simp only [controlStep] at h
    split at h
    · split at h
      · cases h
        exact .receive ‹_› ‹_›
      · split at h <;> cases h
        exact .receiveClosed ‹_› ‹_› (eq_false_of_ne_true ‹_›)
    · cases h
  | respond written =>
    simp only [controlStep] at h
    split at h <;> cases h
    exact .respond ‹_›

/-- The fields no step of the control worker changes. -/
structure ControlKeeps (s t : St Handle) : Prop where
  controlClaim : t.controlClaim = s.controlClaim
  statusClaim : t.statusClaim = s.statusClaim
  ui : t.ui = s.ui
  status : t.status = s.status
  statusPipe : t.statusPipe = s.statusPipe
  shutdownRequested : t.shutdownRequested = s.shutdownRequested
  gateHeld : t.gateHeld = s.gateHeld
  receiverAlive : t.receiverAlive = s.receiverAlive
  replies : t.replies = s.replies
  nextId : t.nextId = s.nextId
  handled : t.handled = s.handled

theorem ControlStep.keeps {a : ControlAct} (h : ControlStep J s a t) : ControlKeeps s t := by
  cases h <;> constructor <;> rfl

/-! ## The status worker -/

/-- The transitions of the status worker. -/
inductive StatusStep (s : St Handle) : StatusAct → St Handle → Prop where
  | claim (hpc : s.status = .claiming) :
    StatusStep s .claim { s with
      statusPipe := if s.statusClaim then .listening else s.statusPipe
      status := .reporting }
  | report (hpc : s.status = .reporting) :
    StatusStep s .report { s with
      startup := s.startup ++ [⟨.status, s.statusClaim⟩]
      status := if s.statusClaim then .locking true else .exited }
  | lock {initial : Bool} (hpc : s.status = .locking initial) (hgate : s.gateHeld = false) :
    StatusStep s .lock { s with gateHeld := true, status := .publishing initial }
  | flagged {initial ok : Bool} (hpc : s.status = .publishing initial)
      (hflag : s.shutdownRequested = true) :
    StatusStep s (.publish ok)
      { s with gateHeld := false, statusPipe := .absent, status := .exited }
  | publishInitial {ok : Bool} (hpc : s.status = .publishing true)
      (hflag : s.shutdownRequested = false) :
    StatusStep s (.publish ok) { s with status := .unlocking }
  | publish (hpc : s.status = .publishing false) (hflag : s.shutdownRequested = false) :
    StatusStep s (.publish true) { s with statusPipe := .listening, status := .unlocking }
  | publishFails (hpc : s.status = .publishing false) (hflag : s.shutdownRequested = false) :
    StatusStep s (.publish false) { s with gateHeld := false, status := .exited }
  | unlock (hpc : s.status = .unlocking) :
    StatusStep s .unlock { s with gateHeld := false, status := .connecting }
  | wait (hpc : s.status = .connecting) (hpipe : s.statusPipe = .listening) :
    StatusStep s .connect { s with status := .waiting }
  | connected {conn : Conn} (hpc : s.status = .connecting) (hpipe : s.statusPipe = .connected conn)
      (hopen : conn.isOpen = true) :
    StatusStep s .connect { s with status := .rechecking conn.id }
  | noData {conn : Conn} (hpc : s.status = .connecting) (hpipe : s.statusPipe = .connected conn)
      (hclosed : conn.isOpen = false) :
    StatusStep s .connect { s with statusPipe := .absent, status := .exited }
  | connectFails (hpc : s.status = .connecting ∨ s.status = .waiting) :
    StatusStep s .connectFails { s with statusPipe := .absent, status := .exited }
  | accept {conn : Conn} (hpc : s.status = .waiting) (hpipe : s.statusPipe = .connected conn) :
    StatusStep s .accept { s with status := .rechecking conn.id }
  | recheckFlagged {id : Nat} (hpc : s.status = .rechecking id)
      (hflag : s.shutdownRequested = true) :
    StatusStep s .recheck { s with statusPipe := .absent, status := .exited }
  | recheck {id : Nat} (hpc : s.status = .rechecking id) (hflag : s.shutdownRequested = false) :
    StatusStep s .recheck { s with status := .enqueueing id }
  | enqueue {id : Nat} (hpc : s.status = .enqueueing id) (halive : s.receiverAlive = true) :
    StatusStep s .enqueue { s with queue := s.queue ++ [⟨id, .status⟩], status := .waking id }
  | enqueueClosed {id : Nat} (hpc : s.status = .enqueueing id) (hdead : s.receiverAlive = false) :
    StatusStep s .enqueue { s with statusPipe := .absent, status := .exited }
  | wake {id : Nat} (hpc : s.status = .waking id) :
    StatusStep s (.wake true) { s with status := .awaiting id }
  | wakeFails {id : Nat} (hpc : s.status = .waking id) :
    StatusStep s (.wake false) { s with statusPipe := .absent, status := .locking false }
  | receive {id : Nat} {reply : Reply} (hpc : s.status = .awaiting id)
      (hreply : s.replies.lookup id = some reply) :
    StatusStep s .receive { s with status := .responding reply.response }
  | receiveClosed {id : Nat} (hpc : s.status = .awaiting id) (hreply : s.replies.lookup id = none)
      (hdead : s.receiverAlive = false) :
    StatusStep s .receive { s with statusPipe := .absent, status := .exited }
  | respond {response : IpcResponse} (hpc : s.status = .responding response) :
    StatusStep s .respond { s with statusPipe := .absent, status := .locking false }

theorem statusStep_cases {a : StatusAct} (h : statusStep s a = some t) : StatusStep s a t := by
  cases a with
  | claim =>
    simp only [statusStep] at h
    split at h <;> cases h
    exact .claim ‹_›
  | report =>
    simp only [statusStep] at h
    split at h <;> cases h
    exact .report ‹_›
  | lock =>
    simp only [statusStep] at h
    split at h
    · split at h <;> cases h
      exact .lock ‹_› (eq_false_of_ne_true ‹_›)
    · cases h
  | publish ok =>
    simp only [statusStep] at h
    split at h
    · rename_i initial hpc
      split at h
      · cases h
        exact .flagged hpc ‹_›
      · have hflag : s.shutdownRequested = false := eq_false_of_ne_true ‹_›
        cases initial <;> cases ok <;> cases h
        · exact .publishFails hpc hflag
        · exact .publish hpc hflag
        · exact .publishInitial hpc hflag
        · exact .publishInitial hpc hflag
    · cases h
  | unlock =>
    simp only [statusStep] at h
    split at h <;> cases h
    exact .unlock ‹_›
  | connect =>
    simp only [statusStep] at h
    split at h
    · cases h
      exact .wait ‹_› ‹_›
    · split at h <;> cases h
      · exact .connected ‹_› ‹_› ‹_›
      · exact .noData ‹_› ‹_› (eq_false_of_ne_true ‹_›)
    · cases h
  | connectFails =>
    simp only [statusStep] at h
    split at h <;> cases h
    · exact .connectFails (.inl ‹_›)
    · exact .connectFails (.inr ‹_›)
  | accept =>
    simp only [statusStep] at h
    split at h <;> cases h
    exact .accept ‹_› ‹_›
  | recheck =>
    simp only [statusStep] at h
    split at h
    · split at h <;> cases h
      · exact .recheckFlagged ‹_› ‹_›
      · exact .recheck ‹_› (eq_false_of_ne_true ‹_›)
    · cases h
  | enqueue =>
    simp only [statusStep] at h
    split at h
    · split at h <;> cases h
      · exact .enqueue ‹_› ‹_›
      · exact .enqueueClosed ‹_› (eq_false_of_ne_true ‹_›)
    · cases h
  | wake ok =>
    simp only [statusStep] at h
    split at h
    · cases ok <;> cases h
      · exact .wakeFails ‹_›
      · exact .wake ‹_›
    · cases h
  | receive =>
    simp only [statusStep] at h
    split at h
    · split at h
      · cases h
        exact .receive ‹_› ‹_›
      · split at h <;> cases h
        exact .receiveClosed ‹_› ‹_› (eq_false_of_ne_true ‹_›)
    · cases h
  | respond =>
    simp only [statusStep] at h
    split at h <;> cases h
    exact .respond ‹_›

/-- The fields no step of the status worker changes. -/
structure StatusKeeps (s t : St Handle) : Prop where
  controlClaim : t.controlClaim = s.controlClaim
  statusClaim : t.statusClaim = s.statusClaim
  ui : t.ui = s.ui
  control : t.control = s.control
  controlPipe : t.controlPipe = s.controlPipe
  shutdownRequested : t.shutdownRequested = s.shutdownRequested
  receiverAlive : t.receiverAlive = s.receiverAlive
  replies : t.replies = s.replies
  nextId : t.nextId = s.nextId
  handled : t.handled = s.handled
  sent : t.sent = s.sent

theorem StatusStep.keeps {a : StatusAct} (h : StatusStep s a t) : StatusKeeps s t := by
  cases h <;> constructor <;> rfl

/-! ## The UI thread -/

/-- The status pipe after the UI thread has closed its end. -/
def Pipe.closeUi : Pipe → Pipe
  | .connected conn => .connected (if conn.ui then { conn with isOpen := false } else conn)
  | p => p

/-- The transitions of the UI thread. -/
inductive UiStep (J : Json) (s : St Handle) : UiAct Handle → St Handle → Prop where
  | report {received : Nat} {ready : Bool} {kind : ServerStartupKind}
      {rest : List ServerStartupResult}
      (hpc : s.ui = .starting received ready) (hstartup : s.startup = ⟨kind, true⟩ :: rest)
      (hlt : received + 1 < 2) :
    UiStep J s .receiveReport { s with
      startup := rest, ui := .starting (received + 1) (ready || kind == .control) }
  | lastReport {received : Nat} {ready : Bool} {kind : ServerStartupKind}
      {rest : List ServerStartupResult} (hpc : s.ui = .starting received ready)
      (hstartup : s.startup = ⟨kind, true⟩ :: rest) (hlt : ¬ received + 1 < 2) :
    UiStep J s .receiveReport { s with startup := rest, ui := .running }
  | reportFails {received : Nat} {ready : Bool} {kind : ServerStartupKind}
      {rest : List ServerStartupResult} (hpc : s.ui = .starting received ready)
      (hstartup : s.startup = ⟨kind, false⟩ :: rest) :
    UiStep J s .receiveReport { s with startup := rest, ui := .requesting (.startup ready) }
  | startupClosed {received : Nat} {ready : Bool} (hpc : s.ui = .starting received ready)
      (hstartup : s.startup = []) (hcontrol : s.control = .exited) (hstatus : s.status = .exited) :
    UiStep J s .startupClosed { s with ui := .requesting (.startup ready) }
  | take {pending : PendingRequest} {rest : List PendingRequest} (hpc : s.ui = .running)
      (hqueue : s.queue = pending :: rest) :
    UiStep J s .take { s with queue := rest, ui := .handling pending }
  | finish {pending : PendingRequest} {o : Runtime.RequestCalls Handle}
      (hpc : s.ui = .handling pending) :
    UiStep J s (.finish o) { s with
      app := (s.app.handleIpcRequest o pending.request).2
      replies := s.replies ++
        [(pending.id, ⟨(s.app.handleIpcRequest o pending.request).1, .handling⟩)]
      handled := s.handled ++
        [⟨pending.id, pending.request, (s.app.handleIpcRequest o pending.request).1⟩]
      ui := .running }
  | event {e : Runtime.Event Handle} (hpc : s.ui = .running) :
    UiStep J s (.event e) { s with app := e.handle s.app }
  | leaveLoop (hpc : s.ui = .running) : UiStep J s .leaveLoop { s with ui := .requesting .begin }
  | request {stop : Stop} (hpc : s.ui = .requesting stop) (hgate : s.gateHeld = false) :
    UiStep J s .request { s with shutdownRequested := true, ui := .opensStatus stop }
  | openStatus {stop : Stop} (hpc : s.ui = .opensStatus stop) (hpipe : s.statusPipe = .listening) :
    UiStep J s .openStatus { s with
      statusPipe := .connected { id := s.nextId, ui := true }
      nextId := s.nextId + 1
      ui := .closesStatus stop }
  | openStatusFails {stop : Stop} (hpc : s.ui = .opensStatus stop)
      (hpipe : s.statusPipe ≠ .listening) :
    UiStep J s .openStatus { s with ui := stop.afterWake }
  | closeStatus {stop : Stop} (hpc : s.ui = .closesStatus stop) :
    UiStep J s .closeStatus { s with statusPipe := s.statusPipe.closeUi, ui := stop.afterWake }
  | reject {pending : PendingRequest} {rest : List PendingRequest} (hpc : s.ui = .draining)
      (hqueue : s.queue = pending :: rest) :
    UiStep J s .reject { s with
      queue := rest
      replies := s.replies ++ [(pending.id, ⟨shuttingDown, .rejection⟩)] }
  | drained (hpc : s.ui = .draining) (hqueue : s.queue = []) :
    UiStep J s .drained { s with ui := .requesting .final }
  | openControl {stop : Stop} {attempt : Nat} (hpc : s.ui = .opensControl stop attempt)
      (hpipe : s.controlPipe = .listening) :
    UiStep J s (.openControl false) { s with
      controlPipe := .connected { id := s.nextId, ui := true }
      nextId := s.nextId + 1
      ui := .writes stop s.nextId false }
  | openControlAgain {stop : Stop} {attempt : Nat} (hpc : s.ui = .opensControl stop attempt)
      (hpipe : s.controlPipe ≠ .listening) (hlt : attempt + 1 < pipeConnectAttempts) :
    UiStep J s (.openControl false) { s with ui := .opensControl stop (attempt + 1) }
  | openControlFails {stop : Stop} {attempt : Nat} {failed ok : Bool}
      (hpc : s.ui = .opensControl stop attempt)
      (hfailed : failed = true ∨
        (s.controlPipe ≠ .listening ∧ ¬ attempt + 1 < pipeConnectAttempts)) :
    UiStep J s (.openControl failed) { s with ui := stop.afterRequest ok }
  | writePayload {stop : Stop} {id : Nat} {conn : Conn} (hpc : s.ui = .writes stop id false)
      (hpipe : s.controlPipe = .connected conn) (hid : conn.id = id) :
    UiStep J s (.write true) { s with
      controlPipe := .connected { conn with unread := conn.unread ++ J.shutdownServer }
      ui := .writes stop id true }
  | writeNewline {stop : Stop} {id : Nat} {conn : Conn} (hpc : s.ui = .writes stop id true)
      (hpipe : s.controlPipe = .connected conn) (hid : conn.id = id) :
    UiStep J s (.write true) { s with
      controlPipe := .connected { conn with unread := conn.unread ++ [newline] }
      ui := .readsReply stop id }
  | writeFails {stop : Stop} {id : Nat} {payload : Bool} (hpc : s.ui = .writes stop id payload) :
    UiStep J s (.write false) { s with
      controlPipe := s.controlPipe.close id, ui := stop.afterRequest false }
  | readReply {stop : Stop} {id : Nat} {sent : Sent} {ok : Bool} (hpc : s.ui = .readsReply stop id)
      (hsent : s.sent.find? (·.id == id) = some sent) :
    UiStep J s (.readReply ok) { s with
      controlPipe := s.controlPipe.close id
      ui := stop.afterRequest (ok && sent.reply.response == .ok) }
  | replyLost {stop : Stop} {id : Nat} {ok : Bool} (hpc : s.ui = .readsReply stop id)
      (hsent : s.sent.find? (·.id == id) = none) (hpipe : s.controlPipe.serves id = false) :
    UiStep J s (.readReply ok) { s with ui := stop.afterRequest false }
  | joinControl {stop : Stop} (hpc : s.ui = .joinsControl stop) (hcontrol : s.control = .exited) :
    UiStep J s .joinControl { s with ui := .joinsStatus stop }
  | joinStatus {stop : Stop} (hpc : s.ui = .joinsStatus stop) (hstatus : s.status = .exited) :
    UiStep J s .joinStatus { s with ui := stop.afterJoin }
  | dropApplication (hpc : s.ui = .stopped) :
    UiStep J s .dropApplication { s with queue := [], receiverAlive := false, ui := .dropped }

theorem uiStep_cases {a : UiAct Handle} (h : uiStep J s a = some t) : UiStep J s a t := by
  cases a with
  | receiveReport =>
    simp only [uiStep] at h
    split at h
    · rename_i received ready report rest hpc hstartup
      obtain ⟨kind, ok⟩ := report
      cases ok with
      | false =>
        cases h
        exact .reportFails hpc hstartup
      | true =>
        cases h
        by_cases hlt : received + 1 < 2
        · simp only [if_pos hlt]
          exact .report hpc hstartup hlt
        · simp only [if_neg hlt]
          exact .lastReport hpc hstartup hlt
    · cases h
  | startupClosed =>
    simp only [uiStep] at h
    split at h <;> cases h
    exact .startupClosed ‹_› ‹_› ‹_› ‹_›
  | take =>
    simp only [uiStep] at h
    split at h <;> cases h
    exact .take ‹_› ‹_›
  | finish o =>
    simp only [uiStep] at h
    split at h <;> cases h
    exact .finish ‹_›
  | event e =>
    simp only [uiStep] at h
    split at h <;> cases h
    exact .event ‹_›
  | leaveLoop =>
    simp only [uiStep] at h
    split at h <;> cases h
    exact .leaveLoop ‹_›
  | request =>
    simp only [uiStep] at h
    split at h
    · split at h <;> cases h
      exact .request ‹_› (eq_false_of_ne_true ‹_›)
    · cases h
  | openStatus =>
    simp only [uiStep] at h
    split at h
    · split at h <;> cases h
      · exact .openStatus ‹_› ‹_›
      · exact .openStatusFails ‹_› ‹_›
    · cases h
  | closeStatus =>
    simp only [uiStep] at h
    split at h <;> cases h
    exact .closeStatus ‹_›
  | reject =>
    simp only [uiStep] at h
    split at h <;> cases h
    exact .reject ‹_› ‹_›
  | drained =>
    simp only [uiStep] at h
    split at h <;> cases h
    exact .drained ‹_› ‹_›
  | openControl failed =>
    simp only [uiStep] at h
    split at h
    · split at h
      · cases h
        exact .openControlFails ‹_› (.inl ‹_›)
      · rename_i hfailed
        obtain rfl : failed = false := eq_false_of_ne_true hfailed
        split at h
        · cases h
          exact .openControl ‹_› ‹_›
        · split at h <;> cases h
          · exact .openControlAgain ‹_› (by simp [*]) ‹_›
          · exact .openControlFails ‹_› (.inr ⟨by simp [*], ‹_›⟩)
        · split at h <;> cases h
          · exact .openControlAgain ‹_› (by simp [*]) ‹_›
          · exact .openControlFails ‹_› (.inr ⟨by simp [*], ‹_›⟩)
    · cases h
  | write ok =>
    simp only [uiStep] at h
    split at h
    · rename_i stop id payload hpc
      cases ok with
      | false =>
        cases h
        exact .writeFails hpc
      | true =>
        simp only [if_true] at h
        split at h
        · split at h
          · cases payload <;> cases h
            · exact .writePayload hpc ‹_› ‹_›
            · exact .writeNewline hpc ‹_› ‹_›
          · cases h
        · cases h
    · cases h
  | readReply ok =>
    simp only [uiStep] at h
    split at h
    · split at h
      · cases h
        exact .readReply ‹_› ‹_›
      · split at h <;> cases h
        exact .replyLost ‹_› ‹_› (eq_false_of_ne_true ‹_›)
    · cases h
  | joinControl =>
    simp only [uiStep] at h
    split at h <;> cases h
    exact .joinControl ‹_› ‹_›
  | joinStatus =>
    simp only [uiStep] at h
    split at h <;> cases h
    exact .joinStatus ‹_› ‹_›
  | dropApplication =>
    simp only [uiStep] at h
    split at h <;> cases h
    exact .dropApplication ‹_›

/-- The fields no step of the UI thread changes. -/
structure UiKeeps (s t : St Handle) : Prop where
  controlClaim : t.controlClaim = s.controlClaim
  statusClaim : t.statusClaim = s.statusClaim
  control : t.control = s.control
  status : t.status = s.status
  gateHeld : t.gateHeld = s.gateHeld
  sent : t.sent = s.sent

theorem UiStep.keeps {a : UiAct Handle} (h : UiStep J s a t) : UiKeeps s t := by
  cases h <;> constructor <;> rfl

/-- The UI thread has left its message loop. -/
def UiPc.leftLoop : UiPc → Bool
  | .starting _ _ => false
  | .running => false
  | .handling _ => false
  | _ => true

theorem Stop.leftLoop_afterWake (k : Stop) : k.afterWake.leftLoop = true := by
  rcases k with (_ | _) | _ | _ <;> rfl

theorem Stop.leftLoop_afterRequest (k : Stop) (ok : Bool) :
    (k.afterRequest ok).leftLoop = true := by
  rcases k with _ | _ | _ <;> cases ok <;> rfl

theorem Stop.leftLoop_afterJoin (k : Stop) : k.afterJoin.leftLoop = true := by
  rcases k with _ | _ | _ <;> rfl

theorem UiStep.leftLoop {a : UiAct Handle} (h : UiStep J s a t) (hs : s.ui.leftLoop = true) :
    t.ui.leftLoop = true ∧ t.handled = s.handled := by
  cases h with
  | openStatusFails => exact ⟨Stop.leftLoop_afterWake _, rfl⟩
  | closeStatus => exact ⟨Stop.leftLoop_afterWake _, rfl⟩
  | openControlFails => exact ⟨Stop.leftLoop_afterRequest _ _, rfl⟩
  | writeFails => exact ⟨Stop.leftLoop_afterRequest _ _, rfl⟩
  | readReply => exact ⟨Stop.leftLoop_afterRequest _ _, rfl⟩
  | replyLost => exact ⟨Stop.leftLoop_afterRequest _ _, rfl⟩
  | joinStatus => exact ⟨Stop.leftLoop_afterJoin _, rfl⟩
  | _ => simp_all [UiPc.leftLoop]

theorem UiStep.inLoop_of {a : UiAct Handle} (h : UiStep J s a t) (ht : t.ui.leftLoop = false) :
    s.ui.leftLoop = false := by
  by_contra hs
  simp [(h.leftLoop (eq_true_of_ne_false hs)).1] at ht

/-! ## The clients -/

/-- The transitions of the clients. -/
inductive ClientStep (s : St Handle) : ClientAct → St Handle → Prop where
  | openControl (hpipe : s.controlPipe = .listening) :
    ClientStep s .openControl { s with
      controlPipe := .connected { id := s.nextId, ui := false }, nextId := s.nextId + 1 }
  | writeControl {conn : Conn} {bytes : List UInt8} (hpipe : s.controlPipe = .connected conn)
      (hui : conn.ui = false) :
    ClientStep s (.writeControl bytes) { s with
      controlPipe := .connected { conn with unread := conn.unread ++ bytes } }
  | closeControl {conn : Conn} (hpipe : s.controlPipe = .connected conn) (hui : conn.ui = false) :
    ClientStep s .closeControl { s with
      controlPipe := .connected { conn with isOpen := false } }
  | openStatus (hpipe : s.statusPipe = .listening) :
    ClientStep s .openStatus { s with
      statusPipe := .connected { id := s.nextId, ui := false }, nextId := s.nextId + 1 }
  | closeStatus {conn : Conn} (hpipe : s.statusPipe = .connected conn) (hui : conn.ui = false) :
    ClientStep s .closeStatus { s with
      statusPipe := .connected { conn with isOpen := false } }

theorem clientStep_cases {a : ClientAct} (h : clientStep s a = some t) : ClientStep s a t := by
  cases a with
  | openControl =>
    simp only [clientStep] at h
    split at h <;> cases h
    exact .openControl ‹_›
  | writeControl bytes =>
    simp only [clientStep] at h
    split at h
    · split at h <;> cases h
      exact .writeControl ‹_› (by simp_all)
    · cases h
  | closeControl =>
    simp only [clientStep] at h
    split at h
    · split at h <;> cases h
      exact .closeControl ‹_› (eq_false_of_ne_true ‹_›)
    · cases h
  | openStatus =>
    simp only [clientStep] at h
    split at h <;> cases h
    exact .openStatus ‹_›
  | closeStatus =>
    simp only [clientStep] at h
    split at h
    · split at h <;> cases h
      exact .closeStatus ‹_› (eq_false_of_ne_true ‹_›)
    · cases h

/-- The fields no step of a client changes. -/
structure ClientKeeps (s t : St Handle) : Prop where
  controlClaim : t.controlClaim = s.controlClaim
  statusClaim : t.statusClaim = s.statusClaim
  ui : t.ui = s.ui
  control : t.control = s.control
  status : t.status = s.status
  startup : t.startup = s.startup
  shutdownRequested : t.shutdownRequested = s.shutdownRequested
  gateHeld : t.gateHeld = s.gateHeld
  queue : t.queue = s.queue
  receiverAlive : t.receiverAlive = s.receiverAlive
  replies : t.replies = s.replies
  handled : t.handled = s.handled
  sent : t.sent = s.sent

theorem ClientStep.keeps {a : ClientAct} (h : ClientStep s a t) : ClientKeeps s t := by
  cases h <;> constructor <;> rfl

/-! ## Fixed runs -/

/-- Both workers claim their pipes and report it. -/
def startupRun : List (Act Unit) :=
  [.control .claim, .control .report, .status .claim, .status .report, .ui .receiveReport,
    .ui .receiveReport]

/-- A runtime without a tray, in Allow mode. -/
def idleApp : Runtime.Application Unit := { blockerCoordinator := {}, trayService := none }

end Ipc

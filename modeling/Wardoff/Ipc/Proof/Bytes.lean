import Wardoff.Ipc.Proof.Pipes
import Wardoff.Machine.Refinement

/-!
# From the bytes to the handled request

What a client writes to the control pipe may be read in any pieces, the connection may break at any
byte, and the status pipe feeds the same queue. `written J id s as` are the bytes that a run of the
system puts into the pipe on the connection `id`.

* `Decides`: a stream that ends the read loop with a request, whatever follows it. `decides_of_read`
  and `tracks_of_read` are the steps of the read loop (`tracks_chunk`).
* `Carried J W s`: where `W` are the bytes of each connection, what the control worker has read and
  what is still in the pipe make up the bytes of its connection, and every request stands in the
  bytes of its own connection, or is a status request of the other pipe (`Apart`). `Carried.step`,
  `Carried.exec`.
* `handled_as_written`: so every handled request is what the bytes of its connection say.
* `command_undistorted`: and what a client that is cut off at any byte gets handled is its own
  request, whole.
-/

namespace Ipc

open Machine

variable {Handle : Type} {J : Json} {s t : St Handle}

/-! ## What is written -/

/-- The bytes a step puts into the control pipe, with their connection. -/
def writes (J : Json) (s : St Handle) : Act Handle → List (Nat × List UInt8)
  | .client (.writeControl bytes) =>
    match s.controlPipe with
    | .connected conn => [(conn.id, bytes)]
    | _ => []
  | .ui (.write true) =>
    match s.ui with
    | .writes _ id payload => [(id, if payload then [newline] else J.shutdownServer)]
    | _ => []
  | _ => []

/-- The bytes of one connection. -/
def bytesOf (id : Nat) (pieces : List (Nat × List UInt8)) : List UInt8 :=
  pieces.flatMap fun piece => if piece.1 = id then piece.2 else []

/-- The bytes that a run puts into the control pipe on the connection `id`. -/
def written (J : Json) (id : Nat) (s : St Handle) (as : List (Act Handle)) : List UInt8 :=
  bytesOf id (trace (step J) (writes J) s as)

@[simp] theorem bytesOf_nil (id : Nat) : bytesOf id [] = [] := rfl

theorem bytesOf_self (id : Nat) (bytes : List UInt8) : bytesOf id [(id, bytes)] = bytes := by
  simp [bytesOf]

theorem bytesOf_other {id id' : Nat} (h : id' ≠ id) (bytes : List UInt8) :
    bytesOf id [(id', bytes)] = [] := by
  simp [bytesOf, h]

theorem bytesOf_append (id : Nat) (pieces pieces' : List (Nat × List UInt8)) :
    bytesOf id (pieces ++ pieces') = bytesOf id pieces ++ bytesOf id pieces' := by
  simp [bytesOf]

/-! ## The read loop -/

/-- Whatever follows the stream, the read loop returns the request. -/
def Decides (J : Json) (stream : List UInt8) (request : IpcRequest) : Prop :=
  ∀ rest, requestOf J (stream ++ rest) = .ok request

section
variable {stream line : List UInt8} {request : IpcRequest} {outcome : ReadOutcome}

theorem Decides.append (h : Decides J stream request) (more : List UInt8) :
    Decides J (stream ++ more) request := by
  intro rest
  rw [List.append_assoc]
  exact h (more ++ rest)

theorem Decides.requestOf (h : Decides J stream request) :
    Ipc.requestOf J stream = .ok request := by
  have hresult := h []
  rwa [List.append_nil] at hresult

/-- A read takes its bytes from the front of the pipe. -/
theorem ReadOutcome.bytes_append_rest {conn : Conn} (h : outcome.fits conn = true) :
    outcome.bytes ++ (outcome.rest conn).unread = conn.unread := by
  cases outcome with
  | chunk bytes =>
    simp only [ReadOutcome.fits, Bool.and_eq_true, List.isPrefixOf_iff_prefix] at h
    obtain ⟨rest, hrest⟩ := h.2
    simp only [ReadOutcome.bytes, ReadOutcome.rest, ← hrest, List.drop_left]
  | _ => rfl

/-- The loop goes on. -/
theorem tracks_of_read {line' : List UInt8} (h : Tracks J { requestLine := line } stream)
    (hread : readIteration J line outcome = .more line') :
    Tracks J { requestLine := line' } (stream ++ outcome.bytes) := by
  cases outcome with
  | chunk bytes =>
    have hchunk := tracks_chunk h bytes
    rwa [ReadLoop.step_more rfl hread] at hchunk
  | noData =>
    cases hread
    rwa [show ReadOutcome.noData.bytes = [] from rfl, List.append_nil]
  | _ => cases hread

/-- The loop returns a request: the bytes so far decide it. -/
theorem decides_of_read (h : Tracks J { requestLine := line } stream)
    (hread : readIteration J line outcome = .done (.ok request)) :
    Decides J (stream ++ outcome.bytes) request := by
  cases outcome with
  | chunk bytes =>
    have hdone := ReadLoop.step_done (r := { requestLine := line }) rfl hread
    rcases tracks_chunk h bytes with ⟨hnone, -⟩ | ⟨result, hsome, hall⟩
    · rw [hdone] at hnone
      cases hnone
    · rw [hdone] at hsome
      cases hsome
      exact hall
  | _ => cases hread

end

/-! ## Where the bytes are -/

/-- What the control worker has made of the bytes `bytes` of its connection, of which `unread` are
still in the pipe. -/
def ControlPc.Reads (J : Json) (bytes unread : List UInt8) : ControlPc → Prop
  | .reading _ line => ∃ stream, stream ++ unread = bytes ∧ Tracks J { requestLine := line } stream
  | .enqueueing _ request => Decides J bytes request
  | .waking _ _ => True
  | .awaiting _ _ => True
  | .responding _ _ _ _ => True
  | _ => unread = bytes

/-- More bytes arrive. -/
theorem ControlPc.Reads.append {bytes unread : List UInt8} {pc : ControlPc}
    (h : pc.Reads J bytes unread) (more : List UInt8) :
    pc.Reads J (bytes ++ more) (unread ++ more) := by
  cases pc with
  | reading id line =>
    obtain ⟨stream, rfl, htracks⟩ := h
    exact ⟨stream, by rw [List.append_assoc], htracks⟩
  | enqueueing id request => exact Decides.append h more
  | waking => trivial
  | awaiting => trivial
  | responding => trivial
  | _ => exact congrArg (· ++ more) h

/-- The connection `id` is known and is not one of the control pipe: nothing is written on it. -/
structure Apart (W : Nat → List UInt8) (s : St Handle) (id : Nat) : Prop where
  lt : id < s.nextId
  apart : s.controlPipe.connId ≠ some id
  empty : W id = []

/-- `W` are the bytes of each connection so far. -/
structure Carried (J : Json) (W : Nat → List UInt8) (s : St Handle) : Prop where
  owned : Owned s
  unwritten : ∀ id, s.nextId ≤ id → W id = []
  reads : ∀ conn, s.controlPipe = .connected conn → s.control.Reads J (W conn.id) conn.unread
  statusApart : ∀ id, s.statusPipe.connId = some id → Apart W s id
  requests : ∀ p ∈ s.requests, p.request = .status ∧ Apart W s p.id ∨ Decides J (W p.id) p.request

/-! ## What a step does to the pipes -/

/-- What the other parties do to the control pipe: nothing to its connection and its bytes, a new
connection, or more bytes on the one there is. -/
inductive Fed (s t : St Handle) (pieces : List (Nat × List UInt8)) : Prop where
  | same (hpipe : ∀ conn', t.controlPipe = .connected conn' →
        ∃ conn, s.controlPipe = .connected conn ∧ conn.id = conn'.id ∧ conn.unread = conn'.unread)
      (hpieces : pieces = [])
  | opened (ui : Bool) (hpipe : s.controlPipe = .listening)
      (hopened : t.controlPipe = .connected { id := s.nextId, ui }) (hpieces : pieces = [])
  | wrote (conn : Conn) (bytes : List UInt8) (hpipe : s.controlPipe = .connected conn)
      (hwrote : t.controlPipe = .connected { conn with unread := conn.unread ++ bytes })
      (hpieces : pieces = [(conn.id, bytes)])

theorem Fed.of_eq {pieces : List (Nat × List UInt8)} (hpipe : t.controlPipe = s.controlPipe)
    (hpieces : pieces = []) : Fed s t pieces :=
  .same (fun conn' hconn => ⟨conn', hpipe ▸ hconn, rfl, rfl⟩) hpieces

theorem Pipe.close_eq_connected {id : Nat} {p : Pipe} {conn' : Conn}
    (h : p.close id = .connected conn') :
    ∃ conn, p = .connected conn ∧ conn.id = conn'.id ∧ conn.unread = conn'.unread := by
  cases p with
  | connected conn =>
    refine ⟨conn, rfl, ?_⟩
    simp only [Pipe.close] at h
    split at h <;> cases h <;> exact ⟨rfl, rfl⟩
  | _ => cases h

theorem StatusStep.fed {a : StatusAct} (h : StatusStep s a t) : Fed s t (writes J s (.status a)) :=
  .of_eq h.keeps.controlPipe rfl

theorem UiStep.fed {a : UiAct Handle} (h : UiStep J s a t) : Fed s t (writes J s (.ui a)) := by
  cases h with
  | openControl hpc hpipe => exact .opened true hpipe rfl rfl
  | writePayload hpc hpipe hid =>
    subst hid
    exact .wrote _ _ hpipe rfl (by simp [writes, hpc])
  | writeNewline hpc hpipe hid =>
    subst hid
    exact .wrote _ _ hpipe rfl (by simp [writes, hpc])
  | writeFails hpc => exact .same (fun conn' => Pipe.close_eq_connected) rfl
  | readReply hpc hsent => exact .same (fun conn' => Pipe.close_eq_connected) rfl
  | _ => exact .of_eq rfl rfl

theorem ClientStep.fed {a : ClientAct} (h : ClientStep s a t) :
    Fed s t (writes J s (.client a)) := by
  cases h with
  | openControl hpipe => exact .opened false hpipe rfl rfl
  | writeControl hpipe hui => exact .wrote _ _ hpipe rfl (by simp [writes, hpipe])
  | closeControl hpipe hui =>
    refine .same (fun conn' hconn => ⟨_, hpipe, ?_⟩) rfl
    cases hconn
    exact ⟨rfl, rfl⟩
  | openStatus hpipe => exact .of_eq rfl rfl
  | closeStatus hpipe hui => exact .of_eq rfl rfl

theorem Fed.connId {pieces : List (Nat × List UInt8)} (h : Fed s t pieces) {id : Nat}
    (hid : t.controlPipe.connId = some id) : s.controlPipe.connId = some id ∨ id = s.nextId := by
  cases h with
  | same hpipe hpieces =>
    cases hp : t.controlPipe with
    | connected conn' =>
      obtain ⟨conn, hs, hconn, -⟩ := hpipe conn' hp
      rw [hp] at hid
      rw [hs, ← hid]
      exact .inl (congrArg some hconn)
    | _ =>
      rw [hp] at hid
      cases hid
  | opened ui hpipe hopened =>
    rw [hopened] at hid
    cases hid
    exact .inr rfl
  | wrote conn bytes hpipe hwrote =>
    rw [hwrote] at hid
    rw [hpipe]
    exact .inl hid

/-- Nothing is written but on the connection of the control pipe. -/
theorem Fed.bytesOf {pieces : List (Nat × List UInt8)} (h : Fed s t pieces) {id : Nat}
    (hid : s.controlPipe.connId ≠ some id) : bytesOf id pieces = [] := by
  cases h with
  | same hpipe hpieces => rw [hpieces, bytesOf_nil]
  | opened ui hpipe hopened hpieces => rw [hpieces, bytesOf_nil]
  | wrote conn bytes hpipe hwrote hpieces =>
    rw [hpieces]
    apply bytesOf_other
    intro he
    apply hid
    rw [hpipe, ← he]
    rfl

/-- The control worker's part of the pipe is there for what the others do. -/
theorem Fed.reads {pieces : List (Nat × List UInt8)} {W : Nat → List UInt8} (h : Fed s t pieces)
    (hs : Carried J W s) (hcontrol : t.control = s.control) (conn' : Conn)
    (hconn : t.controlPipe = .connected conn') :
    t.control.Reads J (W conn'.id ++ Ipc.bytesOf conn'.id pieces) conn'.unread := by
  rw [hcontrol]
  cases h with
  | same hpipe hpieces =>
    obtain ⟨conn, hp, hid, hunread⟩ := hpipe conn' hconn
    rw [hpieces, bytesOf_nil, List.append_nil, ← hid, ← hunread]
    exact hs.reads conn hp
  | opened ui hpipe hopened hpieces =>
    cases hopened.symm.trans hconn
    have hempty : W s.nextId = [] := hs.unwritten _ (Nat.le_refl _)
    have howns := hs.owned.control
    rw [hpipe] at howns
    rw [hpieces, bytesOf_nil, List.append_nil, hempty]
    -- an instance no client has opened is one whose bytes the worker has not begun to read
    cases hpc : s.control <;> simp_all [ControlPc.Owns, ControlPc.Reads, Pipe.connId]
  | wrote conn bytes hpipe hwrote hpieces =>
    cases hwrote.symm.trans hconn
    rw [hpieces, bytesOf_self]
    exact (hs.reads conn hpipe).append bytes

theorem Carried.reads_of {W : Nat → List UInt8} (hs : Carried J W s) {pc : ControlPc}
    (hpc : s.control = pc) {conn : Conn} (hpipe : s.controlPipe = .connected conn) :
    pc.Reads J (W conn.id) conn.unread :=
  hpc ▸ hs.reads conn hpipe

theorem ControlStep.connId {a : ControlAct} (h : ControlStep J s a t) {id : Nat}
    (hid : t.controlPipe.connId = some id) : s.controlPipe.connId = some id := by
  cases h with
  | claim =>
    dsimp only at hid
    split at hid
    · cases hid
    · exact hid
  | readMore hpc hpipe => simpa [hpipe] using hid
  | readFails hpc hpipe => simpa [hpipe] using hid
  | restoreFails hpc hpipe => simpa [hpipe] using hid
  | readShutdown hpc hpipe => simpa [hpipe] using hid
  | readRequest hpc hpipe => simpa [hpipe] using hid
  | _ => first | exact hid | cases hid

/-- The control worker only takes bytes out of the pipe, and reads on where it was. -/
theorem ControlStep.reads {a : ControlAct} {W : Nat → List UInt8} (h : ControlStep J s a t)
    (hs : Carried J W s) (conn' : Conn) (hconn : t.controlPipe = .connected conn') :
    t.control.Reads J (W conn'.id) conn'.unread := by
  cases h with
  | claim hpc =>
    dsimp only at hconn
    split at hconn
    · cases hconn
    · exact hs.reads_of hpc hconn
  | report hpc =>
    have hreads : conn'.unread = W conn'.id := hs.reads_of hpc hconn
    dsimp only
    split <;> exact hreads
  | createFails hpc => exact hs.reads_of hpc hconn
  | wait hpc hpipe => exact hs.reads_of hpc hconn
  | connected hpc hpipe hopen => exact hs.reads_of hpc hconn
  | accept hpc hpipe => exact hs.reads_of hpc hconn
  | bound hpc =>
    have hreads : conn'.unread = W conn'.id := hs.reads_of hpc hconn
    exact ⟨[], hreads, tracks_init⟩
  | readMore hpc hpipe hfits hread =>
    cases hconn
    obtain ⟨stream, hstream, htracks⟩ := hs.reads_of hpc hpipe
    refine ⟨_, ?_, tracks_of_read htracks hread⟩
    rw [List.append_assoc, ReadOutcome.bytes_append_rest hfits, hstream, ReadOutcome.id_rest]
  | @readRequest id line conn outcome request hpc hpipe hfits hread =>
    cases hconn
    obtain ⟨stream, hstream, htracks⟩ := hs.reads_of hpc hpipe
    -- the bytes read so far decide, whatever is left in the pipe
    have hdecides := (decides_of_read htracks hread).append (outcome.rest conn).unread
    rw [List.append_assoc, ReadOutcome.bytes_append_rest hfits, hstream] at hdecides
    rw [ReadOutcome.id_rest]
    exact hdecides
  | _ => trivial

/-! ## What a step does to the requests -/

/-- Where the requests of the next state come from. -/
theorem mem_requests_of_step {a : Act Handle} (h : step J s a = some t) {p : PendingRequest}
    (hp : p ∈ t.requests) :
    p ∈ s.requests ∨ s.control = .enqueueing p.id p.request ∨
      (s.status = .enqueueing p.id ∧ p.request = .status) := by
  cases a with
  | control a =>
    cases controlStep_cases h with
    | enqueue hpc halive =>
      rcases List.mem_cons.1 (requests_queue_append.mem_iff.1 hp) with rfl | hp
      · exact .inr (.inl hpc)
      · exact .inl hp
    | _ => exact .inl hp
  | status a =>
    cases statusStep_cases h with
    | enqueue hpc halive =>
      rcases List.mem_cons.1 (requests_queue_append.mem_iff.1 hp) with rfl | hp
      · exact .inr (.inr ⟨hpc, rfl⟩)
      · exact .inl hp
    | _ => exact .inl hp
  | ui a =>
    left
    cases uiStep_cases h with
    | take hpc hqueue =>
      simp only [St.requests, hpc, hqueue, UiPc.inHand, List.mem_append, List.mem_cons,
        List.not_mem_nil] at hp ⊢
      tauto
    | finish hpc =>
      simp only [St.requests, hpc, UiPc.inHand, List.mem_append, List.map_append, List.map_cons,
        List.map_nil, List.mem_cons, List.not_mem_nil] at hp ⊢
      tauto
    | reject hpc hqueue =>
      simp only [St.requests, hqueue, List.mem_append, List.mem_cons] at hp ⊢
      tauto
    | dropApplication hpc =>
      simp only [St.requests, hpc, UiPc.inHand, List.append_nil, List.nil_append,
        List.mem_append] at hp ⊢
      exact .inr hp
    | _ =>
      -- the rest neither queues nor handles anything
      simp_all only [St.requests, Stop.inHand_afterWake, Stop.inHand_afterRequest,
        Stop.inHand_afterJoin] <;>
        exact hp
  | client a =>
    have hk := (clientStep_cases h).keeps
    simp only [St.requests, hk.queue, hk.ui, hk.handled] at hp
    exact .inl hp

/-! ## A step of the system -/

/-- The connections the pipes have after a step. -/
theorem connId_of_step {a : Act Handle} (h : step J s a = some t) :
    (∀ id, t.controlPipe.connId = some id → s.controlPipe.connId = some id ∨ id = s.nextId) ∧
      ∀ id, t.statusPipe.connId = some id → s.statusPipe.connId = some id ∨
        (id = s.nextId ∧ t.nextId = s.nextId + 1 ∧ t.controlPipe = s.controlPipe) := by
  cases a with
  | control a =>
    have hstep := controlStep_cases h
    exact ⟨fun id hid => .inl (hstep.connId hid), fun id hid => .inl (hstep.keeps.statusPipe ▸ hid)⟩
  | status a =>
    have hstep := statusStep_cases h
    refine ⟨fun id => hstep.fed (J := J) |>.connId, fun id hid => .inl ?_⟩
    cases hstep with
    | claim =>
      dsimp only at hid
      split at hid
      · cases hid
      · exact hid
    | _ => first | exact hid | cases hid
  | ui a =>
    have hstep := uiStep_cases h
    refine ⟨fun id => hstep.fed.connId, fun id hid => ?_⟩
    cases hstep with
    | openStatus hpc hpipe =>
      cases hid
      exact .inr ⟨rfl, rfl, rfl⟩
    | closeStatus => exact .inl (by simpa using hid)
    | _ => exact .inl hid
  | client a =>
    have hstep := clientStep_cases h
    refine ⟨fun id => hstep.fed (J := J) |>.connId, fun id hid => ?_⟩
    cases hstep with
    | openStatus hpipe =>
      cases hid
      exact .inr ⟨rfl, rfl, rfl⟩
    | closeStatus hpipe => exact .inl (by simpa [hpipe] using hid)
    | _ => exact .inl hid

/-- Nothing is written but on the connection of the control pipe. -/
theorem bytesOf_writes {a : Act Handle} (h : step J s a = some t) {id : Nat}
    (hid : s.controlPipe.connId ≠ some id) : bytesOf id (writes J s a) = [] := by
  cases a with
  | control a => rfl
  | status a => rfl
  | ui a => exact (uiStep_cases h).fed.bytesOf hid
  | client a => exact (clientStep_cases h).fed.bytesOf hid

/-- The bytes of each connection after a step. -/
def wroteAlso (J : Json) (W : Nat → List UInt8) (s : St Handle) (a : Act Handle) (id : Nat) :
    List UInt8 :=
  W id ++ bytesOf id (writes J s a)

theorem Apart.step {W : Nat → List UInt8} {a : Act Handle} {id : Nat} (hs : Apart W s id)
    (h : Ipc.step J s a = some t) : Apart (wroteAlso J W s a) t id := by
  refine ⟨Nat.lt_of_lt_of_le hs.lt (step_moves h).nextId_le, fun hid => ?_, ?_⟩
  · rcases (connId_of_step h).1 id hid with hid | rfl
    · exact hs.apart hid
    · exact absurd hs.lt (Nat.lt_irrefl _)
  · rw [wroteAlso, hs.empty, bytesOf_writes h hs.apart, List.append_nil]

theorem Carried.step {W : Nat → List UInt8} {a : Act Handle} (hs : Carried J W s)
    (h : Ipc.step J s a = some t) :
    Carried J (wroteAlso J W s a) t := by
  have hunwritten : ∀ id, s.nextId ≤ id → wroteAlso J W s a id = [] := by
    intro id hle
    rw [wroteAlso, hs.unwritten id hle, bytesOf_writes h, List.append_nil]
    intro hid
    have hlt := hs.owned.known id hid
    omega
  refine ⟨hs.owned.step h, fun id hle => ?_, fun conn hconn => ?_, fun id hid => ?_, fun p hp => ?_⟩
  · have hle' := (step_moves h).nextId_le
    exact hunwritten id (by omega)
  · cases a with
    | control a =>
      have hreads := (controlStep_cases h).reads hs conn hconn
      rwa [← List.append_nil (W conn.id)] at hreads
    | status a =>
      have hstep := statusStep_cases h
      exact (hstep.fed (J := J)).reads hs hstep.keeps.control conn hconn
    | ui a =>
      have hstep := uiStep_cases h
      exact hstep.fed.reads hs hstep.keeps.control conn hconn
    | client a =>
      have hstep := clientStep_cases h
      exact (hstep.fed (J := J)).reads hs hstep.keeps.control conn hconn
  · rcases (connId_of_step h).2 id hid with hid | ⟨rfl, hnext, hpipe⟩
    · exact (hs.statusApart id hid).step h
    · refine ⟨by omega, fun hid => ?_, hunwritten _ (Nat.le_refl _)⟩
      have hlt := hs.owned.known _ (hpipe ▸ hid)
      omega
  · rcases mem_requests_of_step h hp with hp | hcontrol | ⟨hstatus, hrequest⟩
    · rcases hs.requests p hp with ⟨hrequest, hapart⟩ | hdecides
      · exact .inl ⟨hrequest, hapart.step h⟩
      · exact .inr (hdecides.append _)
    · -- the worker has read the request off its own connection
      have howns := hs.owned.control
      rw [hcontrol] at howns
      cases hpipe : s.controlPipe with
      | connected conn =>
        have hid : conn.id = p.id := by simpa [hpipe, Pipe.connId] using howns.2
        have hdecides : Decides J (W conn.id) p.request := hs.reads_of hcontrol hpipe
        rw [hid] at hdecides
        exact .inr (hdecides.append _)
      | _ =>
        rw [hpipe] at howns
        cases howns.2
    · have howns := hs.owned.status
      rw [hstatus] at howns
      exact .inl ⟨hrequest, (hs.statusApart p.id howns.2).step h⟩

/-! ## Runs -/

theorem carried_init (controlClaim statusClaim : Bool) (app : Runtime.Application Handle) :
    Carried J (fun _ => []) (.init controlClaim statusClaim app) := by
  refine ⟨owned_init controlClaim statusClaim app, fun _ _ => rfl, fun conn h => ?_, fun id h => ?_,
    fun p h => ?_⟩ <;>
    cases h

theorem Carried.exec {W : Nat → List UInt8} {as : List (Act Handle)} (hs : Carried J W s)
    (h : Machine.exec (Ipc.step J) s as = some t) :
    Carried J (fun id => W id ++ written J id s as) t := by
  induction as generalizing s W with
  | nil =>
    cases h
    simpa [written] using hs
  | cons a as ih =>
    obtain ⟨u, hu, hr⟩ := exec_cons_eq_some h
    have hrest := ih (hs.step hu) hr
    have hbytes : ∀ id, written J id s (a :: as) = bytesOf id (writes J s a) ++
      written J id u as := by
      intro id
      rw [written, trace_cons hu, bytesOf_append, written]
    simp only [hbytes, ← List.append_assoc]
    exact hrest

/-- Where a handled request comes from. -/
theorem decides_of_handled {controlClaim statusClaim : Bool} {app : Runtime.Application Handle}
    {as : List (Act Handle)} (h : exec (step J) (.init controlClaim statusClaim app) as = some t)
    {e : Handled} (he : e ∈ t.handled) :
    (e.request = .status ∧ written J e.id (.init controlClaim statusClaim app) as = []) ∨
      Decides J (written J e.id (.init controlClaim statusClaim app) as) e.request := by
  have hcarried := (carried_init controlClaim statusClaim app).exec h
  have hmem : (⟨e.id, e.request⟩ : PendingRequest) ∈ t.requests :=
    List.mem_append_right _ (List.mem_map.2 ⟨e, he, rfl⟩)
  rcases hcarried.requests _ hmem with ⟨hrequest, hapart⟩ | hdecides
  · exact .inl ⟨hrequest, hapart.empty⟩
  · exact .inr hdecides

/-! ## A request in pieces -/

/-- The bytes of `send_request_with_connect_deadline`. -/
def requestBytes (J : Json) (request : IpcRequest) : List UInt8 := J.line request ++ [newline]

/-- A client asks for Block mode in two pieces, and another one asks for the status before the
second. -/
def blockInPiecesRun : List (Act Unit) :=
  startupRun ++
    ([.client .openControl, .control .connect, .control (.bound (.ok ())),
      .client (.writeControl ((requestBytes .sample (.setMode .block)).take 20)),
      .control (.read (.chunk ((requestBytes .sample (.setMode .block)).take 20)) (.ok ())),
      .status .lock, .status (.publish true), .status .unlock, .status .connect,
      .client .openStatus,
      .status .accept, .status .recheck, .status .enqueue, .status (.wake true),
      .control (.read .noData (.ok ())),
      .client (.writeControl ((requestBytes .sample (.setMode .block)).drop 20)),
      .control (.read (.chunk ((requestBytes .sample (.setMode .block)).drop 20)) (.ok ())),
      .control .enqueue,
      .control (.wake (.ok ())), .ui .take, .ui (.finish (.succeed ())), .ui .take,
      .ui (.finish (.succeed ()))] : List (Act Unit))

/-- The request of the client that has the connection 0. -/
theorem blockInPiecesRun_handled :
    ∃ (s : St Unit) (e : Handled),
      exec (step .sample) (.init true true idleApp) blockInPiecesRun = some s ∧
      e ∈ s.handled ∧ e.id = 0 ∧ e.request = .setMode .block := by
  have hrun : (exec (step .sample) (.init true true idleApp) blockInPiecesRun).any (fun s =>
      s.handled.any fun e => e.id == 0 && e.request == .setMode .block) = true := by decide +kernel
  obtain ⟨s, hs, hhandled⟩ := Option.any_eq_true _ _ |>.1 hrun
  obtain ⟨e, he, h⟩ := List.any_eq_true.1 hhandled
  rw [Bool.and_eq_true, beq_iff_eq, beq_iff_eq] at h
  exact ⟨s, e, hs, he, h.1, h.2⟩

/-- **Every handled request is what the bytes of its connection say**, in whatever pieces they were
read and whoever else did what in between; or it is a status request that came in over the other
pipe, with nothing written on its connection. -/
theorem handled_as_written {controlClaim statusClaim : Bool} {app : Runtime.Application Handle}
    {as : List (Act Handle)} (h : exec (step J) (.init controlClaim statusClaim app) as = some t)
    {e : Handled} (he : e ∈ t.handled) :
    (e.request = .status ∧ written J e.id (.init controlClaim statusClaim app) as = []) ∨
      requestOf J (written J e.id (.init controlClaim statusClaim app) as) = .ok e.request :=
  (decides_of_handled h he).imp_right Decides.requestOf

theorem block_handled_as_written :
    requestOf .sample (written .sample 0 (.init true true idleApp) blockInPiecesRun) =
      .ok (.setMode .block) := by
  obtain ⟨s, e, hs, he, hid, hrequest⟩ := blockInPiecesRun_handled
  rcases handled_as_written hs he with ⟨hstatus, -⟩ | hok
  · rw [hrequest] at hstatus
    cases hstatus
  · rwa [hid, hrequest] at hok

/-! ## Whole requests -/

/-- What a client that is cut off anywhere has written of a request is no request, but the whole
is. -/
theorem requestOf_prefix {request request' : IpcRequest} {bytes : List UInt8}
    (hcarries : J.Carries request) (h : bytes <+: requestBytes J request)
    (hok : requestOf J bytes = .ok request') :
    request' = request ∧ bytes = requestBytes J request := by
  have hline := newline_notMem_line hcarries
  rcases List.prefix_concat_iff.1 h with rfl | h
  · rw [show J.line request ++ [newline] = J.line request ++ newline :: [] from rfl,
      requestOf_line hline] at hok
    split at hok
    · have hparse := parseLine_line hcarries
      rw [hok] at hparse
      cases hparse
      exact ⟨rfl, rfl⟩
    · cases hok
  · have hbytes : newline ∉ bytes := fun hmem => hline (h.subset hmem)
    by_cases hlong : maxRequestBytes ≤ bytes.length
    · have herror := requestOf_oversize (J := J) hbytes hlong []
      rw [List.append_nil, hok] at herror
      cases herror
    · rw [requestOf_incomplete hbytes (by omega)] at hok
      cases hok

/-- **A command is handled undistorted.** If the bytes written on a connection are those of a
request of the program, cut off anywhere, then what is handled for this connection is that request,
and all of it was written; only the status pipe's clients write nothing. -/
theorem command_undistorted {controlClaim statusClaim : Bool} {app : Runtime.Application Handle}
    {as : List (Act Handle)} (h : exec (step J) (.init controlClaim statusClaim app) as = some t)
    {e : Handled} (he : e ∈ t.handled) {request : IpcRequest} (hcarries : J.Carries request)
    (hwritten : written J e.id (.init controlClaim statusClaim app) as <+: requestBytes J request) :
    (e.request = .status ∧ written J e.id (.init controlClaim statusClaim app) as = []) ∨
      (e.request = request ∧
        written J e.id (.init controlClaim statusClaim app) as = requestBytes J request) :=
  (decides_of_handled h he).imp_right fun hdecides =>
    requestOf_prefix hcarries hwritten hdecides.requestOf

/-- The two pieces are the whole request. -/
theorem block_command_undistorted :
    written .sample 0 (.init true true idleApp) blockInPiecesRun = requestBytes .sample
      (.setMode .block) := by
  obtain ⟨s, e, hs, he, hid, hrequest⟩ := blockInPiecesRun_handled
  have hwritten : written .sample e.id (.init true true idleApp) blockInPiecesRun <+:
      requestBytes .sample (.setMode .block) := by
    rw [hid]
    decide +kernel
  rcases command_undistorted hs he (Json.sample_carries (.setMode .block)) hwritten with
    ⟨hstatus, -⟩ | ⟨-, hwhole⟩
  · rw [hrequest] at hstatus
    cases hstatus
  · rwa [hid] at hwhole

end Ipc

import Wardoff.Ipc.Proof.Tokens

/-!
# Each worker owns its pipe

There is one instance of each pipe, and only its worker creates and drops it. So what a worker is
doing says what its pipe looks like (`ControlPc.Owns`, `StatusPc.Owns`): the pipe is absent before
the claim and between two instances, and it belongs to the connection the worker serves. The other
parties only fill an instance (`Pipe.Fills`).

* `Owned.step`: this holds throughout, with any party taking the step.
-/

namespace Ipc

variable {Handle : Type} {J : Json} {s t : St Handle}

/-! ## What the clients can do to a pipe -/

/-- The instance is the same, with at most a client connected that was not before. -/
structure Pipe.Fills (p q : Pipe) : Prop where
  absent : q = .absent ↔ p = .absent
  connId : ∀ id, p.connId = some id → q.connId = some id

theorem Pipe.Fills.refl (p : Pipe) : Pipe.Fills p p := ⟨.rfl, fun _ h => h⟩

theorem Pipe.Fills.open (conn : Conn) : Pipe.Fills .listening (.connected conn) :=
  ⟨by simp, by simp [Pipe.connId]⟩

theorem Pipe.Fills.same {conn conn' : Conn} (h : conn'.id = conn.id) :
    Pipe.Fills (.connected conn) (.connected conn') :=
  ⟨by simp, by simp [h]⟩

theorem Pipe.Fills.close (id : Nat) (p : Pipe) : Pipe.Fills p (p.close id) := by
  refine ⟨?_, fun _ h => by rwa [Pipe.connId_close]⟩
  cases p with
  | connected conn =>
    simp only [Pipe.close]
    split <;> simp
  | _ => rfl

theorem Pipe.Fills.closeUi (p : Pipe) : Pipe.Fills p p.closeUi := by
  refine ⟨?_, fun _ h => by rwa [Pipe.connId_closeUi]⟩
  cases p <;> simp [Pipe.closeUi]

theorem UiStep.fills {a : UiAct Handle} (h : UiStep J s a t) :
    s.controlPipe.Fills t.controlPipe ∧ s.statusPipe.Fills t.statusPipe := by
  cases h with
  | openStatus hpc hpipe => exact ⟨.refl _, hpipe ▸ .open _⟩
  | closeStatus hpc => exact ⟨.refl _, .closeUi _⟩
  | openControl hpc hpipe => exact ⟨hpipe ▸ .open _, .refl _⟩
  | writePayload hpc hpipe hid => exact ⟨hpipe ▸ .same rfl, .refl _⟩
  | writeNewline hpc hpipe hid => exact ⟨hpipe ▸ .same rfl, .refl _⟩
  | writeFails hpc => exact ⟨.close _ _, .refl _⟩
  | readReply hpc hsent => exact ⟨.close _ _, .refl _⟩
  | _ => exact ⟨.refl _, .refl _⟩

theorem ClientStep.fills {a : ClientAct} (h : ClientStep s a t) :
    s.controlPipe.Fills t.controlPipe ∧ s.statusPipe.Fills t.statusPipe := by
  cases h with
  | openControl hpipe => exact ⟨hpipe ▸ .open _, .refl _⟩
  | writeControl hpipe hui => exact ⟨hpipe ▸ .same rfl, .refl _⟩
  | closeControl hpipe hui => exact ⟨hpipe ▸ .same rfl, .refl _⟩
  | openStatus hpipe => exact ⟨.refl _, hpipe ▸ .open _⟩
  | closeStatus hpipe hui => exact ⟨.refl _, hpipe ▸ .same rfl⟩

theorem UiStep.nextId_le {a : UiAct Handle} (h : UiStep J s a t) : s.nextId ≤ t.nextId := by
  cases h <;> simp

theorem ClientStep.nextId_le {a : ClientAct} (h : ClientStep s a t) : s.nextId ≤ t.nextId := by
  cases h <;> simp

/-! ## The control worker -/

/-- The connection the control worker serves. -/
def ControlPc.serving : ControlPc → Option Nat
  | .accepted id => some id
  | .reading id _ => some id
  | .enqueueing id _ => some id
  | .waking id _ => some id
  | .awaiting id _ => some id
  | .responding id _ _ _ => some id
  | _ => none

/-- The control pipe `p` of a worker whose first claim succeeds or not. -/
def ControlPc.Owns (claim : Bool) (p : Pipe) : ControlPc → Prop
  | .claiming => p = .absent
  | .reporting => p = .absent ↔ claim = false
  | .creating => claim = true ∧ p = .absent
  | .connecting => claim = true ∧ p ≠ .absent
  | .waiting => claim = true ∧ p ≠ .absent
  | .exited => p = .absent
  | .accepted id => claim = true ∧ p.connId = some id
  | .reading id _ => claim = true ∧ p.connId = some id
  | .enqueueing id _ => claim = true ∧ p.connId = some id
  | .waking id _ => claim = true ∧ p.connId = some id
  | .awaiting id _ => claim = true ∧ p.connId = some id
  | .responding id _ _ _ => claim = true ∧ p.connId = some id

theorem ControlPc.Owns.fills {claim : Bool} {p q : Pipe} {pc : ControlPc} (h : pc.Owns claim p)
    (hf : p.Fills q) : pc.Owns claim q := by
  obtain ⟨habsent, hconn⟩ := hf
  cases pc <;> simp_all [ControlPc.Owns]

theorem ControlPc.Owns.connId {claim : Bool} {p : Pipe} {pc : ControlPc} (h : pc.Owns claim p)
    {id : Nat} (hid : pc.serving = some id) : p.connId = some id := by
  cases pc <;> simp_all [ControlPc.Owns, ControlPc.serving]

@[simp] theorem ReadOutcome.id_rest (conn : Conn) (o : ReadOutcome) :
    (o.rest conn).id = conn.id := by
  cases o <;> rfl

theorem ControlStep.owns {a : ControlAct} (h : ControlStep J s a t)
    (hs : s.control.Owns s.controlClaim s.controlPipe) :
    t.control.Owns t.controlClaim t.controlPipe := by
  cases h with
  | claim hpc => cases hclaim : s.controlClaim <;> simp_all [ControlPc.Owns]
  | report hpc => cases hclaim : s.controlClaim <;> simp_all [ControlPc.Owns]
  | respond hpc =>
    rename_i stop written
    cases stop <;> simp_all [ControlPc.Owns]
  | _ => simp_all [ControlPc.Owns, ControlPc.reject, Pipe.connId]

/-! ## The status worker -/

/-- The status pipe `p` of a worker whose first claim succeeds or not. -/
def StatusPc.Owns (claim : Bool) (p : Pipe) : StatusPc → Prop
  | .claiming => p = .absent
  | .reporting => p = .absent ↔ claim = false
  | .locking initial => claim = true ∧ (p = .absent ↔ initial = false)
  | .publishing initial => claim = true ∧ (p = .absent ↔ initial = false)
  | .unlocking => claim = true ∧ p ≠ .absent
  | .connecting => claim = true ∧ p ≠ .absent
  | .waiting => claim = true ∧ p ≠ .absent
  | .rechecking id => claim = true ∧ p.connId = some id
  | .enqueueing id => claim = true ∧ p.connId = some id
  | .waking id => claim = true ∧ p.connId = some id
  | .awaiting id => claim = true ∧ p.connId = some id
  | .responding _ => claim = true ∧ p ≠ .absent
  | .exited => p = .absent

theorem StatusPc.Owns.fills {claim : Bool} {p q : Pipe} {pc : StatusPc} (h : pc.Owns claim p)
    (hf : p.Fills q) : pc.Owns claim q := by
  obtain ⟨habsent, hconn⟩ := hf
  cases pc <;> simp_all [StatusPc.Owns]

theorem StatusStep.owns {a : StatusAct} (h : StatusStep s a t)
    (hs : s.status.Owns s.statusClaim s.statusPipe) :
    t.status.Owns t.statusClaim t.statusPipe := by
  cases h with
  | claim hpc => cases hclaim : s.statusClaim <;> simp_all [StatusPc.Owns]
  | report hpc => cases hclaim : s.statusClaim <;> simp_all [StatusPc.Owns]
  | receive hpc hreply =>
    simp only [hpc, StatusPc.Owns] at hs
    refine ⟨hs.1, fun habsent => ?_⟩
    simp only at habsent
    simp [habsent, Pipe.connId] at hs
  | _ => simp_all [StatusPc.Owns, Pipe.connId]

/-! ## The system -/

/-- The workers own their pipes, and ids are given out in turn. -/
structure Owned (s : St Handle) : Prop where
  control : s.control.Owns s.controlClaim s.controlPipe
  status : s.status.Owns s.statusClaim s.statusPipe
  known : ∀ id, s.controlPipe.connId = some id → id < s.nextId
  sent : ∀ e ∈ s.sent, e.id < s.nextId

theorem owned_init (controlClaim statusClaim : Bool) (app : Runtime.Application Handle) :
    Owned (St.init controlClaim statusClaim app) := by
  constructor <;> simp [St.init, ControlPc.Owns, StatusPc.Owns, Pipe.connId]

theorem Owned.step {a : Act Handle} (hs : Owned s) (h : step J s a = some t) : Owned t := by
  cases a with
  | control a =>
    have hstep := controlStep_cases h
    have hk := hstep.keeps
    refine ⟨hstep.owns hs.control, ?_, ?_, ?_⟩
    · rw [hk.status, hk.statusClaim, hk.statusPipe]
      exact hs.status
    · rw [hk.nextId]
      intro id hid
      refine hs.known id ?_
      cases hstep with
      | claim =>
        dsimp only at hid
        split at hid
        · cases hid
        · exact hid
      | readMore hpc hpipe => simpa [hpipe] using hid
      | readFails hpc hpipe => simpa [hpipe] using hid
      | restoreFails hpc hpipe => simpa [hpipe] using hid
      | readShutdown hpc hpipe => simpa [hpipe] using hid
      | readRequest hpc hpipe => simpa [hpipe] using hid
      | _ => first | exact hid | cases hid
    · rw [hk.nextId]
      intro e he
      cases hstep with
      | respond hpc =>
        rename_i id request reply stop written
        have hid : s.controlPipe.connId = some id :=
          hs.control.connId (by simp [hpc, ControlPc.serving])
        cases written with
        | false => exact hs.sent e he
        | true =>
          simp only [if_true, List.mem_append, List.mem_singleton] at he
          rcases he with he | rfl
          · exact hs.sent e he
          · exact hs.known id hid
      | _ => exact hs.sent e he
  | status a =>
    have hstep := statusStep_cases h
    have hk := hstep.keeps
    refine ⟨?_, hstep.owns hs.status, ?_, ?_⟩
    · rw [hk.control, hk.controlClaim, hk.controlPipe]
      exact hs.control
    · rw [hk.controlPipe, hk.nextId]
      exact hs.known
    · rw [hk.sent, hk.nextId]
      exact hs.sent
  | ui a =>
    have hstep := uiStep_cases h
    have hk := hstep.keeps
    refine ⟨?_, ?_, ?_, ?_⟩
    · rw [hk.control, hk.controlClaim]
      exact hs.control.fills hstep.fills.1
    · rw [hk.status, hk.statusClaim]
      exact hs.status.fills hstep.fills.2
    · intro id hid
      cases hstep with
      | openControl hpc hpipe =>
        cases hid
        exact Nat.lt_succ_self _
      | openStatus hpc hpipe => exact Nat.lt_succ_of_lt (hs.known id hid)
      | writePayload hpc hpipe => exact hs.known id (by simpa [hpipe] using hid)
      | writeNewline hpc hpipe => exact hs.known id (by simpa [hpipe] using hid)
      | writeFails hpc => exact hs.known id (by simpa using hid)
      | readReply hpc => exact hs.known id (by simpa using hid)
      | _ => exact hs.known id hid
    · rw [hk.sent]
      exact fun e he => Nat.lt_of_lt_of_le (hs.sent e he) hstep.nextId_le
  | client a =>
    have hstep := clientStep_cases h
    have hk := hstep.keeps
    refine ⟨?_, ?_, ?_, ?_⟩
    · rw [hk.control, hk.controlClaim]
      exact hs.control.fills hstep.fills.1
    · rw [hk.status, hk.statusClaim]
      exact hs.status.fills hstep.fills.2
    · intro id hid
      cases hstep with
      | openControl hpipe =>
        cases hid
        exact Nat.lt_succ_self _
      | openStatus hpipe => exact Nat.lt_succ_of_lt (hs.known id hid)
      | writeControl hpipe => exact hs.known id (by simpa [hpipe] using hid)
      | closeControl hpipe => exact hs.known id (by simpa [hpipe] using hid)
      | closeStatus hpipe => exact hs.known id hid
    · rw [hk.sent]
      exact fun e he => Nat.lt_of_lt_of_le (hs.sent e he) hstep.nextId_le

end Ipc

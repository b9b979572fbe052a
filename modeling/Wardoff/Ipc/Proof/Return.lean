import Wardoff.Ipc.Deadline
import Wardoff.Ipc.Proof.Servers
import Wardoff.Machine.Refinement

/-!
# The servers return to their accept step

Whatever a client does, a worker that serves it is back at its accept step after a bounded number of
its own steps. What it may have to wait for is the UI thread, which gets to its request after a
bounded number of steps towards it (`St.uiDelay`).

* `controlWork_step`, `statusWork_step`: every step of a worker leaves it less to do, and no step of
  another party leaves it more.
* `uiDelay_step`: the same of the UI thread and a request that waits for it.
* `control_moves`, `status_moves`: a worker that waits for nothing can make a step; `ui_progress`:
  and if it waits for its reply, some step of the runtime brings the reply closer.
* `servers_survive`: both workers stay in their loops and return to their accept step;
  `server_killed`: a client that is gone before `ConnectNamedPipe` ends its worker.
-/

namespace Ipc

open Machine

variable {Handle : Type} {J : Json} {s t : St Handle}

/-! ## What the UI thread does first -/

/-- How many steps the worker is away from its startup report. -/
def ControlPc.unreported : ControlPc → Nat
  | .claiming => 2
  | .reporting => 1
  | _ => 0

def StatusPc.unreported : StatusPc → Nat
  | .claiming => 2
  | .reporting => 1
  | _ => 0

/-- How many steps it takes until the request of the connection `id` is answered. -/
def St.uiDelay (s : St Handle) (id : Nat) : Nat :=
  if (s.replies.lookup id).isSome then 0
  else
    let position := s.queue.findIdx (·.id == id)
    match s.ui with
    | .handling p => if p.id = id then 1 else 2 * position + 3
    | .starting n _ => 2 * position + 4 - n + s.control.unreported + s.status.unreported
    | _ => 2 * position + 2

/-- A queued request keeps its position when another one is queued. -/
theorem findIdx_queue_append {queue : List PendingRequest} {id : Nat} (h : ∃ p ∈ queue, p.id = id)
    (q : PendingRequest) :
    (queue ++ [q]).findIdx (·.id == id) = queue.findIdx (·.id == id) := by
  obtain ⟨p, hp, hid⟩ := h
  rw [List.findIdx_append, if_pos (List.findIdx_lt_length_of_exists ⟨p, hp, by simpa using hid⟩)]

/-- Steps of the workers. -/
theorem uiDelay_le_of_worker {id : Nat} (hs : s.pending id) (hui : t.ui = s.ui)
    (hreplies : t.replies = s.replies) (hqueue : t.queue = s.queue ∨ ∃ p, t.queue = s.queue ++ [p])
    (hcontrol : t.control.unreported ≤ s.control.unreported)
    (hstatus : t.status.unreported ≤ s.status.unreported) : t.uiDelay id ≤ s.uiDelay id := by
  simp only [St.uiDelay, hui, hreplies]
  split
  · exact Nat.le_refl _
  · rename_i hnone
    have hpos : (∃ p ∈ s.queue, p.id = id) →
        t.queue.findIdx (·.id == id) = s.queue.findIdx (·.id == id) := by
      intro h
      rcases hqueue with hq | ⟨p, hq⟩
      · rw [hq]
      · rw [hq, findIdx_queue_append h]
    rcases hs with h | ⟨p, hp, hid⟩ | h
    · rw [hpos h]
      split
      · exact Nat.le_refl _
      · omega
      · exact Nat.le_refl _
    · rw [UiPc.mem_inHand.1 hp]
      simp [hid]
    · exact absurd h hnone

theorem uiDelay_eq_zero {id : Nat} (h : (s.replies.lookup id).isSome = true) :
    s.uiDelay id = 0 := by
  simp only [St.uiDelay, h, if_true]

/-- In its loop the UI thread gets closer to a pending request with every step, except by events of
other kinds. -/
theorem UiStep.uiDelay_lt {a : UiAct Handle} {id : Nat} (h : UiStep J s a t) (hs : Reports s)
    (ht : t.ui.leftLoop = false) (hnone : s.replies.lookup id = none) :
    t.uiDelay id < s.uiDelay id ∨ t.uiDelay id = s.uiDelay id ∧ ∃ e, a = .event e := by
  have hloop := h.inLoop_of ht
  cases h with
  | event hpc =>
    refine .inr ⟨?_, _, rfl⟩
    simp only [St.uiDelay, hpc]
  | report hpc hstartup hlt =>
    left
    simp only [St.uiDelay, hpc, hnone, Option.isSome_none, Bool.false_eq_true, if_false]
    omega
  | lastReport hpc hstartup hlt =>
    left
    have hn := (hs.starting _ _ hpc).2.1
    simp only [St.uiDelay, hpc, hnone, Option.isSome_none, Bool.false_eq_true, if_false]
    omega
  | take hpc hqueue =>
    left
    rename_i p rest
    simp only [St.uiDelay, hpc, hqueue, hnone, Option.isSome_none, Bool.false_eq_true, if_false,
      List.findIdx_cons]
    by_cases hid : p.id = id
    · simp [hid]
    · simp only [hid, if_false, beq_eq_false_iff_ne.2 hid, cond_false]
      omega
  | finish hpc =>
    left
    rename_i p o
    by_cases hid : p.id = id
    · rw [uiDelay_eq_zero (by simp [List.lookup_append, hid])]
      simp [St.uiDelay, hpc, hnone, hid]
    · have hne : (id == p.id) = false := beq_eq_false_iff_ne.2 fun h => hid h.symm
      simp only [St.uiDelay, hpc, hnone, List.lookup_append, List.lookup_cons, hne,
        List.lookup_nil, Option.or_none, Option.isSome_none, Bool.false_eq_true, if_false, hid]
      omega
  | reportFails hpc | startupClosed hpc | leaveLoop hpc => cases ht
  | request hpc | openStatus hpc | openStatusFails hpc | closeStatus hpc | reject hpc | drained hpc
  | openControl hpc | openControlAgain hpc | openControlFails hpc | writePayload hpc
  | writeNewline hpc | writeFails hpc | readReply hpc | replyLost hpc | joinControl hpc
  | joinStatus hpc | dropApplication hpc =>
    rw [hpc] at hloop
    cases hloop

theorem ControlStep.unreported_le {a : ControlAct} (h : ControlStep J s a t) :
    t.control.unreported ≤ s.control.unreported := by
  cases h with
  | report hpc =>
    dsimp only
    split <;> exact Nat.zero_le _
  | respond hpc =>
    dsimp only
    split <;> exact Nat.zero_le _
  | _ => simp_all [ControlPc.unreported, ControlPc.reject]

theorem StatusStep.unreported_le {a : StatusAct} (h : StatusStep s a t) :
    t.status.unreported ≤ s.status.unreported := by
  cases h with
  | report hpc =>
    dsimp only
    split <;> exact Nat.zero_le _
  | _ => simp_all [StatusPc.unreported]

theorem ControlStep.queue {a : ControlAct} (h : ControlStep J s a t) :
    t.queue = s.queue ∨ ∃ p, t.queue = s.queue ++ [p] := by
  cases h with
  | enqueue hpc halive => exact .inr ⟨_, rfl⟩
  | _ => exact .inl rfl

theorem StatusStep.queue {a : StatusAct} (h : StatusStep s a t) :
    t.queue = s.queue ∨ ∃ p, t.queue = s.queue ++ [p] := by
  cases h with
  | enqueue hpc halive => exact .inr ⟨_, rfl⟩
  | _ => exact .inl rfl

/-- No step puts off the answer to a pending request. -/
theorem uiDelay_le {a : Act Handle} {id : Nat} (hs : Up s) (hund : undisturbed J s a = true)
    (h : step J s a = some t) (hp : s.pending id) : t.uiDelay id ≤ s.uiDelay id := by
  cases a with
  | control a =>
    have hstep := controlStep_cases h
    have hk := hstep.keeps
    exact uiDelay_le_of_worker hp hk.ui hk.replies hstep.queue hstep.unreported_le
      (Nat.le_of_eq (by rw [hk.status]))
  | status a =>
    have hstep := statusStep_cases h
    have hk := hstep.keeps
    exact uiDelay_le_of_worker hp hk.ui hk.replies hstep.queue (Nat.le_of_eq (by rw [hk.control]))
      hstep.unreported_le
  | ui a =>
    have hstep := uiStep_cases h
    have hloop := (hstep.inLoop hs hund).1
    cases hr : s.replies.lookup id with
    | some reply =>
      have hr' : (t.replies.lookup id).isSome = true := by
        cases hstep with
        | finish hpc => simp [List.lookup_append, hr]
        | reject hpc => simp [List.lookup_append, hr]
        | _ => simp [hr]
      rw [uiDelay_eq_zero hr']
      exact Nat.zero_le _
    | none =>
      rcases hstep.uiDelay_lt hs.reports hloop hr with hlt | ⟨heq, -⟩
      · exact Nat.le_of_lt hlt
      · exact Nat.le_of_eq heq
  | client a =>
    have hk := (clientStep_cases h).keeps
    exact uiDelay_le_of_worker hp hk.ui hk.replies (.inl hk.queue)
      (Nat.le_of_eq (by rw [hk.control])) (Nat.le_of_eq (by rw [hk.status]))

/-! ## The work of a worker -/

/-- The worker owns an instance and waits for a client on it, or is about to. -/
def ControlPc.accepting : ControlPc → Bool
  | .connecting => true
  | .waiting => true
  | _ => false

/-- How many steps the control worker takes at most until it is back at its accept step: each
`ReadFile` brings a byte of the request, or costs a sleep. -/
def TimedSt.controlWork (s : TimedSt Handle) : Nat :=
  match s.sys.control with
  | .accepted _ => requestReadTimeout + maxRequestBytes + 7
  | .reading _ line => requestReadTimeout - s.slept + (maxRequestBytes - line.length) + 6
  | .enqueueing _ _ => 5
  | .waking _ _ => 4
  | .awaiting _ _ => 3
  | .responding _ _ _ _ => 2
  | .creating => 1
  | .claiming => 2
  | .reporting => 1
  | .connecting => 0
  | .waiting => 0
  | .exited => 0

/-- The same of the status worker, which reads nothing. -/
def StatusPc.work : StatusPc → Nat
  | .claiming => 10
  | .reporting => 9
  | .rechecking _ => 8
  | .enqueueing _ => 7
  | .waking _ => 6
  | .awaiting _ => 5
  | .responding _ => 4
  | .locking _ => 3
  | .publishing _ => 2
  | .unlocking => 1
  | .connecting => 0
  | .waiting => 0
  | .exited => 0

theorem controlWork_le (s : TimedSt Handle) :
    s.controlWork ≤ requestReadTimeout + maxRequestBytes + 7 := by
  unfold TimedSt.controlWork
  split <;> omega

theorem StatusPc.work_le (pc : StatusPc) : pc.work ≤ 10 := by
  cases pc <;> simp [StatusPc.work]

/-- An iteration that goes on has slept, or has brought a byte. -/
theorem readIteration_goesOn {line line' : List UInt8} {conn : Conn} {outcome : ReadOutcome}
    (h : readIteration J line outcome = .more line') (hfits : outcome.fits conn = true) :
    (outcome = .noData ∧ line' = line) ∨
      outcome ≠ .noData ∧ line.length < line'.length ∧ line'.length ≤ maxRequestBytes := by
  cases outcome with
  | noData =>
    cases h
    exact .inl ⟨rfl, rfl⟩
  | chunk bytes =>
    refine .inr ⟨nofun, ?_⟩
    have hpos : 0 < bytes.length := by
      simp only [ReadOutcome.fits, Bool.and_eq_true, Bool.not_eq_true',
        List.isEmpty_eq_false_iff] at hfits
      exact List.length_pos_of_ne_nil hfits.1.1
    simp only [readIteration] at h
    cases hfind : bytes.findIdx? (· == newline) with
    | some position =>
      simp only [hfind] at h
      split_ifs at h with hover hdone
      exact absurd rfl hdone
    | none =>
      simp only [hfind] at h
      split_ifs at h with hover hfull
      cases h
      simp only [List.take_length, List.length_append] at hfull ⊢
      omega
  | _ => cases h

theorem StatusStep.work {a : StatusAct} (h : StatusStep s a t) (hs : s.status.accepting = false) :
    t.status.work < s.status.work := by
  cases h with
  | report hpc =>
    dsimp only
    rw [hpc]
    split <;> decide
  | connectFails hpc => rcases hpc with hpc | hpc <;> simp [hpc, StatusPc.accepting] at hs
  | _ => simp_all [StatusPc.accepting, StatusPc.work]

section
variable {s t : TimedSt Handle} {a : Act Handle}

theorem timedStep_eq_some : timedStep J s a = some t ↔
    a.inTime s.slept = true ∧ step J s.sys a = some t.sys ∧ t.slept = a.sleeps s.slept := by
  obtain ⟨sys, slept⟩ := t
  unfold timedStep
  split_ifs with htime
  · cases step J s.sys a with
    | none => simp
    | some u => simp [htime, eq_comm]
  · simp [htime]

def Act.ofControl : Act Handle → Bool
  | .control _ => true
  | _ => false

def Act.ofStatus : Act Handle → Bool
  | .status _ => true
  | _ => false

/-- Steps of the other parties. -/
theorem controlWork_eq (hcontrol : t.sys.control = s.sys.control) (hslept : t.slept = s.slept) :
    t.controlWork = s.controlWork := by
  rw [TimedSt.controlWork, TimedSt.controlWork, hcontrol, hslept]

/-- **Every step of the control worker leaves it less to do**, and no step of another party leaves
it more. -/
theorem controlWork_step (hacc : s.sys.control.accepting = false) (h : timedStep J s a = some t) :
    t.controlWork + a.ofControl.toNat ≤ s.controlWork := by
  obtain ⟨htime, hstep, hslept⟩ := timedStep_eq_some.1 h
  cases a with
  | control a =>
    obtain ⟨sys, slept⟩ := t
    obtain rfl : slept = (Act.control a : Act Handle).sleeps s.slept := hslept
    cases controlStep_cases hstep with
    | readMore hpc hpipe hfits hread =>
      simp only [TimedSt.controlWork, hpc, Act.ofControl, Bool.toNat_true]
      rcases readIteration_goesOn hread hfits with ⟨rfl, rfl⟩ | ⟨hne, hlt, hle⟩
      · -- a sleep, of which there is something left before the deadline
        have hleft : s.slept < requestReadTimeout := by
          simpa [Act.inTime, ReadOutcome.inTime] using htime
        have hdelay : 0 < requestReadPollDelay := by decide
        simp only [Act.sleeps]
        omega
      · rename_i outcome restore
        have hsame :
            (Act.control (.read outcome restore) : Act Handle).sleeps s.slept = s.slept := by
          cases outcome with
          | noData => exact absurd rfl hne
          | _ => rfl
        rw [hsame]
        omega
    | report hpc =>
      simp only [TimedSt.controlWork, hpc, Act.ofControl, Bool.toNat_true]
      split <;> split_ifs at * <;> simp_all
    | respond hpc =>
      simp only [TimedSt.controlWork, hpc, Act.ofControl, Bool.toNat_true]
      split <;> split_ifs at * <;> simp_all
    | connectFails hpc => rcases hpc with hpc | hpc <;> simp [hpc, ControlPc.accepting] at hacc
    | _ => simp_all [ControlPc.accepting, TimedSt.controlWork, ControlPc.reject, Act.ofControl,
        Act.sleeps]
  | status a => exact Nat.le_of_eq (controlWork_eq (statusStep_cases hstep).keeps.control hslept)
  | ui a => exact Nat.le_of_eq (controlWork_eq (uiStep_cases hstep).keeps.control hslept)
  | client a => exact Nat.le_of_eq (controlWork_eq (clientStep_cases hstep).keeps.control hslept)

/-- **Every step of the status worker leaves it less to do**, and no step of another party leaves it
more. -/
theorem statusWork_step (hacc : s.sys.status.accepting = false) (h : timedStep J s a = some t) :
    t.sys.status.work + a.ofStatus.toNat ≤ s.sys.status.work := by
  obtain ⟨-, hstep, -⟩ := timedStep_eq_some.1 h
  cases a with
  | status a => exact (statusStep_cases hstep).work hacc
  | control a => exact Nat.le_of_eq (congrArg StatusPc.work (controlStep_cases hstep).keeps.status)
  | ui a => exact Nat.le_of_eq (congrArg StatusPc.work (uiStep_cases hstep).keeps.status)
  | client a => exact Nat.le_of_eq (congrArg StatusPc.work (clientStep_cases hstep).keeps.status)

end

/-! ## Progress -/

/-- A step of the runtime itself. -/
def Act.ofRuntime : Act Handle → Bool
  | .client _ => false
  | _ => true

/-- A step of the runtime, at any time, in an environment that grants what it needs. -/
def goesOn (J : Json) (s : St Handle) (a : Act Handle) : Bool :=
  a.ofRuntime && undisturbed J s a && connectsInTime s a && a.inTime requestReadTimeout

/-- The startup gets closer to its end. -/
theorem uiDelay_lt_of_unreported {id n : Nat} {ready : Bool} (hpc : s.ui = .starting n ready)
    (hnone : s.replies.lookup id = none) (hui : t.ui = s.ui) (hreplies : t.replies = s.replies)
    (hqueue : t.queue = s.queue)
    (hlt : t.control.unreported + t.status.unreported <
      s.control.unreported + s.status.unreported) :
    t.uiDelay id < s.uiDelay id := by
  simp only [St.uiDelay, hui, hpc, hreplies, hnone, hqueue, Option.isSome_none, Bool.false_eq_true,
    if_false]
  omega

theorem control_reports (hs : Up s) (hr : s.control.reported = false) :
    ∃ a t, goesOn J s (.control a) = true ∧ controlStep J s a = some t ∧
      t.control.unreported < s.control.unreported ∧ t.queue = s.queue := by
  have hclaim : s.controlClaim = true := hs.claims .control
  cases hc : s.control with
  | claiming =>
    have hstep : ∃ t, controlStep J s .claim = some t := by simp [controlStep, hc]
    obtain ⟨t, hstep⟩ := hstep
    refine ⟨.claim, t, rfl, hstep, ?_⟩
    cases controlStep_cases hstep
    exact ⟨Nat.lt_succ_self 1, rfl⟩
  | reporting =>
    have hstep : ∃ t, controlStep J s .report = some t := by simp [controlStep, hc]
    obtain ⟨t, hstep⟩ := hstep
    refine ⟨.report, t, rfl, hstep, ?_⟩
    cases controlStep_cases hstep
    simp [hclaim, ControlPc.unreported]
  | _ => simp [hc, ControlPc.reported] at hr

theorem status_reports (hs : Up s) (hr : s.status.reported = false) :
    ∃ a t, goesOn J s (.status a) = true ∧ statusStep s a = some t ∧
      t.status.unreported < s.status.unreported ∧ t.queue = s.queue := by
  have hclaim : s.statusClaim = true := hs.claims .status
  cases hc : s.status with
  | claiming =>
    have hstep : ∃ t, statusStep s .claim = some t := by simp [statusStep, hc]
    obtain ⟨t, hstep⟩ := hstep
    refine ⟨.claim, t, rfl, hstep, ?_⟩
    cases statusStep_cases hstep
    exact ⟨Nat.lt_succ_self 1, rfl⟩
  | reporting =>
    have hstep : ∃ t, statusStep s .report = some t := by simp [statusStep, hc]
    obtain ⟨t, hstep⟩ := hstep
    refine ⟨.report, t, rfl, hstep, ?_⟩
    cases statusStep_cases hstep
    simp [hclaim, StatusPc.unreported]
  | _ => simp [hc, StatusPc.reported] at hr

/-- While a pending request has no reply, the UI thread can take a step towards it, or a worker
whose startup report it waits for. -/
theorem ui_progress {id : Nat} (o : Runtime.RequestCalls Handle) (hs : Up s) (hp : s.pending id)
    (hnone : s.replies.lookup id = none) :
    ∃ a t, goesOn J s a = true ∧ step J s a = some t ∧ t.uiDelay id < s.uiDelay id ∧
      (t.control = s.control ∨ s.control.reported = false) ∧
      (t.status = s.status ∨ s.status.reported = false) := by
  have hui : ∀ {a : UiAct Handle} {t : St Handle}, undisturbed J s (.ui a) = true →
      (∀ e, a ≠ .event e) → uiStep J s a = some t →
      t.uiDelay id < s.uiDelay id ∧ (t.control = s.control ∨ s.control.reported = false) ∧
        (t.status = s.status ∨ s.status.reported = false) := by
    intro a t hund hne h
    have hstep := uiStep_cases h
    refine ⟨?_, .inl hstep.keeps.control, .inl hstep.keeps.status⟩
    rcases hstep.uiDelay_lt hs.reports (hstep.inLoop hs hund).1 hnone with hlt | ⟨-, e, he⟩
    · exact hlt
    · exact absurd he (hne e)
  cases hpc : s.ui with
  | running =>
    obtain ⟨p, hq, -⟩ : ∃ p ∈ s.queue, p.id = id := by
      simpa [St.pending, hpc, UiPc.inHand, hnone] using hp
    obtain ⟨q, rest, hqueue⟩ := List.exists_cons_of_ne_nil (List.ne_nil_of_mem hq)
    have hstep : uiStep J s .take = some { s with queue := rest, ui := .handling q } := by
      simp only [uiStep, hpc, hqueue]
    exact ⟨.ui .take, _, rfl, hstep, hui rfl (by simp) hstep⟩
  | handling p =>
    have hstep : ∃ t, uiStep J s (.finish o) = some t := by simp [uiStep, hpc]
    obtain ⟨t, hstep⟩ := hstep
    exact ⟨.ui (.finish o), t, rfl, hstep, hui rfl (by simp) hstep⟩
  | starting n ready =>
    cases hstartup : s.startup with
    | cons r rest =>
      have hstep : ∃ t, uiStep J s .receiveReport = some t := by
        simp only [uiStep, hpc, hstartup]
        split <;> exact ⟨_, rfl⟩
      obtain ⟨t, hstep⟩ := hstep
      exact ⟨.ui .receiveReport, t, rfl, hstep, hui rfl (by simp) hstep⟩
    | nil =>
      -- a report is missing, and its worker is still on the way to it
      obtain ⟨hn, hlt, -⟩ := hs.reports.starting n ready hpc
      have hrec : ∀ kind, s.received kind = s.reported kind := by
        intro kind
        simp [St.received, hstartup]
      rw [hrec, hrec] at hn
      have hmissing : s.control.reported = false ∨ s.status.reported = false := by
        by_contra hboth
        simp only [not_or, Bool.not_eq_false] at hboth
        simp [St.reported, hboth] at hn
        omega
      rcases hmissing with hr | hr
      · obtain ⟨a, t, ha, hstep, hlt, hqueue⟩ := control_reports (J := J) hs hr
        have hk := (controlStep_cases hstep).keeps
        refine ⟨.control a, t, ha, hstep, ?_, .inr hr, .inl hk.status⟩
        exact uiDelay_lt_of_unreported hpc hnone hk.ui hk.replies hqueue (by rw [hk.status]; omega)
      · obtain ⟨a, t, ha, hstep, hlt, hqueue⟩ := status_reports (J := J) hs hr
        have hk := (statusStep_cases hstep).keeps
        refine ⟨.status a, t, ha, hstep, ?_, .inl hk.control, .inr hr⟩
        exact uiDelay_lt_of_unreported hpc hnone hk.ui hk.replies hqueue (by rw [hk.control]; omega)
  | _ =>
    have hloop := hs.inLoop
    simp [hpc, UiPc.leftLoop] at hloop

/-- The control worker can make a step, unless it waits for its reply. -/
theorem control_moves (hs : Up s) (hacc : s.control.accepting = false) :
    (∃ a, goesOn J s (.control a) = true ∧ (controlStep J s a).isSome = true) ∨
      ∃ id, s.control.waitsFor = some id ∧ s.replies.lookup id = none := by
  cases hc : s.control with
  | claiming => exact .inl ⟨.claim, rfl, by simp [controlStep, hc]⟩
  | reporting => exact .inl ⟨.report, rfl, by simp [controlStep, hc]⟩
  | creating => exact .inl ⟨.create true, rfl, by simp [controlStep, hc]⟩
  | accepted id => exact .inl ⟨.bound (.ok ()), rfl, by simp [controlStep, hc]⟩
  | reading id line =>
    -- the deadline may have passed
    have hid : s.controlPipe.connId = some id := hs.owned.control.connId (by rw [hc]; rfl)
    cases hpipe : s.controlPipe with
    | connected conn =>
      refine .inl ⟨.read .timedOut (.ok ()), ?_, ?_⟩
      · simp [goesOn, Act.ofRuntime, undisturbed, connectsInTime, Act.inTime,
          ReadOutcome.inTime, hc, readIteration, ReadResult.isShutdown]
      · simp [controlStep, hc, hpipe, ReadOutcome.fits, readIteration]
    | _ => simp [hpipe, Pipe.connId] at hid
  | enqueueing id request => exact .inl ⟨.enqueue, rfl, by simp [controlStep, hc, hs.alive]⟩
  | waking id request => exact .inl ⟨.wake (.ok ()), rfl, by simp [controlStep, hc]⟩
  | awaiting id request =>
    cases hr : s.replies.lookup id with
    | some reply => exact .inl ⟨.receive, rfl, by simp [controlStep, hc, hr]⟩
    | none => exact .inr ⟨id, rfl, hr⟩
  | responding id request reply stop => exact .inl ⟨.respond true, rfl, by simp [controlStep, hc]⟩
  | exited => exact absurd hc hs.control
  | _ => simp [hc, ControlPc.accepting] at hacc

/-- The status worker can make a step, unless it waits for its reply. -/
theorem status_moves (hs : Up s) (hacc : s.status.accepting = false) :
    (∃ a, goesOn J s (.status a) = true ∧ (statusStep s a).isSome = true) ∨
      ∃ id, s.status.waitsFor = some id ∧ s.replies.lookup id = none := by
  have hgate : s.gateHeld = s.status.inGate := hs.gated.held
  cases hc : s.status with
  | claiming => exact .inl ⟨.claim, rfl, by simp [statusStep, hc]⟩
  | reporting => exact .inl ⟨.report, rfl, by simp [statusStep, hc]⟩
  | locking initial => exact .inl ⟨.lock, rfl, by simp [statusStep, hc, hgate, StatusPc.inGate]⟩
  | publishing initial =>
    refine .inl ⟨.publish true, rfl, ?_⟩
    cases initial <;> simp [statusStep, hc, hs.unflagged]
  | unlocking => exact .inl ⟨.unlock, rfl, by simp [statusStep, hc]⟩
  | rechecking id => exact .inl ⟨.recheck, rfl, by simp [statusStep, hc, hs.unflagged]⟩
  | enqueueing id => exact .inl ⟨.enqueue, rfl, by simp [statusStep, hc, hs.alive]⟩
  | waking id => exact .inl ⟨.wake true, rfl, by simp [statusStep, hc]⟩
  | awaiting id =>
    cases hr : s.replies.lookup id with
    | some reply => exact .inl ⟨.receive, rfl, by simp [statusStep, hc, hr]⟩
    | none => exact .inr ⟨id, rfl, hr⟩
  | responding response => exact .inl ⟨.respond, rfl, by simp [statusStep, hc]⟩
  | exited => exact absurd hc hs.status
  | _ => simp [hc, StatusPc.accepting] at hacc

/-! ## Every run -/

/-- A run with the deadline is a run of `step`. -/
def timedRefinement (Handle : Type) (J : Json) :
    Refinement (@timedStep Handle J) (@step Handle J) where
  abs := TimedSt.sys
  emit _ a := [a]
  matched h := by
    simp [Machine.exec, (timedStep_eq_some.1 h).2.1]

section
variable {s t : TimedSt Handle} {a : Act Handle} {id : Nat}

/-- What the environment grants the servers. -/
def TimedSt.granted (J : Json) (s : TimedSt Handle) (a : Act Handle) : Bool :=
  undisturbed J s.sys a && connectsInTime s.sys a

theorem up_of_exec {app : Runtime.Application Handle} {as : List (Act Handle)}
    (has : Along (timedStep J) (fun s a => s.granted J a) { sys := .init true true app } as)
    (h : exec (timedStep J) { sys := .init true true app } as = some s) : Up s.sys := by
  refine (timedRefinement Handle J).inv_of_along (I := Up)
    (Q := fun s a => undisturbed J s a && connectsInTime s a)
    (fun s a ha => ⟨ha, fun _ _ => trivial⟩) (fun s a t hs ha h => ?_) ?_ has h
  · rw [Bool.and_eq_true] at ha
    exact hs.step ha.1 ha.2 h
  · exact up_init app

/-- What is in time when the timeout has been slept is in time. -/
theorem inTime_of_goesOn (ha : goesOn J s.sys a = true) : a.inTime s.slept = true := by
  have htime : a.inTime requestReadTimeout = true := by
    rw [goesOn, Bool.and_eq_true] at ha
    exact ha.2
  cases a with
  | control a =>
    cases a with
    | read outcome restore =>
      cases outcome with
      | timedOut => rfl
      | _ => simp [Act.inTime, ReadOutcome.inTime] at htime
    | _ => rfl
  | _ => rfl

theorem timedStep_of_goesOn {u : St Handle} (ha : goesOn J s.sys a = true)
    (h : step J s.sys a = some u) :
    timedStep J s a = some { sys := u, slept := a.sleeps s.slept } :=
  timedStep_eq_some.2 ⟨inTime_of_goesOn ha, h, rfl⟩

theorem isSome_timedStep (ha : goesOn J s.sys a = true) (h : (step J s.sys a).isSome = true) :
    (timedStep J s a).isSome = true := by
  obtain ⟨u, hu⟩ := Option.isSome_iff_exists.1 h
  rw [timedStep_of_goesOn ha hu]
  rfl

/-- A step of the UI thread's loop, other than an event. -/
def Act.ofLoop : Act Handle → Bool
  | .ui (.event _) => false
  | .ui _ => true
  | _ => false

/-- **The loop gets to every request**: each of its steps but for the events brings the reply
closer, and no step of another party puts it off. -/
theorem uiDelay_step (hs : Up s.sys) (hund : undisturbed J s.sys a = true) (hp : s.sys.pending id)
    (hnone : s.sys.replies.lookup id = none) (h : timedStep J s a = some t) :
    t.sys.uiDelay id + a.ofLoop.toNat ≤ s.sys.uiDelay id := by
  obtain ⟨-, hstep, -⟩ := timedStep_eq_some.1 h
  have hle := uiDelay_le hs hund hstep hp
  cases a with
  | ui a =>
    have hui := uiStep_cases hstep
    rcases hui.uiDelay_lt hs.reports (hui.inLoop hs hund).1 hnone with hlt | ⟨heq, e, rfl⟩
    · cases (Act.ui a : Act Handle).ofLoop <;> simp <;> omega
    · exact Nat.le_of_eq heq
  | control a => exact hle
  | status a => exact hle
  | client a => exact hle

section
variable {bs : List (Act Handle)}

/-- Until it is back at its accept step the control worker takes a bounded number of steps. -/
theorem control_returns
    (hbs : Along (timedStep J) (fun s a => s.granted J a && !s.sys.control.accepting) s bs)
    (h : exec (timedStep J) s bs = some t) :
    bs.countP Act.ofControl ≤ requestReadTimeout + maxRequestBytes + 7 := by
  have hstep : ∀ (s : TimedSt Handle) a t, True →
      (s.granted J a && !s.sys.control.accepting) = true →
      timedStep J s a = some t → True ∧ t.controlWork + a.ofControl.toNat ≤ s.controlWork := by
    intro s a t _ ha hstep
    rw [Bool.and_eq_true, Bool.not_eq_true'] at ha
    exact ⟨trivial, controlWork_step ha.2 hstep⟩
  have hcount := countP_add_rank_le hstep trivial hbs h
  have hmax := controlWork_le s
  omega

theorem status_returns
    (hbs : Along (timedStep J) (fun s a => s.granted J a && !s.sys.status.accepting) s bs)
    (h : exec (timedStep J) s bs = some t) : bs.countP Act.ofStatus ≤ 10 := by
  have hstep : ∀ (s : TimedSt Handle) a t, True →
      (s.granted J a && !s.sys.status.accepting) = true → timedStep J s a = some t →
      True ∧ t.sys.status.work + a.ofStatus.toNat ≤ s.sys.status.work := by
    intro s a t _ ha hstep
    rw [Bool.and_eq_true, Bool.not_eq_true'] at ha
    exact ⟨trivial, statusWork_step ha.2 hstep⟩
  have hcount := countP_add_rank_le hstep trivial hbs h
  have hmax := s.sys.status.work_le
  omega

/-- Until a request is answered the loop takes a bounded number of steps, events aside. -/
theorem loop_answers (hs : Up s.sys) (hp : s.sys.pending id)
    (hbs : Along (timedStep J) (fun s a => s.granted J a && (s.sys.replies.lookup id).isNone) s bs)
    (h : exec (timedStep J) s bs = some t) : bs.countP Act.ofLoop ≤ s.sys.uiDelay id := by
  have hstep : ∀ (s : TimedSt Handle) a t, Up s.sys ∧ s.sys.pending id →
      (s.granted J a && (s.sys.replies.lookup id).isNone) = true → timedStep J s a = some t →
      (Up t.sys ∧ t.sys.pending id) ∧ t.sys.uiDelay id + a.ofLoop.toNat ≤ s.sys.uiDelay id := by
    intro s a t hs ha hstep
    obtain ⟨hup, hp⟩ := hs
    obtain ⟨-, hsys, -⟩ := timedStep_eq_some.1 hstep
    simp only [TimedSt.granted, Bool.and_eq_true, Option.isNone_iff_eq_none] at ha
    obtain ⟨⟨hund, htime⟩, hnone⟩ := ha
    exact ⟨⟨hup.step hund htime hsys, hup.pending hund hsys hp⟩,
      uiDelay_step hup hund hp hnone hstep⟩
  have hcount := countP_add_rank_le hstep ⟨hs, hp⟩ hbs h
  omega

end

end

/-- **No client can kill the servers** if none is gone before its worker's `ConnectNamedPipe`. Both
workers stay in their loops. Whatever the clients do and whatever the calls return, a worker takes
at most so many steps until it is back at its accept step; as long as it is not, it can make the
next one, unless it waits for its reply; and while it waits, some step of the runtime brings the
reply closer, and the UI thread takes a bounded number of steps of its loop, events aside. -/
theorem servers_survive (o : Runtime.RequestCalls Handle) (app : Runtime.Application Handle)
    (as : List (Act Handle)) {s : TimedSt Handle}
    (has : Along (timedStep J) (fun s a => s.granted J a) { sys := .init true true app } as)
    (h : exec (timedStep J) { sys := .init true true app } as = some s) :
    (s.sys.control ≠ .exited ∧ s.sys.status ≠ .exited) ∧
    (∀ bs t, Along (timedStep J) (fun s a => s.granted J a && !s.sys.control.accepting) s bs →
      exec (timedStep J) s bs = some t →
      bs.countP Act.ofControl ≤ requestReadTimeout + maxRequestBytes + 7) ∧
    (∀ bs t, Along (timedStep J) (fun s a => s.granted J a && !s.sys.status.accepting) s bs →
      exec (timedStep J) s bs = some t → bs.countP Act.ofStatus ≤ 10) ∧
    (s.sys.control.accepting = false →
      (∃ a, goesOn J s.sys (.control a) = true ∧ (timedStep J s (.control a)).isSome = true) ∨
        ∃ id, s.sys.control.waitsFor = some id ∧ s.sys.replies.lookup id = none) ∧
    (s.sys.status.accepting = false →
      (∃ a, goesOn J s.sys (.status a) = true ∧ (timedStep J s (.status a)).isSome = true) ∨
        ∃ id, s.sys.status.waitsFor = some id ∧ s.sys.replies.lookup id = none) ∧
    (∀ id, s.sys.control.waitsFor = some id ∨ s.sys.status.waitsFor = some id →
      s.sys.replies.lookup id = none →
      (∃ a t, goesOn J s.sys a = true ∧ timedStep J s a = some t ∧
        t.sys.uiDelay id < s.sys.uiDelay id) ∧
      ∀ bs t,
        Along (timedStep J) (fun s a => s.granted J a && (s.sys.replies.lookup id).isNone) s bs →
        exec (timedStep J) s bs = some t → bs.countP Act.ofLoop ≤ s.sys.uiDelay id) := by
  have hs : Up s.sys := up_of_exec has h
  refine ⟨⟨hs.control, hs.status⟩, fun bs t hbs hmore => ?_, fun bs t hbs hmore => ?_,
    fun hacc => ?_, fun hacc => ?_, fun id hid hnone => ⟨?_, fun bs t hbs hmore => ?_⟩⟩
  · exact control_returns hbs hmore
  · exact status_returns hbs hmore
  · exact (control_moves (J := J) hs hacc).imp_left fun ⟨a, ha, hstep⟩ =>
      ⟨a, ha, isSome_timedStep ha hstep⟩
  · exact (status_moves (J := J) hs hacc).imp_left fun ⟨a, ha, hstep⟩ =>
      ⟨a, ha, isSome_timedStep ha hstep⟩
  · have hp : s.sys.pending id := hid.elim (hs.controlPending id) (hs.statusPending id)
    obtain ⟨a, u, ha, hu, hlt, -⟩ := ui_progress (J := J) o hs hp hnone
    exact ⟨a, _, ha, timedStep_of_goesOn ha hu, hlt⟩
  · exact loop_answers hs (hid.elim (hs.controlPending id) (hs.statusPending id)) hbs hmore

/-- A client connects while the worker waits, and hangs up without a request. The next one connects
in time. -/
def hangupRun : List (Act Unit) :=
  startupRun ++
    ([.control .connect, .client .openControl, .client .closeControl, .control .accept,
      .control (.bound (.ok ())), .control (.read .brokenPipe (.ok ())), .control (.respond false),
      .control (.create true), .client .openControl, .control .connect] : List (Act Unit))

/-- It sends nothing, and the worker sleeps until its deadline. -/
def silentRun : List (Act Unit) :=
  .control (.bound (.ok ())) :: List.replicate 100 (.control (.read .noData (.ok ()))) ++
    ([.control (.read .timedOut (.ok ())), .control (.respond true), .control (.create true)] :
      List (Act Unit))

theorem servers_survive_hangup :
    ∃ s t : TimedSt Unit,
      exec (timedStep .sample) { sys := .init true true idleApp } hangupRun = some s ∧
      exec (timedStep .sample) s silentRun = some t ∧ t.sys.control = .connecting ∧
      (s.sys.control ≠ .exited ∧ s.sys.status ≠ .exited) ∧
      silentRun.countP Act.ofControl ≤ requestReadTimeout + maxRequestBytes + 7 := by
  have hsurvive := servers_survive (J := .sample) (.succeed ()) idleApp hangupRun
    (by decide +kernel) rfl
  exact ⟨_, _, rfl, rfl, rfl, hsurvive.1, hsurvive.2.1 silentRun _ (by decide +kernel) rfl⟩

/-- A client connects and hangs up before the worker calls `ConnectNamedPipe`. -/
def earlyHangupRun : List (Act Unit) :=
  startupRun ++ ([.client .openControl, .client .closeControl, .control .connect] : List (Act Unit))

/-- A client can end the control server. -/
theorem server_killed :
    ¬ ∀ (as : List (Act Unit)) (s : TimedSt Unit),
      Along (timedStep .sample) (fun s a => undisturbed .sample s.sys a)
        { sys := .init true true idleApp } as →
      exec (timedStep .sample) { sys := .init true true idleApp } as = some s →
      s.sys.control ≠ .exited ∧ s.sys.status ≠ .exited := by
  intro h
  exact (h earlyHangupRun _ (by decide +kernel) rfl).1 rfl

end Ipc

import Wardoff.Ipc.Proof.Gate
import Wardoff.Ipc.Proof.Pipes
import Wardoff.Ipc.Proof.Reports

/-!
# The servers stay up

No client makes a worker leave its loop, except through the window between the creation of an
instance and `ConnectNamedPipe`: a client that connects and is gone again before that call makes it
fail with `ERROR_NO_DATA`, which both workers take for the end of their pipe.

* `undisturbed` is what the environment grants: instances can be created, no client asks for a
  shutdown, the runtime has not begun one. `connectsInTime`: no client is gone too early.
* `Up.step`: under these the invariant `Up` is kept; it says that both workers run, that the UI
  thread is in its loop, and that every request a worker waits for is on its way (`St.pending`).
-/

namespace Ipc

open Machine

variable {Handle : Type} {J : Json} {s t : St Handle}

/-! ## The environment -/

/-- The worker has read a `ShutdownServer` request. -/
def ReadResult.isShutdown : ReadResult → Bool
  | .done (.ok .shutdownServer) => true
  | _ => false

/-- A pipe instance can be created, `ConnectNamedPipe` fails for no other reason than its client, no
client sends a well-formed `ShutdownServer` request, and the runtime does not shut down. -/
def undisturbed (J : Json) (s : St Handle) : Act Handle → Bool
  | .control (.create ok) => ok
  | .control .connectFails => false
  | .control (.read outcome _) =>
    match s.control with
    | .reading _ line => !(readIteration J line outcome).isShutdown
    | _ => true
  | .status (.publish ok) => ok
  | .status .connectFails => false
  | .ui .leaveLoop => false
  | _ => true

/-- The client of the instance has not closed its end. -/
def Pipe.isOpen : Pipe → Bool
  | .connected conn => conn.isOpen
  | _ => true

/-- No worker calls `ConnectNamedPipe` for a client that is gone already. -/
def connectsInTime (s : St Handle) : Act Handle → Bool
  | .control .connect => s.controlPipe.isOpen
  | .status .connect => s.statusPipe.isOpen
  | _ => true

/-! ## Requests on their way -/

/-- The request the control worker has queued and waits for. -/
def ControlPc.waitsFor : ControlPc → Option Nat
  | .waking id _ => some id
  | .awaiting id _ => some id
  | _ => none

def StatusPc.waitsFor : StatusPc → Option Nat
  | .waking id => some id
  | .awaiting id => some id
  | _ => none

/-- The request of the connection `id` is queued, in the UI thread's hands, or answered. -/
def St.pending (s : St Handle) (id : Nat) : Prop :=
  (∃ p ∈ s.queue, p.id = id) ∨ (∃ p ∈ s.ui.inHand, p.id = id) ∨ (s.replies.lookup id).isSome = true

/-- The invariant of servers that stay up. -/
structure Up (s : St Handle) : Prop where
  owned : Owned s
  gated : Gated s
  reports : Reports s
  claims : ∀ kind, s.claim kind = true
  inLoop : s.ui.leftLoop = false
  alive : s.receiverAlive = true
  unflagged : s.shutdownRequested = false
  control : s.control ≠ .exited
  status : s.status ≠ .exited
  serving : ∀ id request reply stop, s.control = .responding id request reply stop → stop = false
  controlPending : ∀ id, s.control.waitsFor = some id → s.pending id
  statusPending : ∀ id, s.status.waitsFor = some id → s.pending id

theorem up_init (app : Runtime.Application Handle) : Up (St.init true true app) := by
  refine ⟨owned_init true true app, gated_init true true app, reports_init true true app, ?_,
    ?_, ?_, ?_, ?_, ?_, ?_, ?_, ?_⟩
  · rintro (_ | _) <;> rfl
  all_goals simp [St.init, UiPc.leftLoop, ControlPc.waitsFor, StatusPc.waitsFor]

theorem pending_of_queue_append {id : Nat} {p : PendingRequest} (hqueue : t.queue = s.queue ++ [p])
    (hui : t.ui = s.ui) (hreplies : t.replies = s.replies) (h : s.pending id) : t.pending id := by
  rcases h with ⟨q, hq, hid⟩ | h | h
  · exact .inl ⟨q, by simp [hqueue, hq], hid⟩
  · exact .inr (.inl (hui ▸ h))
  · exact .inr (.inr (hreplies ▸ h))

/-- A pending request stays pending as long as the UI thread is in its loop. -/
theorem UiStep.pending {a : UiAct Handle} {id : Nat} (h : UiStep J s a t)
    (ht : t.ui.leftLoop = false) (hs : s.pending id) : t.pending id := by
  have hloop := h.inLoop_of ht
  cases h with
  | take hpc hqueue =>
    rcases hs with ⟨q, hq, hid⟩ | ⟨q, hq, hid⟩ | hr
    · rw [hqueue] at hq
      rcases List.mem_cons.1 hq with rfl | hq
      · exact .inr (.inl ⟨q, List.mem_singleton_self _, hid⟩)
      · exact .inl ⟨q, hq, hid⟩
    · simp [hpc, UiPc.inHand] at hq
    · exact .inr (.inr hr)
  | finish hpc =>
    rcases hs with hs | ⟨q, hq, hid⟩ | hr
    · exact .inl hs
    · rw [hpc, UiPc.inHand, List.mem_singleton] at hq
      refine .inr (.inr ?_)
      simp [List.lookup_append, ← hid, hq]
    · refine .inr (.inr ?_)
      simp only [List.lookup_append, Option.isSome_or, hr, Bool.true_or]
  | event hpc => exact hs
  | report hpc hstartup hlt =>
    rcases hs with hs | ⟨q, hq, hid⟩ | hr
    · exact .inl hs
    · simp [hpc, UiPc.inHand] at hq
    · exact .inr (.inr hr)
  | lastReport hpc hstartup hlt =>
    rcases hs with hs | ⟨q, hq, hid⟩ | hr
    · exact .inl hs
    · simp [hpc, UiPc.inHand] at hq
    · exact .inr (.inr hr)
  | _ => simp_all [UiPc.leftLoop]

/-! ## The invariant is kept -/

/-- The control worker does not exit. -/
theorem ControlStep.up {a : ControlAct} (h : ControlStep J s a t) (hs : Up s)
    (hund : undisturbed J s (.control a) = true) (htime : connectsInTime s (.control a) = true) :
    t.control ≠ .exited ∧
      ∀ id request reply stop, t.control = .responding id request reply stop → stop = false := by
  have hclaim : s.controlClaim = true := hs.claims .control
  cases h with
  | report hpc => simp [hclaim]
  | createFails hpc => simp [undisturbed] at hund
  | noData hpc hpipe hclosed => simp [connectsInTime, hpipe, Pipe.isOpen, hclosed] at htime
  | connectFails hpc => simp [undisturbed] at hund
  | readShutdown hpc hpipe hfits hread =>
    simp [undisturbed, hpc, hread, ReadResult.isShutdown] at hund
  | enqueueClosed hpc hdead => simp [hs.alive] at hdead
  | receiveClosed hpc hreply hdead => simp [hs.alive] at hdead
  | respond hpc =>
    have hstop := hs.serving _ _ _ _ hpc
    simp [hstop]
  | _ => simp [ControlPc.reject]

/-- What the control worker waits for was pending, or it has just queued it. -/
theorem ControlStep.pending {a : ControlAct} (h : ControlStep J s a t)
    (hs : ∀ id, s.control.waitsFor = some id → s.pending id) :
    (∀ id, t.control.waitsFor = some id → t.pending id) ∧ ∀ id, s.pending id → t.pending id := by
  cases h with
  | enqueue hpc halive =>
    refine ⟨fun id hid => ?_, fun id => pending_of_queue_append rfl rfl rfl⟩
    cases hid
    exact .inl ⟨_, List.mem_append_right _ (List.mem_singleton_self _), rfl⟩
  | wake hpc =>
    refine ⟨fun id hid => hs id ?_, fun _ h => h⟩
    rw [hpc]
    exact hid
  | report hpc =>
    refine ⟨fun id hid => ?_, fun _ h => h⟩
    dsimp only at hid
    split at hid <;> cases hid
  | respond hpc =>
    refine ⟨fun id hid => ?_, fun _ h => h⟩
    dsimp only at hid
    split at hid <;> cases hid
  | _ => exact ⟨fun id hid => (by cases hid), fun _ h => h⟩

/-- The status worker does not exit. -/
theorem StatusStep.up {a : StatusAct} (h : StatusStep s a t) (hs : Up s)
    (hund : undisturbed J s (.status a) = true) (htime : connectsInTime s (.status a) = true) :
    t.status ≠ .exited := by
  have hclaim : s.statusClaim = true := hs.claims .status
  cases h with
  | report hpc => simp [hclaim]
  | flagged hpc hflag => simp [hs.unflagged] at hflag
  | publishFails hpc hflag => simp [undisturbed] at hund
  | noData hpc hpipe hclosed => simp [connectsInTime, hpipe, Pipe.isOpen, hclosed] at htime
  | connectFails hpc => simp [undisturbed] at hund
  | recheckFlagged hpc hflag => simp [hs.unflagged] at hflag
  | enqueueClosed hpc hdead => simp [hs.alive] at hdead
  | receiveClosed hpc hreply hdead => simp [hs.alive] at hdead
  | _ => simp

theorem StatusStep.pending {a : StatusAct} (h : StatusStep s a t)
    (hs : ∀ id, s.status.waitsFor = some id → s.pending id) :
    (∀ id, t.status.waitsFor = some id → t.pending id) ∧ ∀ id, s.pending id → t.pending id := by
  cases h with
  | enqueue hpc halive =>
    refine ⟨fun id hid => ?_, fun id => pending_of_queue_append rfl rfl rfl⟩
    cases hid
    exact .inl ⟨_, List.mem_append_right _ (List.mem_singleton_self _), rfl⟩
  | wake hpc =>
    refine ⟨fun id hid => hs id ?_, fun _ h => h⟩
    rw [hpc]
    exact hid
  | report hpc =>
    refine ⟨fun id hid => ?_, fun _ h => h⟩
    dsimp only at hid
    split at hid <;> cases hid
  | _ => exact ⟨fun id hid => (by cases hid), fun _ h => h⟩

/-- The UI thread stays in its loop: no report is a failure, and nothing else ends it. -/
theorem UiStep.inLoop {a : UiAct Handle} (h : UiStep J s a t) (hs : Up s)
    (hund : undisturbed J s (.ui a) = true) :
    t.ui.leftLoop = false ∧ t.receiverAlive = true ∧ t.shutdownRequested = false := by
  have hloop := hs.inLoop
  cases h with
  | report hpc hstartup hlt => exact ⟨rfl, hs.alive, hs.unflagged⟩
  | lastReport hpc hstartup hlt => exact ⟨rfl, hs.alive, hs.unflagged⟩
  | reportFails hpc hstartup =>
    rename_i n ready kind rest
    have hok := (hs.reports.sent ⟨kind, false⟩ (by simp [hstartup])).2
    simp [hs.claims] at hok
  | startupClosed hpc hstartup hcontrol hstatus => exact absurd hcontrol hs.control
  | take hpc hqueue => exact ⟨rfl, hs.alive, hs.unflagged⟩
  | finish hpc => exact ⟨rfl, hs.alive, hs.unflagged⟩
  | event hpc => exact ⟨hloop, hs.alive, hs.unflagged⟩
  | leaveLoop hpc => simp [undisturbed] at hund
  | _ => simp_all [UiPc.leftLoop]

/-- A pending request stays pending. -/
theorem Up.pending {a : Act Handle} {id : Nat} (hs : Up s) (hund : undisturbed J s a = true)
    (h : step J s a = some t) (hp : s.pending id) : t.pending id := by
  cases a with
  | control a => exact ((controlStep_cases h).pending hs.controlPending).2 id hp
  | status a => exact ((statusStep_cases h).pending hs.statusPending).2 id hp
  | ui a =>
    have hstep := uiStep_cases h
    exact hstep.pending (hstep.inLoop hs hund).1 hp
  | client a =>
    have hk := (clientStep_cases h).keeps
    simpa only [St.pending, hk.queue, hk.ui, hk.replies] using hp

/-- **The servers stay up.** -/
theorem Up.step {a : Act Handle} (hs : Up s) (hund : undisturbed J s a = true)
    (htime : connectsInTime s a = true) (h : step J s a = some t) : Up t := by
  have howned := hs.owned.step h
  have hgated := hs.gated.step h
  have hreports := hs.reports.step h
  cases a with
  | control a =>
    have hstep := controlStep_cases h
    have hk := hstep.keeps
    obtain ⟨hcontrol, hserving⟩ := hstep.up hs hund htime
    have hpending := (hstep.pending hs.controlPending).1
    refine ⟨howned, hgated, hreports, ?_, hk.ui ▸ hs.inLoop, hk.receiverAlive ▸ hs.alive,
      hk.shutdownRequested ▸ hs.unflagged, hcontrol, hk.status ▸ hs.status, hserving, hpending, ?_⟩
    · exact fun kind => (claim_congr hk.controlClaim hk.statusClaim kind).trans (hs.claims kind)
    · exact fun id hid => hs.pending hund h (hs.statusPending id (hk.status ▸ hid))
  | status a =>
    have hstep := statusStep_cases h
    have hk := hstep.keeps
    have hpending := (hstep.pending hs.statusPending).1
    refine ⟨howned, hgated, hreports, ?_, hk.ui ▸ hs.inLoop, hk.receiverAlive ▸ hs.alive,
      hk.shutdownRequested ▸ hs.unflagged, hk.control ▸ hs.control, hstep.up (J := J) hs hund htime,
      hk.control ▸ hs.serving, ?_, hpending⟩
    · exact fun kind => (claim_congr hk.controlClaim hk.statusClaim kind).trans (hs.claims kind)
    · exact fun id hid => hs.pending hund h (hs.controlPending id (hk.control ▸ hid))
  | ui a =>
    have hstep := uiStep_cases h
    have hk := hstep.keeps
    obtain ⟨hloop, halive, hflag⟩ := hstep.inLoop hs hund
    refine ⟨howned, hgated, hreports, ?_, hloop, halive, hflag, hk.control ▸ hs.control,
      hk.status ▸ hs.status, hk.control ▸ hs.serving, ?_, ?_⟩
    · exact fun kind => (claim_congr hk.controlClaim hk.statusClaim kind).trans (hs.claims kind)
    · exact fun id hid => hs.pending hund h (hs.controlPending id (hk.control ▸ hid))
    · exact fun id hid => hs.pending hund h (hs.statusPending id (hk.status ▸ hid))
  | client a =>
    have hk := (clientStep_cases h).keeps
    refine ⟨howned, hgated, hreports, ?_, hk.ui ▸ hs.inLoop, hk.receiverAlive ▸ hs.alive,
      hk.shutdownRequested ▸ hs.unflagged, hk.control ▸ hs.control, hk.status ▸ hs.status,
      hk.control ▸ hs.serving, ?_, ?_⟩
    · exact fun kind => (claim_congr hk.controlClaim hk.statusClaim kind).trans (hs.claims kind)
    · exact fun id hid => hs.pending hund h (hs.controlPending id (hk.control ▸ hid))
    · exact fun id hid => hs.pending hund h (hs.statusPending id (hk.status ▸ hid))

end Ipc

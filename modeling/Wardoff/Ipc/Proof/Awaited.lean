import Wardoff.Ipc.Proof.Servers
import Wardoff.Ipc.Proof.Shutdown
import Wardoff.Ipc.Proof.Tokens

/-!
# Where an awaited request is

A worker that has queued a request waits for the reply to it. As long as the UI thread is in its
message loop, the request is in the queue, in the UI thread's hands, or answered; and no other
request has its id.

* `Awaited.step` is the invariant.
* `queued_of_step`: no step queues a request under an id that a worker waits for.
-/

namespace Ipc

open Machine

variable {Handle : Type} {J : Json} {s t : St Handle}

/-- A worker has queued the request `id` and has no reply yet. -/
def St.waits (s : St Handle) (id : Nat) : Prop :=
  s.control.waitsFor = some id ∨ s.status.waitsFor = some id

/-- A worker is blocked until the request `id` is answered. -/
def St.awaits (s : St Handle) (id : Nat) : Prop :=
  (∃ request, s.control = .awaiting id request) ∨ s.status = .awaiting id

theorem St.awaits.waits {id : Nat} (h : s.awaits id) : s.waits id := by
  rcases h with ⟨request, h⟩ | h
  · exact .inl (by rw [h]; rfl)
  · exact .inr (by rw [h]; rfl)

structure Awaited (s : St Handle) : Prop where
  tokens : Tokens s
  retired : ∀ id, s.waits id → Retired s id
  pending : s.ui.leftLoop = false → ∀ id, s.waits id → s.pending id

theorem awaited_init (controlClaim statusClaim : Bool) (app : Runtime.Application Handle) :
    Awaited (St.init controlClaim statusClaim app) := by
  refine ⟨tokens_init controlClaim statusClaim app, fun id hid => ?_, fun _ id hid => ?_⟩ <;>
    rcases hid with hid | hid <;> cases hid

/-- The control worker starts to wait with its own request. -/
theorem ControlStep.waitsFor {a : ControlAct} {id : Nat} (h : ControlStep J s a t)
    (ht : t.control.waitsFor = some id) :
    s.control.waitsFor = some id ∨ s.fresh .control = some id ∧ t.fresh .control = none := by
  cases h with
  | enqueue hpc halive =>
    cases ht
    exact .inr ⟨by simp [St.fresh, St.controlFresh, hpc], rfl⟩
  | wake hpc => exact .inl (by rw [hpc]; exact ht)
  | report hpc =>
    dsimp only at ht
    split at ht <;> cases ht
  | respond hpc =>
    dsimp only at ht
    split at ht <;> cases ht
  | _ => cases ht

theorem StatusStep.waitsFor {a : StatusAct} {id : Nat} (h : StatusStep s a t)
    (ht : t.status.waitsFor = some id) :
    s.status.waitsFor = some id ∨ s.fresh .status = some id ∧ t.fresh .status = none := by
  cases h with
  | enqueue hpc halive =>
    cases ht
    exact .inr ⟨by simp [St.fresh, St.statusFresh, hpc], rfl⟩
  | wake hpc => exact .inl (by rw [hpc]; exact ht)
  | report hpc =>
    dsimp only at ht
    split at ht <;> cases ht
  | _ => cases ht

theorem waits_of_step {a : Act Handle} {id : Nat} (h : step J s a = some t) (ht : t.waits id) :
    s.waits id ∨ ∃ kind, s.fresh kind = some id ∧ t.fresh kind = none := by
  cases a with
  | control a =>
    have hstep := controlStep_cases h
    rcases ht with ht | ht
    · exact (hstep.waitsFor ht).imp .inl fun hf => ⟨.control, hf⟩
    · exact .inl (.inr (hstep.keeps.status ▸ ht))
  | status a =>
    have hstep := statusStep_cases h
    rcases ht with ht | ht
    · exact .inl (.inl (hstep.keeps.control ▸ ht))
    · exact (hstep.waitsFor ht).imp .inr fun hf => ⟨.status, hf⟩
  | ui a =>
    have hk := (uiStep_cases h).keeps
    simp only [St.waits, hk.control, hk.status] at ht
    exact .inl ht
  | client a =>
    have hk := (clientStep_cases h).keeps
    simp only [St.waits, hk.control, hk.status] at ht
    exact .inl ht

/-- What a worker waits for stays pending while the UI thread is in its loop. -/
theorem pending_of_step {a : Act Handle} (hs : Awaited s) (h : step J s a = some t)
    (hloop : t.ui.leftLoop = false) {id : Nat} (ht : t.waits id) : t.pending id := by
  cases a with
  | control a =>
    have hstep := controlStep_cases h
    have hk := hstep.keeps
    have hpending := hs.pending (hk.ui ▸ hloop)
    obtain ⟨hown, hmono⟩ := hstep.pending fun id hid => hpending id (.inl hid)
    rcases ht with ht | ht
    · exact hown id ht
    · exact hmono id (hpending id (.inr (hk.status ▸ ht)))
  | status a =>
    have hstep := statusStep_cases h
    have hk := hstep.keeps
    have hpending := hs.pending (hk.ui ▸ hloop)
    obtain ⟨hown, hmono⟩ := hstep.pending fun id hid => hpending id (.inr hid)
    rcases ht with ht | ht
    · exact hmono id (hpending id (.inl (hk.control ▸ ht)))
    · exact hown id ht
  | ui a =>
    have hstep := uiStep_cases h
    have hk := hstep.keeps
    simp only [St.waits, hk.control, hk.status] at ht
    exact hstep.pending hloop (hs.pending (hstep.inLoop_of hloop) id ht)
  | client a =>
    have hk := (clientStep_cases h).keeps
    simp only [St.waits, hk.control, hk.status] at ht
    have hpending := hs.pending (hk.ui ▸ hloop) id ht
    simpa only [St.pending, hk.queue, hk.ui, hk.replies] using hpending

theorem Awaited.step {a : Act Handle} (hs : Awaited s) (h : Ipc.step J s a = some t) :
    Awaited t := by
  have hmoves := step_moves h
  refine ⟨hmoves.tokens hs.tokens, fun id hid => ?_,
    fun hloop id hid => pending_of_step hs h hloop hid⟩
  rcases waits_of_step h hid with hw | ⟨kind, hf, hnone⟩
  · exact hmoves.retired (hs.retired id hw)
  · exact hmoves.retired_of_fresh hs.tokens hf hnone

/-- No step queues a request under an id that is waited for. -/
theorem queued_of_step {a : Act Handle} (hs : Awaited s) (h : Ipc.step J s a = some t) {id : Nat}
    (hid : s.waits id) (ht : t.queued id) : s.queued id := by
  have hretired := hs.retired id hid
  obtain ⟨p, hp, rfl⟩ := ht
  cases a with
  | control a =>
    cases controlStep_cases h with
    | enqueue hpc halive =>
      rcases List.mem_append.1 hp with hp | hp
      · exact ⟨p, hp, rfl⟩
      · cases List.mem_singleton.1 hp
        exact absurd (by simp [St.fresh, St.controlFresh, hpc]) (hretired.fresh .control)
    | _ => exact ⟨p, hp, rfl⟩
  | status a =>
    cases statusStep_cases h with
    | enqueue hpc halive =>
      rcases List.mem_append.1 hp with hp | hp
      · exact ⟨p, hp, rfl⟩
      · cases List.mem_singleton.1 hp
        exact absurd (by simp [St.fresh, St.statusFresh, hpc]) (hretired.fresh .status)
    | _ => exact ⟨p, hp, rfl⟩
  | ui a =>
    cases uiStep_cases h with
    | take hpc hqueue => exact ⟨p, hqueue ▸ List.mem_cons_of_mem _ hp, rfl⟩
    | reject hpc hqueue => exact ⟨p, hqueue ▸ List.mem_cons_of_mem _ hp, rfl⟩
    | dropApplication => cases hp
    | _ => exact ⟨p, hp, rfl⟩
  | client a => exact ⟨p, (clientStep_cases h).keeps.queue ▸ hp, rfl⟩

/-- The UI thread is at work on nothing, and a worker is blocked: its request is still queued, or
answered. -/
theorem Awaited.queued_or_answered (hs : Awaited s) (hui : s.ui = .running) {id : Nat}
    (hid : s.awaits id) :
    s.queued id ∨ (s.replies.lookup id).isSome = true := by
  rcases hs.pending (by rw [hui]; rfl) id hid.waits with hq | ⟨p, hp, -⟩ | hr
  · exact .inl hq
  · simp [hui, UiPc.inHand] at hp
  · exact .inr hr

end Ipc

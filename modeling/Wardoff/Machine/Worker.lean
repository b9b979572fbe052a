import Mathlib.Logic.Relation
import Wardoff.Machine.Run

/-!
# A worker thread and its status flag

A controller keeps the handle of its worker thread in a slot, starts a new one only when the slot is
empty, and joins a thread it has taken out of the slot. All its threads share one flag with it,
which a thread sets when it enters its guarded section and clears when it leaves it; the controller
clears it too. `Step` is what the controller and the threads can do to this view of their state.

* `SlotInv.step`: a thread that has not finished is the one in the slot or the one that is being
  joined.
* `SlotInv.sound`: so at most one thread runs, the flag is set only while it is in its guarded
  section, and the flag is clear while the controller is stopped.
* `inv_of_view`: the same for every machine each step of which is some steps of its view. For the
  steps of its threads that follows from what they do to their stages (`Move.steps`).
-/

namespace Machine.Worker

/-- Where a thread is, seen from its guarded section. -/
inductive Stage where
  | before
  | guarded
  | after
  | finished
  deriving DecidableEq, Repr

structure View where
  /-- The flag. -/
  active : Bool
  /-- The thread in the slot. -/
  slot : Option Nat
  /-- The thread the controller has taken out of the slot to join it. -/
  leaving : Option Nat
  /-- Every thread that was started. -/
  stages : List Stage
  /-- The controller was stopped, and was not started since. -/
  stopped : Bool
  deriving DecidableEq, Repr

inductive Step (v : View) : View → Prop where
  /-- The controller starts a thread. -/
  | spawn (hslot : v.slot = none) (hleaving : v.leaving = none) :
    Step v { v with
      slot := some v.stages.length, stages := v.stages ++ [.before], stopped := false }
  /-- The controller is started, and has or gets no thread to start. -/
  | start : Step v { v with stopped := false }
  | enter {i : Nat} (hi : v.stages[i]? = some .before) :
    Step v { v with active := true, stages := v.stages.set i .guarded }
  | leave {i : Nat} {stage : Stage} (hi : v.stages[i]? = some .guarded)
      (hstage : stage ≠ .guarded) :
    Step v { v with active := false, stages := v.stages.set i stage }
  /-- A thread goes on outside of its guarded section. -/
  | goOn {i : Nat} {old stage : Stage} (hi : v.stages[i]? = some old) (hold : old ≠ .guarded)
      (halive : old ≠ .finished) (hstage : stage ≠ .guarded) :
    Step v { v with stages := v.stages.set i stage }
  /-- The controller clears the flag. -/
  | clear : Step v { v with active := false }
  | take {i : Nat} (hslot : v.slot = some i) (hleaving : v.leaving = none) :
    Step v { v with slot := none, leaving := some i }
  | join {i : Nat} (hleaving : v.leaving = some i) (hi : v.stages[i]? = some .finished) :
    Step v { v with leaving := none, stopped := true }
  /-- The controller joins a thread of which it knows that it has finished. -/
  | reap {i : Nat} (hslot : v.slot = some i) (hi : v.stages[i]? = some .finished) :
    Step v { v with slot := none }
  /-- The controller is stopped, and has no thread to join. -/
  | stop (hslot : v.slot = none) (hleaving : v.leaving = none) : Step v { v with stopped := true }

abbrev Steps : View → View → Prop := Relation.ReflTransGen Step

theorem Steps.of_eq {v w : View} (h : w = v) : Steps v w := by
  rw [h]

structure SlotInv (v : View) : Prop where
  held : ∀ (i : Nat) stage, v.stages[i]? = some stage → stage ≠ .finished → v.slot = some i ∨
    v.leaving = some i
  one : v.slot = none ∨ v.leaving = none
  active : v.active = true → ∃ i : Nat, v.stages[i]? = some .guarded
  stopped : v.stopped = true → v.slot = none ∧ v.leaving = none

variable {v w : View}

/-- With neither a slot nor a thread to join, all threads have finished. -/
theorem SlotInv.finished (h : SlotInv v) (hslot : v.slot = none) (hleaving : v.leaving = none)
    {i : Nat} {stage : Stage} (hi : v.stages[i]? = some stage) : stage = .finished := by
  by_contra hne
  rcases h.held i stage hi hne with hs | hl
  · rw [hslot] at hs
    cases hs
  · rw [hleaving] at hl
    cases hl

/-- One thread changes its stage. -/
theorem SlotInv.held_set (h : SlotInv v) {i : Nat} {old stage : Stage}
    (hi : v.stages[i]? = some old) (hold : old ≠ .finished) :
    ∀ j st, (v.stages.set i stage)[j]? = some st → st ≠ .finished → v.slot = some j ∨
      v.leaving = some j := by
  intro j st hj hst
  by_cases hij : i = j
  · subst hij
    exact h.held i old hi hold
  · rw [List.getElem?_set_ne hij] at hj
    exact h.held j st hj hst

theorem SlotInv.step (h : SlotInv v) (hs : Step v w) : SlotInv w := by
  cases hs with
  | spawn hslot hleaving =>
    refine ⟨fun i stage hi hne => ?_, .inr hleaving, fun ha => ?_, fun hf => by cases hf⟩
    · rw [List.getElem?_append] at hi
      split at hi
      · exact absurd (h.finished hslot hleaving hi) hne
      · rename_i hlt
        left
        have hlast : i - v.stages.length = 0 := by
          by_contra hpos
          rw [List.getElem?_eq_none (by simp; omega)] at hi
          cases hi
        exact congrArg some (by omega)
    · obtain ⟨i, hi⟩ := h.active ha
      cases h.finished hslot hleaving hi
  | start => exact ⟨h.held, h.one, h.active, fun hf => by cases hf⟩
  | @enter i hi =>
    refine ⟨h.held_set hi (by simp), h.one, fun _ => ⟨i, ?_⟩, h.stopped⟩
    rw [List.getElem?_set_self (List.getElem?_eq_some_iff.1 hi).1]
  | leave hi hstage =>
    exact ⟨h.held_set hi (by simp), h.one, (by simp), h.stopped⟩
  | @goOn i old stage hi hold halive hstage =>
    refine ⟨h.held_set hi halive, h.one, fun ha => ?_, h.stopped⟩
    obtain ⟨j, hj⟩ := h.active ha
    have hij : i ≠ j := by
      rintro rfl
      rw [hi] at hj
      exact hold (Option.some.inj hj)
    exact ⟨j, by rw [List.getElem?_set_ne hij, hj]⟩
  | clear => exact ⟨h.held, h.one, (by simp), h.stopped⟩
  | take hslot hleaving =>
    refine ⟨fun j st hj hst => .inr ?_, .inl rfl, h.active, fun hf => ?_⟩
    · rcases h.held j st hj hst with hs | hl
      · exact hslot ▸ hs
      · rw [hleaving] at hl
        cases hl
    · have := (h.stopped hf).1
      rw [hslot] at this
      cases this
  | join hleaving hi =>
    have hslot : v.slot = none := h.one.resolve_right (by simp [hleaving])
    refine ⟨fun j st hj hst => ?_, .inr rfl, h.active, fun _ => ⟨hslot, rfl⟩⟩
    rcases h.held j st hj hst with hs | hl
    · exact .inl hs
    · rw [hleaving] at hl
      cases hl
      rw [hi] at hj
      exact absurd (Option.some.inj hj).symm hst
  | reap hslot hi =>
    have hleaving : v.leaving = none := h.one.resolve_left (by simp [hslot])
    refine ⟨fun j st hj hst => ?_, .inl rfl, h.active, fun _ => ⟨rfl, hleaving⟩⟩
    rcases h.held j st hj hst with hs | hl
    · rw [hslot] at hs
      cases hs
      rw [hi] at hj
      exact absurd (Option.some.inj hj).symm hst
    · exact .inr hl
  | stop hslot hleaving => exact ⟨h.held, h.one, h.active, fun _ => ⟨hslot, hleaving⟩⟩

theorem SlotInv.steps (h : SlotInv v) (hs : Steps v w) : SlotInv w := by
  induction hs with
  | refl => exact h
  | tail _ hstep ih => exact ih.step hstep

/-- What the flag and the threads promise. -/
structure Sound (v : View) : Prop where
  /-- At most one thread runs. -/
  alone : ∀ i j : Nat, (∃ stage, v.stages[i]? = some stage ∧ stage ≠ .finished) →
    (∃ stage, v.stages[j]? = some stage ∧ stage ≠ .finished) → i = j
  /-- The flag is set only while it is in its guarded section. -/
  guarded : v.active = true → ∃ i : Nat, v.stages[i]? = some .guarded
  /-- The flag is clear while the controller is stopped. -/
  stopped : v.stopped = true → v.active = false

theorem SlotInv.sound (h : SlotInv v) : Sound v where
  alone := by
    rintro i j ⟨si, hi, hni⟩ ⟨sj, hj, hnj⟩
    rcases h.held i si hi hni with hsi | hli <;> rcases h.held j sj hj hnj with hsj | hlj
    · exact Option.some.inj (hsi.symm.trans hsj)
    · rcases h.one with ho | ho <;> simp_all
    · rcases h.one with ho | ho <;> simp_all
    · exact Option.some.inj (hli.symm.trans hlj)
  guarded := h.active
  stopped := by
    intro hstopped
    obtain ⟨hslot, hleaving⟩ := h.stopped hstopped
    by_contra hactive
    obtain ⟨i, hi⟩ := h.active (by simpa using hactive)
    cases h.finished hslot hleaving hi

/-- What a step of a thread does to its stage and the flag. -/
inductive Move : Stage × Bool → Stage × Bool → Prop where
  | stay {stage : Stage} {active : Bool} : Move (stage, active) (stage, active)
  | enter {active : Bool} : Move (.before, active) (.guarded, true)
  | leave {stage : Stage} {active : Bool} (hstage : stage ≠ .guarded) :
    Move (.guarded, active) (stage, false)
  | goOn {old stage : Stage} {active : Bool} (hold : old ≠ .guarded) (halive : old ≠ .finished)
      (hstage : stage ≠ .guarded) : Move (old, active) (stage, active)

/-- A step of a thread is a step of the view, or leaves it alone. -/
theorem Move.steps {i : Nat} {old stage : Stage} {active : Bool} (hi : v.stages[i]? = some old)
    (h : Move (old, v.active) (stage, active)) :
    Steps v { v with active, stages := v.stages.set i stage } := by
  cases h with
  | stay =>
    refine .of_eq ?_
    obtain ⟨hlt, rfl⟩ := List.getElem?_eq_some_iff.1 hi
    rw [List.set_getElem_self]
  | enter => exact .single (.enter hi)
  | leave hstage => exact .single (.leave hi hstage)
  | goOn hold halive hstage => exact .single (.goOn hi hold halive hstage)

/-- **Simulation.** A machine each step of which is some steps of its view keeps the invariant of
the view, together with any invariant of its own. -/
theorem inv_of_view {S A : Type*} {step : S → A → Option S} {view : S → View} {R : S → Prop}
    (hstep : ∀ s a t, R s → step s a = some t → R t ∧ Steps (view s) (view t))
    {s t : S} {as : List A} (hR : R s) (hs : SlotInv (view s)) (h : exec step s as = some t) :
    R t ∧ SlotInv (view t) := by
  refine inv_of_exec (I := fun s => R s ∧ SlotInv (view s)) (fun s a t hs h => ?_) ⟨hR, hs⟩ h
  obtain ⟨hR, hv⟩ := hstep s a t hs.1 h
  exact ⟨hR, hs.2.steps hv⟩

end Machine.Worker

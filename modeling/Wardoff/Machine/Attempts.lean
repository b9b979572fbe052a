import Mathlib.Data.List.Basic

/-!
# Bounded loops

`forAttempts` is a `for attempt in first..first + count` loop whose body may return from the
function around it: its result is `none` where the loop runs out, and the code after it is reached.

* `forAttempts_inv` is the invariant rule.
* `retry` is the loop that tries something until the outcome settles it, with a pause after every
  other attempt. `retry_settled`: if the last attempt always settles it, the loop stops at the first
  attempt that does, has paused once after each one before, and does not run out.
-/

namespace Machine

variable {S R X : Type*}

/-- The body returns a result, or goes on with the state. -/
def forAttempts (body : Nat → S → Option R × S) : (first count : Nat) → S → Option R × S
  | _, 0, s => (none, s)
  | first, count + 1, s =>
    match body first s with
    | (some r, t) => (some r, t)
    | (none, t) => forAttempts body (first + 1) count t

section
variable (body : Nat → S → Option R × S) (I : Nat → S → Prop) (Post : R → S → Prop)

/-- **The invariant rule.** An attempt that starts with `I` leaves `I` to the next one, or returns
with `Post`. -/
theorem forAttempts_inv (first count : Nat) {s : S}
    (hnext : ∀ i s t, first ≤ i → i < first + count → I i s → body i s = (none, t) → I (i + 1) t)
    (hreturn : ∀ i s r t, first ≤ i → i < first + count → I i s → body i s = (some r, t) → Post r t)
    (hs : I first s) :
    (∃ t, forAttempts body first count s = (none, t) ∧ I (first + count) t) ∨
      ∃ r t, forAttempts body first count s = (some r, t) ∧ Post r t := by
  induction count generalizing first s with
  | zero => exact .inl ⟨s, rfl, hs⟩
  | succ count ih =>
    cases hb : body first s with
    | mk result t =>
      cases result with
      | some r =>
        refine .inr ⟨r, t, by simp only [forAttempts, hb], ?_⟩
        exact hreturn first s r t (by omega) (by omega) hs hb
      | none =>
        have hrun : forAttempts body first (count + 1) s = forAttempts body
          (first + 1) count t := by
          simp only [forAttempts, hb]
        rw [hrun, show first + (count + 1) = first + 1 + count by omega]
        exact ih (first + 1) (fun i s t hlo hhi => hnext i s t (by omega) (by omega))
          (fun i s r t hlo hhi => hreturn i s r t (by omega) (by omega))
          (hnext first s t (by omega) (by omega) hs hb)

end

/-! ## Trying again -/

/-- What a loop that tries again has done. -/
inductive Trial (X : Type*) where
  | tried (outcome : X)
  | paused
  deriving DecidableEq, Repr

section
variable (settle : Nat → X → Option R) (outcomes : Nat → X)

/-- One attempt: the outcome settles it, or there is a pause. -/
def tryOnce (attempt : Nat) (trace : List (Trial X)) : Option R × List (Trial X) :=
  match settle attempt (outcomes attempt) with
  | some r => (some r, trace ++ [.tried (outcomes attempt)])
  | none => (none, trace ++ [.tried (outcomes attempt), .paused])

/-- At most `count` attempts. -/
def retry (count : Nat) : Option R × List (Trial X) :=
  forAttempts (tryOnce settle outcomes) 0 count []

/-- The attempts before the `n`-th one, each with its pause. -/
def pausedTrials (n : Nat) : List (Trial X) :=
  (List.range n).flatMap fun i => [.tried (outcomes i), .paused]

/-- The loop stops with attempt number `last`. -/
structure SettledAt (count last : Nat) : Prop where
  lt : last < count
  /-- No attempt before it settled the matter. -/
  unsettled : ∀ i < last, settle i (outcomes i) = none
  /-- It returns what the last outcome comes to, with a pause after each attempt but this one. -/
  run : ∃ r, settle last (outcomes last) = some r ∧
    retry settle outcomes count = (some r, pausedTrials outcomes last ++ [.tried (outcomes last)])

variable {settle outcomes}

theorem pausedTrials_succ (n : Nat) :
    pausedTrials outcomes (n + 1) = pausedTrials outcomes n ++ [.tried (outcomes n), .paused] := by
  simp [pausedTrials, List.range_succ]

theorem tryOnce_eq_none {attempt : Nat} {s t : List (Trial X)}
    (h : tryOnce settle outcomes attempt s = (none, t)) :
    settle attempt (outcomes attempt) = none ∧ t = s ++ [.tried (outcomes attempt), .paused] := by
  unfold tryOnce at h
  split at h <;> cases h
  exact ⟨‹_›, rfl⟩

theorem tryOnce_eq_some {attempt : Nat} {s t : List (Trial X)} {r : R}
    (h : tryOnce settle outcomes attempt s = (some r, t)) :
    settle attempt (outcomes attempt) = some r ∧ t = s ++ [.tried (outcomes attempt)] := by
  unfold tryOnce at h
  split at h <;> cases h
  exact ⟨‹_›, rfl⟩

/-- **The rule for `retry`.** -/
theorem retry_settled (outcomes : Nat → X) (count : Nat) (hpos : 0 < count)
    (hlast : ∀ x, (settle (count - 1) x).isSome = true) :
    ∃ last, SettledAt settle outcomes count last := by
  -- before attempt `i` the ones before it have not settled the matter
  have hrun := forAttempts_inv (tryOnce settle outcomes)
    (fun i s => (∀ j < i, settle j (outcomes j) = none) ∧ s = pausedTrials outcomes i)
    (fun r t => ∃ last < count, (∀ j < last, settle j (outcomes j) = none) ∧
      settle last (outcomes last) = some r ∧
      t = pausedTrials outcomes last ++ [.tried (outcomes last)])
    0 count ?_ ?_ ⟨by simp, rfl⟩
  · rcases hrun with ⟨t, -, hall, -⟩ | ⟨r, t, hr, last, hlt, hbefore, hsettle, rfl⟩
    · have hsome := hlast (outcomes (count - 1))
      rw [hall (count - 1) (by omega)] at hsome
      cases hsome
    · exact ⟨last, hlt, hbefore, r, hsettle, hr⟩
  · intro i s t _ _ hI hb
    obtain ⟨hnone, rfl⟩ := tryOnce_eq_none hb
    obtain ⟨hbefore, rfl⟩ := hI
    refine ⟨fun j hj => ?_, (pausedTrials_succ i).symm⟩
    rcases Nat.lt_succ_iff_lt_or_eq.1 hj with hlt | rfl
    · exact hbefore j hlt
    · exact hnone
  · intro i s r t _ hlt hI hb
    obtain ⟨hsome, rfl⟩ := tryOnce_eq_some hb
    obtain ⟨hbefore, rfl⟩ := hI
    exact ⟨i, by omega, hbefore, hsome, rfl⟩

end

end Machine

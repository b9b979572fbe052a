import Mathlib.Data.List.Induction

/-!
# Runs of a machine

A machine is a partial step function `step : S → A → Option S`: `step s a = none` where the action
`a` is not enabled in `s`. A schedule is a list of actions; `exec step s as` is the state it leads
to, if every action is enabled when its turn comes. `Along step P s as` says that every step of the
schedule meets `P` in the state it is taken in: the form in which a condition on the environment
(what may fail, who may act, in which state) enters a statement about runs.

* `inv_of_along` is the invariant rule: what every step that meets `P` keeps, every run whose steps
  meet `P` keeps.
* `Along.imp` weakens the condition on the steps of a run along an invariant.
* `countP_add_rank_le` is the ranking rule: where actions of one kind lower a rank that nothing
  raises, there are no more of them than the rank; `length_add_rank_le` is the case of all actions.
* `budget_of_along` is the budget rule: what only some actions cost is bounded by their number;
  `weight_le` is the case of a weight.
* A total machine `f : S → A → S` is the machine `total f`; its runs are left folds
  (`exec_total`).
* `count_add_le` is the credit rule: one kind of step happens at most as often as another.
* `Since`: an action with the property `P` was taken, and none with the property `Q` after it.
  `since_of_step` derives it from what one step does.
-/

namespace Machine

variable {S A : Type*}

section
variable (step : S → A → Option S)

/-- The state after a schedule, if every action of it is enabled in turn. -/
def exec : S → List A → Option S
  | s, [] => some s
  | s, a :: as => (step s a).bind fun t => exec t as

/-- Every step of the schedule meets `P` in the state it is taken in. -/
def Along (P : S → A → Prop) : S → List A → Prop
  | _, [] => True
  | s, a :: as => P s a ∧ ∀ t, step s a = some t → Along P t as

end

/-- A step function that is never blocked. -/
def total (f : S → A → S) (s : S) (a : A) : Option S := some (f s a)

section
variable {step : S → A → Option S} {P Q : S → A → Prop} {s t : S} {a : A} {as bs : List A}

@[simp] theorem exec_nil : exec step s [] = some s := rfl

theorem exec_cons (h : step s a = some t) : exec step s (a :: as) = exec step t as := by
  simp [exec, h]

/-- A run of a nonempty schedule starts with a step of its first action. -/
theorem exec_cons_eq_some {u : S} (h : exec step s (a :: as) = some u) :
    ∃ t, step s a = some t ∧ exec step t as = some u := by
  simpa [exec, Option.bind_eq_some_iff] using h

theorem exec_append : exec step s (as ++ bs) = (exec step s as).bind fun t => exec step t bs := by
  induction as generalizing s with
  | nil => simp
  | cons a as ih =>
    simp only [List.cons_append, exec, Option.bind_assoc]
    congr 1
    funext t
    exact ih

@[simp] theorem along_nil : Along step P s [] := trivial

/-- Whether a given schedule meets a decidable condition can be computed. -/
instance decidableAlong [∀ s a, Decidable (P s a)] (s : S) :
    (as : List A) → Decidable (Along step P s as)
  | [] => .isTrue trivial
  | a :: as =>
    have : DecidablePred fun t => Along step P t as := fun t => decidableAlong t as
    inferInstanceAs (Decidable (P s a ∧ ∀ t ∈ step s a, Along step P t as))

/-- **The invariant rule.** What every step that meets `P` keeps, every run whose steps meet `P`
keeps. -/
theorem inv_of_along {I : S → Prop} (hstep : ∀ s a t, I s → P s a → step s a = some t → I t)
    (hs : I s) (hP : Along step P s as) (h : exec step s as = some t) : I t := by
  induction as generalizing s with
  | nil => cases h; exact hs
  | cons a as ih =>
    obtain ⟨u, hu, hr⟩ := exec_cons_eq_some h
    exact ih (hstep s a u hs hP.1 hu) (hP.2 u hu) hr

/-- The invariant rule without a condition on the steps. -/
theorem inv_of_exec {I : S → Prop} (hstep : ∀ s a t, I s → step s a = some t → I t)
    (hs : I s) (h : exec step s as = some t) : I t := by
  induction as generalizing s with
  | nil => cases h; exact hs
  | cons a as ih =>
    obtain ⟨u, hu, hr⟩ := exec_cons_eq_some h
    exact ih (hstep s a u hs hu) hr

/-- Where an invariant turns `P` into `Q`, a run whose steps meet `P` is one whose steps meet
`Q`. -/
theorem Along.imp {I : S → Prop} (hstep : ∀ s a t, I s → P s a → step s a = some t → I t)
    (himp : ∀ s a, I s → P s a → Q s a) (hs : I s) (h : Along step P s as) : Along step Q s as := by
  induction as generalizing s with
  | nil => trivial
  | cons a as ih =>
    refine ⟨himp s a hs h.1, fun t ht => ?_⟩
    exact ih (hstep s a t hs h.1 ht) (h.2 t ht)

/-- A condition on the actions alone is one on the members of the schedule. -/
theorem along_of_mem (h : ∀ a ∈ as, ∀ s, P s a) : Along step P s as := by
  induction as generalizing s with
  | nil => trivial
  | cons a as ih =>
    refine ⟨h a (by simp) s, fun t _ => ih fun b hb => ?_⟩
    exact h b (List.mem_cons_of_mem a hb)

theorem Along.cons (hP : P s a) (h : step s a = some t) (has : Along step P t as) :
    Along step P s (a :: as) := by
  refine ⟨hP, fun u hu => ?_⟩
  cases h.symm.trans hu
  exact has

/-- **The ranking rule.** If no step raises the rank, and those whose action has `p` lower it, a run
has no more actions of this kind than its rank. -/
theorem countP_add_rank_le {I : S → Prop} {p : A → Bool} {rank : S → Nat}
    (hstep : ∀ s a t, I s → P s a → step s a = some t → I t ∧ rank t + (p a).toNat ≤ rank s)
    (hs : I s) (hP : Along step P s as) (h : exec step s as = some t) :
    as.countP p + rank t ≤ rank s := by
  induction as generalizing s with
  | nil =>
    cases h
    simp
  | cons a as ih =>
    obtain ⟨u, hu, hr⟩ := exec_cons_eq_some h
    obtain ⟨hi, hle⟩ := hstep s a u hs hP.1 hu
    have hrest := ih hi (hP.2 u hu) hr
    rw [List.countP_cons]
    cases hp : p a with
    | true =>
      simp only [hp, Bool.toNat_true, if_true] at hle ⊢
      omega
    | false =>
      simp only [hp, Bool.toNat_false, Bool.false_eq_true, if_false] at hle ⊢
      omega

/-- **The bound rule.** If every step of a run lowers the rank, there are no more of them than the
rank. -/
theorem length_add_rank_le {rank : S → Nat}
    (hstep : ∀ s a t, P s a → step s a = some t → rank t < rank s) (hP : Along step P s as)
    (h : exec step s as = some t) : as.length + rank t ≤ rank s := by
  rw [← List.countP_true]
  exact countP_add_rank_le (I := fun _ => True) (fun s a t _ ha ht => ⟨trivial, hstep s a t ha ht⟩)
    trivial hP h

/-- **The budget rule.** What costs at most `c` in a step whose action has `p`, and nothing in any
other, costs a run at most `c` for each of its actions that have `p`. -/
theorem budget_of_along {I : S → Nat → Prop} {p : A → Bool} {c n : Nat}
    (hstep : ∀ s a t n, I s n → P s a → step s a = some t → I t (n + if p a then c else 0))
    (hs : I s n) (hP : Along step P s as) (h : exec step s as = some t) :
    I t (n + c * as.countP p) := by
  induction as generalizing s n with
  | nil =>
    cases h
    simpa using hs
  | cons a as ih =>
    obtain ⟨u, hu, hr⟩ := exec_cons_eq_some h
    have hrest := ih (hstep s a u n hs hP.1 hu) (hP.2 u hu) hr
    have hcost : c * (if p a then 1 else 0) = if p a then c else 0 := by split <;> simp
    rwa [List.countP_cons, Nat.mul_add, hcost, Nat.add_comm (c * _), ← Nat.add_assoc]

/-- **The cost rule.** If only actions that have `p` add to the weight, and each at most `c`, the
weight grows at most by `c` for each of them. -/
theorem weight_le {weight : S → Nat} {p : A → Bool} {c : Nat}
    (hstep : ∀ s a t, P s a → step s a = some t → weight t ≤ weight s + if p a then c else 0)
    (hP : Along step P s as) (h : exec step s as = some t) :
    weight t ≤ weight s + c * as.countP p := by
  refine budget_of_along (I := fun s n => weight s ≤ n) (fun s a t n hs ha ht => ?_)
    (Nat.le_refl _) hP h
  have hle := hstep s a t ha ht
  omega

end

/-! ## Total machines -/

section
variable {f : S → A → S} {P : S → A → Prop} {s : S} {as bs : List A}

@[simp] theorem exec_total : exec (total f) s as = some (as.foldl f s) := by
  induction as generalizing s with
  | nil => rfl
  | cons a as ih => exact ih

@[simp] theorem along_total_cons {a : A} :
    Along (total f) P s (a :: as) ↔ P s a ∧ Along (total f) P (f s a) as := by
  simp [Along, total]

theorem along_total_append :
    Along (total f) P s (as ++ bs) ↔
      Along (total f) P s as ∧ Along (total f) P (as.foldl f s) bs := by
  induction as generalizing s with
  | nil => simp
  | cons a as ih => simp [ih, and_assoc]

/-- A total machine's steps meet `P` when each of them does at its own prefix of the schedule. -/
theorem along_total_iff :
    Along (total f) P s as ↔ ∀ pre a post, as = pre ++ a :: post → P (pre.foldl f s) a := by
  induction as generalizing s with
  | nil => simp
  | cons b as ih =>
    simp only [along_total_cons, ih]
    constructor
    · intro hbs pre a post he
      obtain ⟨hb, h⟩ := hbs
      rcases pre with _ | ⟨c, pre⟩
      · cases he
        exact hb
      · simp only [List.cons_append, List.cons.injEq] at he
        obtain ⟨rfl, he⟩ := he
        exact h pre a post he
    · intro h
      exact ⟨h [] b as rfl, fun pre a post he => h (b :: pre) a post (by simp [he])⟩

/-- The invariant rule of a total machine. -/
theorem inv_of_foldl {I : S → Prop} (hstep : ∀ s a, I s → I (f s a)) (hs : I s) :
    I (as.foldl f s) := by
  refine inv_of_exec (fun s a t h he => ?_) hs (exec_total (f := f))
  cases he
  exact hstep s a h

theorem inv_of_along_foldl {I : S → Prop} (hstep : ∀ s a, I s → P s a → I (f s a)) (hs : I s)
    (hP : Along (total f) P s as) : I (as.foldl f s) := by
  refine inv_of_along (fun s a t h hp he => ?_) hs hP exec_total
  cases he
  exact hstep s a h hp

end

/-! ## Counting steps -/

section
variable (f : S → A → S)

/-- How many steps of the schedule have the property `p`. -/
def count (p : S → A → Bool) : S → List A → Nat
  | _, [] => 0
  | s, a :: as => (p s a).toNat + count p (f s a) as

variable {f}

/-- **The credit rule.** If every step that has `p` is paid from the credit `μ`, and only steps that
have `q` add to it, by one, then `p` happens at most as often as `q`. -/
theorem count_add_le {p q : S → A → Bool} {μ : S → Nat}
    (h : ∀ s a, (p s a).toNat + μ (f s a) ≤ (q s a).toNat + μ s) (s : S) (as : List A) :
    count f p s as + μ (as.foldl f s) ≤ count f q s as + μ s := by
  induction as generalizing s with
  | nil => simp [count]
  | cons a as ih =>
    have hs := h s a
    have hr := ih (f s a)
    simp only [count, List.foldl_cons]
    omega

end

/-! ## What happened since -/

section
variable (f : S → A → S) (P Q : S → A → Prop)

/-- Some step of the schedule had the property `P`, and no step after it the property `Q`. -/
def Since (s : S) (as : List A) : Prop :=
  ∃ pre a post, as = pre ++ a :: post ∧ P (pre.foldl f s) a ∧
    Along (total f) (fun t b => ¬ Q t b) (f (pre.foldl f s) a) post

variable {f P Q}

/-- `Since` after one more step: the step starts it anew, or keeps it running. -/
theorem since_append_singleton {s : S} {as : List A} {a : A} :
    Since f P Q s (as ++ [a]) ↔
      P (as.foldl f s) a ∨ (Since f P Q s as ∧ ¬ Q (as.foldl f s) a) := by
  constructor
  · intro hs
    obtain ⟨pre, b, post, he, hp, hq⟩ := hs
    rcases List.eq_nil_or_concat post with rfl | ⟨post, c, rfl⟩
    · obtain ⟨rfl, hb⟩ := List.append_inj' he rfl
      cases hb
      exact .inl hp
    · rw [List.concat_eq_append, ← List.cons_append, ← List.append_assoc] at he
      obtain ⟨rfl, hb⟩ := List.append_inj' he rfl
      cases hb
      rw [List.concat_eq_append, along_total_append] at hq
      refine .inr ⟨⟨pre, b, post, rfl, hp, hq.1⟩, ?_⟩
      simpa using hq.2
  · intro hs
    rcases hs with hp | ⟨⟨pre, b, post, rfl, hp, hq⟩, hn⟩
    · exact ⟨as, a, [], rfl, hp, trivial⟩
    · refine ⟨pre, b, post ++ [a], by simp, hp, ?_⟩
      rw [along_total_append]
      exact ⟨hq, by simpa using hn⟩

/-- **The rule for `Since`.** If `I` holds after a step only because the step has the property `P`,
or because it held before and the step has not the property `Q`, then where `I` holds `P` happened
and `Q` did not since. -/
theorem since_of_step {I : S → Prop}
    (hstep : ∀ s a, I (f s a) → P s a ∨ (I s ∧ ¬ Q s a)) {s : S} (hs : ¬ I s) {as : List A}
    (h : I (as.foldl f s)) : Since f P Q s as := by
  induction as using List.reverseRecOn with
  | nil => exact absurd h hs
  | append_singleton as a ih =>
    rw [List.foldl_append] at h
    rw [since_append_singleton]
    exact (hstep _ a h).imp_right fun ⟨hi, hq⟩ => ⟨ih hi, hq⟩

end

end Machine

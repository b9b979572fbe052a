import Mathlib.Data.List.Induction

/-!
# Histories with separators

A history is a list of records, the newest last. Some records are separators, after which what was
before counts no more. `Until sep Q l` says that every record of `l` has `Q` unless a separator has
come after it, and `Separated R sep l` that any two records of `l` are related by `R` unless a
separator lies between them. A program that keeps `Until` for the facts that it remembers writes
separated histories (`Separated.append`).
-/

namespace Machine

variable {B : Type*} {R : B → B → Prop} {sep Q Q' : B → Prop} {l : List B} {b : B}

def Until (sep Q : B → Prop) (l : List B) : Prop :=
  ∀ pre a mid, l = pre ++ a :: mid → (∃ c ∈ mid, sep c) ∨ Q a

def Separated (R : B → B → Prop) (sep : B → Prop) (l : List B) : Prop :=
  ∀ pre a mid b post, l = pre ++ a :: mid ++ b :: post → (∃ c ∈ mid, sep c) ∨ R a b

theorem until_nil : Until sep Q [] := by
  intro pre a mid h
  simp at h

theorem separated_nil : Separated R sep [] := by
  intro pre a mid b post h
  simp at h

theorem Until.mono (h : Until sep Q l) (himp : ∀ a, Q a → Q' a) : Until sep Q' l :=
  fun pre a mid heq => (h pre a mid heq).imp_right (himp a)

/-- A list that ends in `b` is cut before its end, or at it. -/
theorem append_singleton_eq {pre mid : List B} {a : B} (h : l ++ [b] = pre ++ a :: mid) :
    (l = pre ∧ b = a ∧ mid = []) ∨ ∃ mid', mid = mid' ++ [b] ∧ l = pre ++ a :: mid' := by
  rcases List.eq_nil_or_concat mid with rfl | ⟨mid', c, rfl⟩
  · obtain ⟨rfl, hab⟩ := List.append_inj' h rfl
    exact .inl ⟨rfl, (List.cons.inj hab).1, rfl⟩
  · rw [List.concat_eq_append, ← List.cons_append, ← List.append_assoc] at h
    obtain ⟨rfl, hbc⟩ := List.append_inj' h rfl
    obtain rfl := (List.cons.inj hbc).1
    exact .inr ⟨mid', by simp, rfl⟩

/-- One more record. -/
theorem Until.append (h : Until sep Q l) (himp : ∀ a, Q a → Q' a) (hb : Q' b) :
    Until sep Q' (l ++ [b]) := by
  intro pre a mid heq
  rcases append_singleton_eq heq with ⟨-, rfl, -⟩ | ⟨mid', rfl, hl⟩
  · exact .inr hb
  · rcases h pre a mid' hl with ⟨c, hc, hsep⟩ | hq
    · exact .inl ⟨c, List.mem_append_left _ hc, hsep⟩
    · exact .inr (himp a hq)

/-- A separator discharges what was before. -/
theorem until_of_separator (hsep : sep b) (hb : Q b) : Until sep Q (l ++ [b]) := by
  intro pre a mid heq
  rcases append_singleton_eq heq with ⟨-, rfl, -⟩ | ⟨mid', rfl, hl⟩
  · exact .inr hb
  · exact .inl ⟨b, by simp, hsep⟩

/-- What is remembered of the records keeps the next one apart from them. -/
theorem Separated.append (h : Separated R sep l) (huntil : Until sep Q l) (hR : ∀ a, Q a → R a b) :
    Separated R sep (l ++ [b]) := by
  intro pre a mid c post heq
  rcases List.eq_nil_or_concat post with rfl | ⟨post', d, rfl⟩
  · obtain ⟨rfl, hbc⟩ := List.append_inj' heq rfl
    obtain rfl := (List.cons.inj hbc).1
    exact (huntil pre a mid rfl).imp_right (hR a)
  · have hl : l = pre ++ a :: mid ++ c :: post' := by
      rw [List.concat_eq_append, ← List.cons_append, ← List.append_assoc] at heq
      exact (List.append_inj' heq rfl).1
    exact h pre a mid c post' hl

end Machine

import Mathlib.Init

/-!
# Programs that talk to another thread

A `Dialogue` is a sequential program of one thread, cut at the points where it asks another thread
something and goes on with the answer. What happens between two questions is part of the dialogue;
who answers, and when, is left to the machine that runs it.

`Holds` is the weakest precondition of a dialogue for all answers, with a state that follows the
questions that were asked: the form in which a fact about the program of one thread enters the
invariant of a machine (`holds_bind`, `Holds.imp`).
-/

namespace Machine

/-- Ends with a result, or asks a question of `Q` and goes on with an answer of `A`. -/
inductive Dialogue (Q A R : Type) where
  | done (r : R)
  | ask (q : Q) (k : A → Dialogue Q A R)

namespace Dialogue

variable {Q A R T S : Type}

def bind : Dialogue Q A R → (R → Dialogue Q A T) → Dialogue Q A T
  | .done r, f => f r
  | .ask q k, f => .ask q fun x => (k x).bind f

def map (f : R → T) (d : Dialogue Q A R) : Dialogue Q A T := d.bind fun r => .done (f r)

section
variable (next : S → Q → S) (P : S → R → Prop)

/-- Whatever the answers are, the dialogue ends with `P`; `next` follows the questions. -/
def Holds : S → Dialogue Q A R → Prop
  | s, .done r => P s r
  | s, .ask q k => ∀ x, Holds (next s q) (k x)

end

variable {next : S → Q → S} {P P' : S → R → Prop} {s : S} {d : Dialogue Q A R}

@[simp] theorem holds_done {r : R} : Holds next P s (.done r : Dialogue Q A R) ↔ P s r := Iff.rfl

@[simp] theorem holds_ask {q : Q} {k : A → Dialogue Q A R} :
    Holds next P s (.ask q k) ↔ ∀ x, Holds next P (next s q) (k x) := Iff.rfl

theorem Holds.imp (h : Holds next P s d) (himp : ∀ s r, P s r → P' s r) : Holds next P' s d := by
  induction d generalizing s with
  | done r => exact himp s r h
  | ask q k ih => exact fun x => ih x (h x)

theorem holds_bind {P : S → T → Prop} {f : R → Dialogue Q A T} :
    Holds next P s (d.bind f) ↔ Holds next (fun s r => Holds next P s (f r)) s d := by
  induction d generalizing s with
  | done r => exact Iff.rfl
  | ask q k ih => exact forall_congr' fun x => ih x

theorem holds_map {P : S → T → Prop} {f : R → T} :
    Holds next P s (d.map f) ↔ Holds next (fun s r => P s (f r)) s d := holds_bind

end Dialogue

end Machine

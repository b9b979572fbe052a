import Wardoff.Machine.Run

/-!
# Refinement between machines

A step of one machine may stand for several actions of another machine, or for none: `emit s a` are
the actions the step `a` of the state `s` stands for. `trace step emit s as` are those of a whole
run, in their order.

* `Refinement` takes the states of one machine to those of another so that every step is matched by
  the actions it stands for; `Refinement.exec` says the same of whole runs,
  `Refinement.inv_of_along` carries an invariant of the second machine over to the first, and
  `Refinement.comp` puts two of them together.
* `log_eq_trace`: a log to which every step appends what it emits is the trace of the run.
* `register_eq_trace`: a register that every step sets to what it emits has the last value of the
  trace.
* `mem_trace`: what a run emits was emitted by one of its steps.
-/

namespace Machine

variable {S A T B : Type*}

section
variable (step : S → A → Option S) (emit : S → A → List B)

/-- What the steps of a schedule emit, in their order. -/
def trace : S → List A → List B
  | _, [] => []
  | s, a :: as =>
    match step s a with
    | some t => emit s a ++ trace t as
    | none => []

end

section
variable {step : S → A → Option S} {emit : S → A → List B} {s t : S} {a : A} {as : List A}

@[simp] theorem trace_nil : trace step emit s [] = [] := rfl

theorem trace_cons (h : step s a = some t) :
    trace step emit s (a :: as) = emit s a ++ trace step emit t as := by
  simp [trace, h]

/-- A part of what is emitted. -/
theorem filterMap_trace {C : Type*} (f : B → Option C) :
    (trace step emit s as).filterMap f = trace step (fun s a => (emit s a).filterMap f) s as := by
  induction as generalizing s with
  | nil => rfl
  | cons a as ih =>
    cases h : step s a with
    | none => simp [trace, h]
    | some t => rw [trace_cons h, trace_cons h, List.filterMap_append, ih]

/-- **The log rule.** A log to which every step appends what it emits is the trace of the run. -/
theorem log_eq_trace (log : S → List B)
    (hstep : ∀ s a t, step s a = some t → log t = log s ++ emit s a) (h : exec step s as = some t) :
    log t = log s ++ trace step emit s as := by
  induction as generalizing s with
  | nil =>
    cases h
    simp
  | cons a as ih =>
    obtain ⟨u, hu, hr⟩ := exec_cons_eq_some h
    rw [trace_cons hu, ih hr, hstep s a u hu, List.append_assoc]

/-- **The register rule.** Where every step sets a register to the last value it emits, and keeps it
if it emits none, the register has the last value that the run has emitted. -/
theorem register_eq_trace {P : S → A → Prop} (register : S → B)
    (hstep : ∀ s a t, P s a → step s a = some t →
      register t = (emit s a).getLast?.getD (register s))
    (hP : Along step P s as) (h : exec step s as = some t) :
    register t = (trace step emit s as).getLast?.getD (register s) := by
  induction as generalizing s with
  | nil =>
    cases h
    rfl
  | cons a as ih =>
    obtain ⟨u, hu, hr⟩ := exec_cons_eq_some h
    rw [trace_cons hu, ih (hP.2 u hu) hr, hstep s a u hP.1 hu, List.getLast?_append, Option.getD_or]

/-- What a run emits was emitted by one of its steps. -/
theorem mem_trace {b : B} (hb : b ∈ trace step emit s as) (h : exec step s as = some t) :
    ∃ pre a post u v, as = pre ++ a :: post ∧ exec step s pre = some u ∧ step u a = some v ∧
      exec step v post = some t ∧ b ∈ emit u a := by
  induction as generalizing s with
  | nil => simp at hb
  | cons a as ih =>
    obtain ⟨u, hu, hr⟩ := exec_cons_eq_some h
    rw [trace_cons hu, List.mem_append] at hb
    rcases hb with hb | hb
    · exact ⟨[], a, as, s, u, rfl, rfl, hu, hr, hb⟩
    · obtain ⟨pre, c, post, v, w, rfl, hv, hw, hp, he⟩ := ih hb hr
      exact ⟨a :: pre, c, post, v, w, rfl, (exec_cons hu).trans hv, hw, hp, he⟩

end

/-- A machine that carries out another one: `abs` is what its states stand for, and every step is
matched by the actions it stands for. -/
structure Refinement (step : S → A → Option S) (spec : T → B → Option T) where
  abs : S → T
  emit : S → A → List B
  matched : ∀ {s a t}, step s a = some t → exec spec (abs s) (emit s a) = some (abs t)

section
variable {step : S → A → Option S} {spec : T → B → Option T} {s t : S} {as : List A}

/-- **The refinement rule.** A run of the first machine is a run of the second, with the actions its
steps stand for. -/
theorem Refinement.exec (r : Refinement step spec) (h : exec step s as = some t) :
    Machine.exec spec (r.abs s) (trace step r.emit s as) = some (r.abs t) := by
  induction as generalizing s with
  | nil =>
    cases h
    rfl
  | cons a as ih =>
    obtain ⟨u, hu, hr⟩ := exec_cons_eq_some h
    rw [trace_cons hu, exec_append, r.matched hu]
    exact ih hr

/-- What the second machine keeps in steps that meet `Q` holds of the first machine, if its steps
meet `P` and then stand for actions that meet `Q`. -/
theorem Refinement.inv_of_along (r : Refinement step spec) {P : S → A → Prop} {Q : T → B → Prop}
    {I : T → Prop} (hemit : ∀ s a, P s a → Along spec Q (r.abs s) (r.emit s a))
    (hspec : ∀ t b t', I t → Q t b → spec t b = some t' → I t') (hs : I (r.abs s))
    (hP : Along step P s as) (h : Machine.exec step s as = some t) : I (r.abs t) := by
  refine Machine.inv_of_along (I := fun s => I (r.abs s)) (fun s a u hs hp hu => ?_) hs hP h
  exact Machine.inv_of_along hspec hs (hemit s a hp) (r.matched hu)

/-- Refinements compose. -/
def Refinement.comp {U C : Type*} {spec' : U → C → Option U} (r : Refinement step spec)
    (q : Refinement spec spec') : Refinement step spec' where
  abs s := q.abs (r.abs s)
  emit s a := trace spec q.emit (r.abs s) (r.emit s a)
  matched h := q.exec (r.matched h)

end

end Machine

import Wardoff.Instance.Claim

/-!
# Who holds the mutex

* `Accounted`: a process has a handle exactly while it is Primary or about to close a temporary one.
* `single_primary`: at most one guard is alive, a claim that ended otherwise has left nothing
  behind, and without claims and guards there is no mutex.
* `secondary_has_primary_iff`: a claim that finds the mutex finds a live guard as well, exactly if
  it is not made while a temporary handle outlives the guard it was opened under (`St.stale`).
* `secondary_without_primary`: a temporary handle can keep the mutex alive after its primary has
  gone.
* `claimPrimaryInstanceWithRetry_exact`: the loop of a claim, by itself.
-/

namespace Instance

open Machine

variable {name : String} {s t : St} {p q : Nat}

/-! ## What one step can do -/

/-- The transitions of the process `p`. -/
inductive Step (name : String) (s : St) (p : Nat) : ProcAct → St → Prop where
  | start {attempts : Nat}
      (hpc : s.procs p = .idle ∨ s.procs p = .secondary ∨ ∃ message, s.procs p = .failed message) :
    Step name s p (.start attempts) (s.goto p (.creating (max attempts 1 - 1)))
  | nameFails {left : Nat} {error : String} (hpc : s.procs p = .creating left) :
    Step name s p (.nameFails error) (s.goto p (.failed error))
  | createNew {left : Nat} (hpc : s.procs p = .creating left) (hnew : s.handles = []) :
    Step name s p (.create .handle) (s.opened p .primary)
  | createFound {left : Nat} (hpc : s.procs p = .creating left) (hfound : s.handles ≠ []) :
    Step name s p (.create .handle) (s.opened p (.closing left))
  | createDenied {left : Nat} {error : String} (hpc : s.procs p = .creating left) :
    Step name s p (.create (.denied error)) (s.goto p (.probing left error))
  | createFails {left : Nat} {error : String} (hpc : s.procs p = .creating left) :
    Step name s p (.create (.failed error)) (s.goto p (.failed
      s!"Wardoff could not create or open its single-instance mutex ({name}): {error}"))
  | probeFound {left : Nat} {error : String} (hpc : s.procs p = .probing left error)
      (hfound : s.handles ≠ []) :
    Step name s p (.openProbe (.ok ())) (s.opened p (.closing left))
  | probeFails {left : Nat} {createError openError message : String}
      (hpc : s.procs p = .probing left createError) :
    Step name s p (.openProbe (.error openError)) (s.goto p (.failed message))
  | close {left : Nat} (hpc : s.procs p = .closing left) :
    Step name s p .close { s with
      handles := s.handles.erase p
      procs := Function.update s.procs p (.afterSecondary left)
      stale := s.stale.filter (· != p) }
  | wake {left : Nat} (hpc : s.procs p = .sleeping left) :
    Step name s p .wake (s.goto p (.creating left))
  | dropGuard (hpc : s.procs p = .primary) :
    Step name s p .dropGuard
      { handles := s.handles.erase p
        procs := Function.update s.procs p .idle
        stale := s.handles.filter (· != p) }
  | exit :
    Step name s p .exit
      { handles := s.handles.filter (· != p)
        procs := Function.update s.procs p .idle
        stale := (if s.procs p = .primary then s.handles else s.stale).filter (· != p) }

theorem step_cases {a : ProcAct} (h : step name s (p, a) = some t) : Step name s p a t := by
  cases a with
  | start attempts =>
    simp only [step] at h
    split at h
    · cases h; exact .start (.inl ‹_›)
    · cases h; exact .start (.inr (.inl ‹_›))
    · cases h; exact .start (.inr (.inr ⟨_, ‹_›⟩))
    · cases h
  | nameFails error =>
    simp only [step] at h
    split at h <;> cases h
    exact .nameFails ‹_›
  | create result =>
    simp only [step] at h
    split at h
    · rename_i left hpc
      cases result with
      | handle =>
        cases hh : s.handles with
        | nil =>
          simp only [classifyCreateClaim, St.mutexExists, hh, List.isEmpty_nil, Bool.not_true,
            Bool.false_eq_true, if_false, Option.some.injEq] at h
          subst h
          exact .createNew hpc hh
        | cons q rest =>
          simp only [classifyCreateClaim, St.mutexExists, hh, List.isEmpty_cons, Bool.not_false,
            if_true, Option.some.injEq] at h
          subst h
          exact .createFound hpc (by simp [hh])
      | denied error => cases h; exact .createDenied hpc
      | failed error => cases h; exact .createFails hpc
    · cases h
  | openProbe result =>
    simp only [step] at h
    split at h
    · rename_i left createError hpc
      cases result with
      | error openError =>
        simp only [Except.isOk, Except.toBool, Bool.false_and, Bool.false_eq_true, if_false,
          classifyAccessDeniedProbe, Option.some.injEq] at h
        subst h
        exact .probeFails hpc
      | ok u =>
        split at h
        · cases h
        · rename_i hfound
          simp only [classifyAccessDeniedProbe, Option.some.injEq] at h
          subst h
          refine .probeFound hpc ?_
          simpa [Except.isOk, Except.toBool, St.mutexExists] using hfound
    · cases h
  | close =>
    simp only [step] at h
    split at h <;> cases h
    exact .close ‹_›
  | wake =>
    simp only [step] at h
    split at h <;> cases h
    exact .wake ‹_›
  | dropGuard =>
    simp only [step] at h
    split at h <;> cases h
    exact .dropGuard ‹_›
  | exit => cases h; exact .exit

/-! ## Handles -/

/-- The process has a handle to the mutex. -/
def Pc.holds : Pc → Bool
  | .closing _ => true
  | .primary => true
  | _ => false

/-- Every open handle is a guard's or a temporary one of a process that is about to close it. -/
def Accounted (s : St) : Prop := ∀ p, s.handles.count p = (s.procs p).holds.toNat

theorem Accounted.mem_iff (hs : Accounted s) : p ∈ s.handles ↔ (s.procs p).holds = true := by
  have hp := hs p
  rw [← List.count_pos_iff, hp]
  cases (s.procs p).holds <;> simp

@[simp] theorem Pc.holds_afterSecondary (left : Nat) : (Pc.afterSecondary left).holds = false := by
  cases left <;> rfl

/-- A process has at most one handle to close. -/
theorem Accounted.count_erase_self (hs : Accounted s) : (s.handles.erase p).count p = 0 := by
  have hp := hs p
  rw [List.count_erase_self, hp]
  cases (s.procs p).holds <;> rfl

/-- A process that neither gets nor gives a handle. -/
theorem Accounted.goto (hs : Accounted s) {pc : Pc} (hp : (s.procs p).holds = pc.holds) :
    Accounted (s.goto p pc) := by
  intro q
  by_cases hq : q = p
  · subst hq
    simpa [St.goto, hp] using hs q
  · simpa [St.goto, hq] using hs q

/-- A process that opens a handle. -/
theorem Accounted.opened (hs : Accounted s) {pc : Pc} (hp : (s.procs p).holds = false)
    (hpc : pc.holds = true) : Accounted (s.opened p pc) := by
  intro q
  by_cases hq : q = p
  · subst hq
    simp [St.opened, hs q, hp, hpc]
  · have hne : ¬ p = q := fun h => hq h.symm
    simp [St.opened, hq, hne, hs q]

/-- A process that closes its handle. -/
theorem Accounted.closed (hs : Accounted s) {pc : Pc} {handles stale : List Nat}
    (hp : handles.count p = 0) (hother : ∀ q, q ≠ p → handles.count q = s.handles.count q)
    (hpc : pc.holds = false) :
    Accounted { handles, procs := Function.update s.procs p pc, stale } := by
  intro q
  by_cases hq : q = p
  · subst hq
    simp [hp, hpc]
  · simp [hq, hother q hq, hs q]

theorem Accounted.step {a : ProcAct} (hs : Accounted s) (h : Step name s p a t) : Accounted t := by
  have herase : ∀ q, q ≠ p → (s.handles.erase p).count q = s.handles.count q :=
    fun q hq => List.count_erase_of_ne hq
  cases h with
  | start hpc =>
    refine hs.goto ?_
    rcases hpc with hpc | hpc | ⟨message, hpc⟩ <;> rw [hpc] <;> rfl
  | nameFails hpc => exact hs.goto (by rw [hpc]; rfl)
  | createNew hpc hnew => exact hs.opened (by rw [hpc]; rfl) rfl
  | createFound hpc hfound => exact hs.opened (by rw [hpc]; rfl) rfl
  | createDenied hpc => exact hs.goto (by rw [hpc]; rfl)
  | createFails hpc => exact hs.goto (by rw [hpc]; rfl)
  | probeFound hpc hfound => exact hs.opened (by rw [hpc]; rfl) rfl
  | probeFails hpc => exact hs.goto (by rw [hpc]; rfl)
  | close hpc => exact hs.closed hs.count_erase_self herase (Pc.holds_afterSecondary _)
  | wake hpc => exact hs.goto (by rw [hpc]; rfl)
  | dropGuard hpc => exact hs.closed hs.count_erase_self herase rfl
  | exit =>
    refine hs.closed ?_ ?_ rfl
    · simp [List.count_eq_zero]
    · intro q hq
      exact List.count_filter (by simpa using hq)

/-! ## Guards -/

/-- At most one guard is alive. -/
def Unique (s : St) : Prop := ∀ p q, s.procs p = .primary → s.procs q = .primary → p = q

/-- Processes that become nothing new leave the guards as they are. -/
theorem unique_of_update {pc : Pc} (hs : Unique s) (hpc : pc ≠ .primary)
    (ht : t.procs = Function.update s.procs p pc) : Unique t := by
  intro q r hq hr
  by_cases hqp : q = p
  · subst hqp
    simp [ht, hpc] at hq
  · by_cases hrp : r = p
    · subst hrp
      simp [ht, hpc] at hr
    · simp only [ht, Function.update_of_ne hqp, Function.update_of_ne hrp] at hq hr
      exact hs q r hq hr

/-- The mutex is created anew only when nobody holds a guard. -/
theorem Unique.step {a : ProcAct} (hs : Unique s) (hacc : Accounted s) (h : Step name s p a t) :
    Unique t := by
  cases h with
  | createNew hpc hnew =>
    have hnone : ∀ q, s.procs q ≠ .primary := by
      intro q hq
      have hmem := hacc.mem_iff.2 (show (s.procs q).holds = true by rw [hq]; rfl)
      simp [hnew] at hmem
    intro q r hq hr
    have hq' : q = p := by
      by_contra hne
      simp only [St.opened, Function.update_of_ne hne] at hq
      exact hnone q hq
    have hr' : r = p := by
      by_contra hne
      simp only [St.opened, Function.update_of_ne hne] at hr
      exact hnone r hr
    rw [hq', hr']
  | close hpc => exact unique_of_update hs (by cases ‹Nat› <;> simp [Pc.afterSecondary]) rfl
  | _ => exact unique_of_update hs (by simp) rfl

/-- No claim is running and no guard is alive in this process. -/
def Pc.finished : Pc → Bool
  | .idle => true
  | .secondary => true
  | .failed _ => true
  | _ => false

theorem Pc.holds_of_finished {pc : Pc} (h : pc.finished = true) : pc.holds = false := by
  cases pc <;> simp_all [Pc.finished, Pc.holds]

/-- Handles are accounted for, and at most one guard is alive. -/
structure Held (s : St) : Prop where
  accounted : Accounted s
  unique : Unique s

theorem held_init : Held {} where
  accounted := fun _ => rfl
  unique := by
    intro p q hp
    cases hp

theorem Held.step {a : Nat × ProcAct} (hs : Held s) (h : step name s a = some t) : Held t where
  accounted := hs.accounted.step (step_cases h)
  unique := hs.unique.step hs.accounted (step_cases h)

/-- **At most one primary, and no handles kept**: at any time at most one guard is alive, a process
whose claim returned Secondary or an error has no handle, and when every claim has returned and
every guard is dropped the mutex is gone. -/
theorem single_primary (name : String) (as : List (Nat × ProcAct))
    (h : exec (step name) {} as = some s) :
    (∀ p q, s.procs p = .primary → s.procs q = .primary → p = q) ∧
    (∀ p, s.procs p = .secondary ∨ (∃ message, s.procs p = .failed message) → p ∉ s.handles) ∧
    ((∀ p, (s.procs p).finished = true) → s.mutexExists = false) := by
  obtain ⟨hacc, huniq⟩ := inv_of_exec (I := Held) (fun s a t hs h => hs.step h) held_init h
  have hnot : ∀ p, (s.procs p).finished = true → p ∉ s.handles := by
    intro p hp hmem
    have hholds := hacc.mem_iff.1 hmem
    rw [Pc.holds_of_finished hp] at hholds
    cases hholds
  refine ⟨huniq, fun p hp => hnot p ?_, fun hall => ?_⟩
  · rcases hp with hp | ⟨message, hp⟩ <;> rw [hp] <;> rfl
  · have hnil : s.handles = [] := List.eq_nil_iff_forall_not_mem.2 fun p => hnot p (hall p)
    simp [St.mutexExists, hnil]

/-- Two processes claim; the second is denied, probes, and gives up; the first drops its guard. -/
def deniedProbeRun : List (Nat × ProcAct) :=
  [(0, .start 1), (1, .start 0), (0, .create .handle), (1, .create (.denied "Access is denied.")),
    (1, .openProbe (.ok ())), (1, .close), (0, .dropGuard)]

theorem single_primary_denied_probe :
    ∃ s, exec (step "WardoffInstance") {} deniedProbeRun = some s ∧ s.procs 1 = .secondary ∧
      1 ∉ s.handles :=
  ⟨_, rfl, rfl, (single_primary "WardoffInstance" deniedProbeRun rfl).2.1 1 (.inl rfl)⟩

/-! ## What a Secondary claim has found -/

/-- The call of a claim that gets a handle, where there is a mutex to get one to. -/
def isCall (s : St) : Nat × ProcAct → Prop
  | (p, .create .handle) => ∃ left, s.procs p = .creating left
  | (p, .openProbe (.ok ())) => ∃ left error, s.procs p = .probing left error
  | _ => False

/-- The call finds the mutex, so that its claim is Secondary. -/
def findsMutex (s : St) (a : Nat × ProcAct) : Prop := isCall s a ∧ s.handles ≠ []

/-- What Secondary is supposed to mean: another process has a live guard at the time of the call. -/
def FindsPrimary (s : St) (a : Nat × ProcAct) : Prop :=
  findsMutex s a → ∃ q, q ≠ a.1 ∧ s.procs q = .primary

/-- No call is made while a temporary handle is open that was open when a guard was dropped. -/
def CallsAfterClose (s : St) (a : Nat × ProcAct) : Prop := isCall s a → s.stale = []

/-- Stale handles are temporary ones, and there is no guard beside them: they keep the mutex, so
that no claim can become Primary. -/
structure StaleOk (s : St) : Prop where
  closing : ∀ q ∈ s.stale, ∃ left, s.procs q = .closing left
  noPrimary : s.stale ≠ [] → ∀ q, s.procs q ≠ .primary

theorem StaleOk.handles_ne_nil (hs : StaleOk s) (hacc : Accounted s) (hne : s.stale ≠ []) :
    s.handles ≠ [] := by
  obtain ⟨q, hq⟩ := List.exists_mem_of_ne_nil _ hne
  obtain ⟨left, hpc⟩ := hs.closing q hq
  exact List.ne_nil_of_mem (hacc.mem_iff.2 (by rw [hpc]; rfl))

/-- A process that holds nothing goes on to a state other than Primary. -/
theorem StaleOk.goto (hs : StaleOk s) {pc : Pc} (hp : (s.procs p).holds = false)
    (hpc : pc ≠ .primary) (hstale : t.stale = s.stale)
    (ht : t.procs = Function.update s.procs p pc) : StaleOk t := by
  have hne : ∀ q ∈ s.stale, q ≠ p := by
    intro q hq he
    subst he
    obtain ⟨left, hcl⟩ := hs.closing q hq
    simp [hcl, Pc.holds] at hp
  constructor
  · intro q hq
    rw [hstale] at hq
    rw [ht, Function.update_of_ne (hne q hq)]
    exact hs.closing q hq
  · intro hnil q
    rw [hstale] at hnil
    by_cases hq : q = p
    · subst hq
      simpa [ht] using hpc
    · rw [ht, Function.update_of_ne hq]
      exact hs.noPrimary hnil q

/-- A process whose handles are gone is not stale any more. -/
theorem StaleOk.filter (hs : StaleOk s) {pc : Pc} (hpc : pc ≠ .primary)
    (hstale : t.stale = s.stale.filter (· != p)) (ht : t.procs = Function.update s.procs p pc) :
    StaleOk t := by
  constructor
  · intro q hq
    rw [hstale, List.mem_filter] at hq
    rw [ht, Function.update_of_ne (by simpa using hq.2)]
    exact hs.closing q hq.1
  · intro hnil q
    have hne : s.stale ≠ [] := fun he => hnil (by rw [hstale, he]; rfl)
    by_cases hq : q = p
    · subst hq
      simpa [ht] using hpc
    · rw [ht, Function.update_of_ne hq]
      exact hs.noPrimary hne q

/-- When the guard is dropped, all other handles are temporary ones. -/
theorem staleOk_of_drop (hacc : Accounted s) (huniq : Unique s) (hpc : s.procs p = .primary)
    (hstale : t.stale = s.handles.filter (· != p))
    (ht : t.procs = Function.update s.procs p .idle) :
    StaleOk t := by
  have hother : ∀ q, q ≠ p → s.procs q ≠ .primary := fun q hq h => hq (huniq q p h hpc)
  constructor
  · intro q hq
    rw [hstale, List.mem_filter] at hq
    have hqp : q ≠ p := by simpa using hq.2
    have hholds := hacc.mem_iff.1 hq.1
    rw [ht, Function.update_of_ne hqp]
    cases hc : s.procs q with
    | closing left => exact ⟨left, rfl⟩
    | primary => exact absurd hc (hother q hqp)
    | _ => simp [hc, Pc.holds] at hholds
  · intro _ q
    by_cases hq : q = p
    · subst hq
      simp [ht]
    · rw [ht, Function.update_of_ne hq]
      exact hother q hq

theorem StaleOk.step {a : ProcAct} (hs : StaleOk s) (hacc : Accounted s) (huniq : Unique s)
    (h : Step name s p a t) : StaleOk t := by
  cases h with
  | start hpc =>
    refine hs.goto ?_ (by simp) rfl rfl
    rcases hpc with hpc | hpc | ⟨message, hpc⟩ <;> rw [hpc] <;> rfl
  | createNew hpc hnew =>
    have hnil : s.stale = [] := by
      by_contra hne
      exact hs.handles_ne_nil hacc hne hnew
    exact ⟨by simp [St.opened, hnil], by simp [St.opened, hnil]⟩
  | close hpc => exact hs.filter (by cases ‹Nat› <;> simp [Pc.afterSecondary]) rfl rfl
  | dropGuard hpc => exact staleOk_of_drop hacc huniq hpc rfl rfl
  | exit =>
    by_cases hpc : s.procs p = .primary
    · exact staleOk_of_drop hacc huniq hpc (by simp [hpc]) rfl
    · exact hs.filter (by simp) (by simp [hpc]) rfl
  | nameFails hpc => exact hs.goto (by rw [hpc]; rfl) (by simp) rfl rfl
  | createFound hpc => exact hs.goto (by rw [hpc]; rfl) (by simp) rfl rfl
  | createDenied hpc => exact hs.goto (by rw [hpc]; rfl) (by simp) rfl rfl
  | createFails hpc => exact hs.goto (by rw [hpc]; rfl) (by simp) rfl rfl
  | probeFound hpc => exact hs.goto (by rw [hpc]; rfl) (by simp) rfl rfl
  | probeFails hpc => exact hs.goto (by rw [hpc]; rfl) (by simp) rfl rfl
  | wake hpc => exact hs.goto (by rw [hpc]; rfl) (by simp) rfl rfl

/-- Without a guard, every open handle is stale. -/
def OrphansStale (s : St) : Prop := (∀ q, s.procs q ≠ .primary) → ∀ p ∈ s.handles, p ∈ s.stale

/-- A call that waits for the stale handles finds a guard with the mutex. -/
theorem OrphansStale.primary (hs : OrphansStale s) (hstale : s.stale = []) (hne : s.handles ≠ []) :
    ∃ q, s.procs q = .primary := by
  by_contra hnone
  obtain ⟨p, hp⟩ := List.exists_mem_of_ne_nil _ hne
  have hmem := hs (fun q hq => hnone ⟨q, hq⟩) p hp
  simp [hstale] at hmem

/-- A process that opens nothing. -/
theorem OrphansStale.goto (hs : OrphansStale s) {pc : Pc} (hp : s.procs p ≠ .primary)
    (hhandles : t.handles = s.handles) (hstale : t.stale = s.stale)
    (ht : t.procs = Function.update s.procs p pc) : OrphansStale t := by
  intro hnone
  rw [hhandles, hstale]
  refine hs fun q hq => ?_
  have hqp : q ≠ p := fun he => hp (he ▸ hq)
  exact hnone q (by rw [ht, Function.update_of_ne hqp, hq])

theorem orphansStale_of_primary (h : t.procs q = .primary) : OrphansStale t :=
  fun hnone => absurd h (hnone q)

theorem OrphansStale.opened (hs : OrphansStale s) {pc : Pc} (hstale : s.stale = [])
    (hp : s.procs p ≠ .primary) (hne : s.handles ≠ []) : OrphansStale (s.opened p pc) := by
  obtain ⟨q, hq⟩ := hs.primary hstale hne
  have hqp : q ≠ p := fun he => hp (he ▸ hq)
  exact orphansStale_of_primary (q := q) (by simp [St.opened, hqp, hq])

theorem OrphansStale.step {a : ProcAct} (hs : OrphansStale s) (hacc : Accounted s)
    (hcall : CallsAfterClose s (p, a)) (h : Step name s p a t) : OrphansStale t := by
  have herase : ∀ q ∈ s.handles.erase p, q ≠ p := by
    intro q hq he
    rw [he] at hq
    exact List.count_eq_zero.1 hacc.count_erase_self hq
  cases h with
  | start hpc =>
    refine hs.goto ?_ rfl rfl rfl
    rcases hpc with hpc | hpc | ⟨message, hpc⟩ <;> simp [hpc]
  | createNew hpc hnew => exact orphansStale_of_primary (q := p) (by simp [St.opened])
  | createFound hpc hfound => exact hs.opened (hcall ⟨_, hpc⟩) (by simp [hpc]) hfound
  | probeFound hpc hfound => exact hs.opened (hcall ⟨_, _, hpc⟩) (by simp [hpc]) hfound
  | close hpc =>
    intro hnone q hq
    refine List.mem_filter.2 ⟨?_, by simpa using herase q hq⟩
    refine hs (fun r hr => ?_) q (List.mem_of_mem_erase hq)
    have hrp : r ≠ p := by
      intro he
      simp [he, hpc] at hr
    exact hnone r (by simpa [hrp] using hr)
  | dropGuard hpc =>
    intro _ q hq
    exact List.mem_filter.2 ⟨List.mem_of_mem_erase hq, by simpa using herase q hq⟩
  | exit =>
    intro hnone q hq
    rw [List.mem_filter] at hq
    refine List.mem_filter.2 ⟨?_, hq.2⟩
    by_cases hpc : s.procs p = .primary
    · simpa [hpc] using hq.1
    · simp only [hpc, if_false]
      refine hs (fun r hr => ?_) q hq.1
      have hrp : r ≠ p := fun he => hpc (he ▸ hr)
      exact hnone r (by simpa [hrp] using hr)
  | nameFails hpc => exact hs.goto (by simp [hpc]) rfl rfl rfl
  | createDenied hpc => exact hs.goto (by simp [hpc]) rfl rfl rfl
  | createFails hpc => exact hs.goto (by simp [hpc]) rfl rfl rfl
  | probeFails hpc => exact hs.goto (by simp [hpc]) rfl rfl rfl
  | wake hpc => exact hs.goto (by simp [hpc]) rfl rfl rfl

/-- The process of a call has no guard. -/
theorem isCall_ne_primary {a : Nat × ProcAct} (h : isCall s a) : s.procs a.1 ≠ .primary := by
  obtain ⟨p, a⟩ := a
  cases a with
  | create result =>
    cases result with
    | handle =>
      obtain ⟨left, hpc⟩ := h
      simp [hpc]
    | _ => cases h
  | openProbe result =>
    cases result with
    | ok u =>
      obtain ⟨left, error, hpc⟩ := h
      simp [hpc]
    | error error => cases h
  | _ => cases h

/-- **When Secondary means that a primary exists.** Every claim of a run that finds the mutex finds
a live guard of another process, exactly if no call of the run is made while a temporary handle is
open that was open when a guard was dropped. -/
theorem secondary_has_primary_iff (name : String) (as : List (Nat × ProcAct)) :
    Along (step name) FindsPrimary {} as ↔ Along (step name) CallsAfterClose {} as := by
  constructor
  · refine Along.imp (I := fun s => Held s ∧ StaleOk s) ?_ ?_ ⟨held_init, by simp, by simp⟩
    · intro s a t hs _ h
      exact ⟨hs.1.step h, hs.2.step hs.1.accounted hs.1.unique (step_cases h)⟩
    · intro s a hs hfinds hcall
      by_contra hne
      obtain ⟨q, -, hq⟩ := hfinds ⟨hcall, hs.2.handles_ne_nil hs.1.accounted hne⟩
      exact hs.2.noPrimary hne q hq
  · refine Along.imp (I := fun s => Held s ∧ OrphansStale s) ?_ ?_ ⟨held_init,
      by simp [OrphansStale]⟩
    · intro s a t hs hcall h
      exact ⟨hs.1.step h, hs.2.step hs.1.accounted hcall (step_cases h)⟩
    · intro s a hs hcall hfinds
      obtain ⟨q, hq⟩ := hs.2.primary (hcall hfinds.1) hfinds.2
      exact ⟨q, fun he => isCall_ne_primary hfinds.1 (he ▸ hq), hq⟩

/-- The process 0 is Primary. The process 1 claims and gets a temporary handle; 0 drops its guard; 2
claims, finds the mutex that only the handle of 1 keeps, and returns Secondary. -/
def orphanedMutexRun : List (Nat × ProcAct) :=
  [(0, .start 1), (0, .create .handle), (1, .start 1), (1, .create .handle), (0, .dropGuard),
    (2, .start 1), (2, .create .handle), (2, .close)]

/-- A claim can return Secondary with no primary at the time of its call. -/
theorem secondary_without_primary :
    ¬ ∀ (as : List (Nat × ProcAct)) (s : St), exec (step "WardoffInstance") {} as = some s →
      Along (step "WardoffInstance") FindsPrimary {} as := by
  intro h
  have hall := h orphanedMutexRun _ rfl
  -- the state before the call of the process 2
  have hcall := ((((((hall.2 _ rfl).2 _ rfl).2 _ rfl).2 _ rfl).2 _ rfl).2 _ rfl).1
  obtain ⟨q, -, hq⟩ := hcall ⟨⟨0, rfl⟩, by decide⟩
  match q with
  | 0 => cases hq
  | 1 => cases hq
  | 2 => cases hq
  | _ + 3 => cases hq

/-! ## The loop of a claim -/

/-- `claim_primary_instance_with_retry` stops with attempt number `last`. -/
structure ClaimedAt (attempts : UInt64)
    (claims : Nat → Except String ClaimDisposition) (last : Nat) :
    Prop where
  lt : last < max 1 attempts.toNat
  before : ∀ i < last, claims i = .ok .secondary
  stops : claims last ≠ .ok .secondary ∨ last + 1 = max 1 attempts.toNat
  /-- It returns the last claim, and has slept after each one before. -/
  run : claimPrimaryInstanceWithRetry attempts claims =
    (some (.returned (claims last)), pausedTrials claims last ++ [.tried (claims last)])

section
variable {attempts : UInt64} {attempt : Nat} {claim : Except String ClaimDisposition}

/-- The counter cannot overflow: it stays below a `usize`. -/
theorem usizeAdd_eq_some (attempts : UInt64) (h : attempt < max attempts.toNat 1) :
    usizeAdd attempt 1 = some (attempt + 1) := by
  have hlt := attempts.toNat_lt_size
  have hsize : 1 < UInt64.size := by decide
  unfold usizeAdd
  rw [if_pos (by omega)]

theorem claimSettles_eq_none {attempts : Nat} (h : claimSettles attempts attempt claim = none) :
    claim = .ok .secondary := by
  unfold claimSettles at h
  split at h
  · cases h
  · cases h
  · rfl

/-- An attempt that settles the claim returns it. -/
theorem claimSettles_eq_some {r : RetryExit} (hlt : attempt < max attempts.toNat 1)
    (h : claimSettles (max attempts.toNat 1) attempt claim = some r) :
    r = .returned claim ∧ (claim ≠ .ok .secondary ∨ attempt + 1 = max attempts.toNat 1) := by
  unfold claimSettles at h
  split at h
  · cases h
    exact ⟨rfl, .inl (by simp)⟩
  · cases h
    exact ⟨rfl, .inl (by simp)⟩
  · rw [usizeAdd_eq_some attempts hlt] at h
    dsimp only at h
    split_ifs at h with hlast
    cases h
    exact ⟨rfl, .inr hlast⟩

theorem claimSettles_last (attempts : UInt64) (claim : Except String ClaimDisposition) :
    (claimSettles (max attempts.toNat 1) (max attempts.toNat 1 - 1) claim).isSome = true := by
  have hadd : usizeAdd (max attempts.toNat 1 - 1) 1 = some (max attempts.toNat 1 - 1 + 1) :=
    usizeAdd_eq_some attempts (by omega)
  unfold claimSettles
  split
  · rfl
  · rfl
  · rw [hadd]
    dsimp only
    rw [if_pos (by omega)]
    rfl

/-- **The loop of a claim.** -/
theorem claimPrimaryInstanceWithRetry_exact (attempts : UInt64)
    (claims : Nat → Except String ClaimDisposition) : ∃ last, ClaimedAt attempts claims last := by
  obtain ⟨last, hlt, hbefore, r, hr, hrun⟩ :=
    retry_settled claims (max attempts.toNat 1) (by omega) (claimSettles_last attempts)
  obtain ⟨rfl, hstops⟩ := claimSettles_eq_some hlt hr
  refine ⟨last, by omega, fun i hi => claimSettles_eq_none (hbefore i hi), ?_, hrun⟩
  exact hstops.imp_right (by omega)

end

end Instance

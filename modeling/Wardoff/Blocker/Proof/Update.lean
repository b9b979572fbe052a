import Wardoff.Blocker.Proof.Workers

/-!
# Layer 3 gives the reboot task back

Every activation forgets what the one before it had to restore. So a cycle gives the task back that
it has found enabled (`RestoreInv`), but takes a task that an earlier cycle has left disabled, after
a failed call, for one that was disabled all along.

* `reboot_task_given_back`: where every activation finds the task enabled, a clean cycle leaves it
  enabled. A cycle that first sees the task disabled never enables it (`FirstLook`).
* `reboot_task_not_given_back`: a clean cycle that follows a failed one.
-/

namespace Blocker

open Machine
open Machine.Worker (Stage SlotInv)

theorem UpdatePc.stage_eq_finished {pc : UpdatePc} : pc.stage = .finished ↔ pc = .finished := by
  cases pc with
  | lookup initial | query initial | disable initial => cases initial <;> simp [UpdatePc.stage]
  | _ => simp [UpdatePc.stage]

section
variable {s t u : UpdateSt} {i : Nat} {thread : Thread UpdatePc} {pc : UpdatePc}

/-- Only one thread has not finished. -/
theorem others_finished (hslot : SlotInv (s.workers.view UpdatePc.stage))
    (hi : s.workers.threads[i]? = some thread) (halive : thread.pc ≠ .finished) {j : Nat}
    {other : Thread UpdatePc} (hij : i ≠ j) (hj : s.workers.threads[j]? = some other) :
    other.pc = .finished := by
  by_contra hother
  refine hij (hslot.sound.alone i j ⟨thread.pc.stage, ?_, ?_⟩ ⟨other.pc.stage, ?_, ?_⟩)
  · simp [PollingThreads.view, hi]
  · rwa [ne_eq, UpdatePc.stage_eq_finished]
  · simp [PollingThreads.view, hj]
  · rwa [ne_eq, UpdatePc.stage_eq_finished]

/-- Where the layer has neither a worker nor one to join, all threads have finished. -/
theorem all_finished (hslot : SlotInv (s.workers.view UpdatePc.stage))
    (hnone : (s.workers.view UpdatePc.stage).slot = none)
    (hleaving : (s.workers.view UpdatePc.stage).leaving = none) :
    ∀ thread ∈ s.workers.threads, thread.pc = .finished := by
  intro thread hmem
  obtain ⟨i, hi⟩ := List.mem_iff_getElem?.1 hmem
  rw [← UpdatePc.stage_eq_finished]
  exact hslot.finished hnone hleaving (i := i) (by simp [PollingThreads.view, hi])

/-- A thread that makes a step had not finished. -/
theorem CallStep.alive (h : CallStep s i thread t) : thread.pc ≠ .finished := by
  cases h with
  | restoreFails hpc => rcases hpc with hpc | hpc | hpc <;> simp [hpc]
  | _ => simp [*]

theorem WorkerStep.alive {a : UpdateThreadAct} (h : WorkerStep s i thread a t) :
    thread.pc ≠ .finished := by
  cases h with
  | call hcall => exact hcall.alive
  | panic hpanic =>
    intro hpc
    rw [hpc] at hpanic
    cases hpanic
  | _ => simp [*]

/-- What holds of all threads after a step of one of them: it holds of that thread, and the others
have finished. -/
theorem forall_goto {P : UpdatePc → Prop} (hslot : SlotInv (s.workers.view UpdatePc.stage))
    (hi : s.workers.threads[i]? = some thread) (halive : thread.pc ≠ .finished)
    (hfinished : P .finished) (hthreads : u.workers.threads = s.workers.threads) (hpc : P pc) :
    ∀ other ∈ (u.goto i thread pc).workers.threads, P other.pc := by
  intro other hmem
  obtain ⟨j, hj⟩ := List.mem_iff_getElem?.1 hmem
  simp only [UpdateSt.goto, hthreads] at hj
  by_cases hij : i = j
  · subst hij
    rw [List.getElem?_set_self (List.getElem?_eq_some_iff.1 hi).1] at hj
    cases hj
    exact hpc
  · rw [List.getElem?_set_ne hij] at hj
    rw [others_finished hslot hi halive hij hj]
    exact hfinished

end

/-! ## A clean cycle -/

/-- What a thread of a clean cycle relies on. -/
def Relies (s : UpdateSt) : UpdatePc → Prop
  | .starting => s.task = .present true ∧ (s.poisoned = false → s.restore = {})
  | .lookup true => s.task = .present true ∧ (s.poisoned = false → s.restore = {})
  | .query true => s.task = .present true ∧ s.restore = {} ∧ s.poisoned = false
  | .disable _ true => s.task = .present true ∧ s.restore = ⟨true, false⟩ ∧ s.poisoned = false
  | .unwinding => False
  | .finished => True
  -- it has disabled the task, and knows it
  | _ => s.restore = ⟨true, true⟩ ∧ s.poisoned = false

/-- Nothing that a thread relies on is lost when someone enables the task. -/
theorem Relies.enabled {s : UpdateSt} {pc : UpdatePc} (h : Relies s pc) :
    Relies { s with task := .present true } pc := by
  cases pc with
  | starting => exact ⟨rfl, h.2⟩
  | lookup initial | query initial =>
    cases initial with
    | true => exact ⟨rfl, h.2⟩
    | false => exact h
  | disable initial first =>
    cases first with
    | true => exact ⟨rfl, h.2⟩
    | false => exact h
  | _ => exact h

structure RestoreInv (s : UpdateSt) : Prop where
  task : ∃ enabled, s.task = .present enabled
  threads : s.clean = true → ∀ thread ∈ s.workers.threads, Relies s thread.pc
  settled : s.clean = true → (∀ thread ∈ s.workers.threads, thread.pc = .finished) →
    s.task = .present true

section
variable {s t u : UpdateSt} {i : Nat} {thread : Thread UpdatePc} {pc : UpdatePc}

/-- The invariant after a step of a thread, from what holds at its next place. -/
theorem restoreInv_goto (hslot : SlotInv (s.workers.view UpdatePc.stage))
    (hi : s.workers.threads[i]? = some thread) (halive : thread.pc ≠ .finished)
    (hthreads : u.workers.threads = s.workers.threads)
    (htask : ∃ enabled, u.task = .present enabled) (hpc : u.clean = true → Relies u pc)
    (hdone : u.clean = true → pc = .finished → u.task = .present true) :
    RestoreInv (u.goto i thread pc) where
  task := htask
  threads := fun hclean => forall_goto hslot hi halive trivial hthreads (hpc hclean)
  settled := by
    intro hclean hall
    refine hdone hclean (hall { thread with pc } ?_)
    refine List.mem_iff_getElem?.2 ⟨i, ?_⟩
    simp only [UpdateSt.goto, hthreads]
    rw [List.getElem?_set_self (List.getElem?_eq_some_iff.1 hi).1]

theorem callStep_restoreInv (hinv : RestoreInv s) (hslot : SlotInv (s.workers.view UpdatePc.stage))
    (hi : s.workers.threads[i]? = some thread) (h : CallStep s i thread t) : RestoreInv t := by
  have halive := h.alive
  have hrel : s.clean = true → Relies s thread.pc := fun hclean =>
    hinv.threads hclean thread (List.mem_of_getElem? hi)
  obtain ⟨now, hnow⟩ := hinv.task
  cases h with
  | @lookupPoisoned initial hpc hp =>
    rw [hpc] at hrel
    cases initial with
    | true =>
      exact restoreInv_goto hslot hi halive rfl hinv.task (fun _ => trivial)
        fun hclean _ => (hrel hclean).1
    | false =>
      refine restoreInv_goto hslot hi halive rfl hinv.task (fun hclean => ?_)
        fun _ hf => by cases hf
      simp [Relies, hp] at hrel
      exact absurd hclean (by simp [hrel])
  | lookupFails hpc =>
    exact restoreInv_goto hslot hi halive rfl hinv.task (fun hf => by cases hf)
      fun hf => by cases hf
  | @lookupFound initial enabled hpc hp htask =>
    rw [hpc] at hrel
    refine restoreInv_goto hslot hi halive rfl hinv.task (fun hclean => ?_) fun _ hf => by cases hf
    cases initial with
    | true => exact ⟨(hrel hclean).1, (hrel hclean).2 hp, hp⟩
    | false => exact hrel hclean
  | lookupMissing hpc htask => exact absurd hnow (htask now)
  | queryFails hpc =>
    exact restoreInv_goto hslot hi halive rfl hinv.task (fun hf => by cases hf)
      fun hf => by cases hf
  | @queryFirst initial enabled hpc htask hrecorded =>
    rw [hpc] at hrel
    -- a clean cycle first looks while the task is enabled
    refine restoreInv_goto hslot hi halive rfl hinv.task (fun hclean => ?_) fun hclean hf => ?_
    · cases initial with
      | true =>
        obtain ⟨henabled, hrestore, hp⟩ := hrel hclean
        cases htask.symm.trans henabled
        exact ⟨henabled, by simp [hrestore], hp⟩
      | false =>
        rw [(hrel hclean).1] at hrecorded
        cases hrecorded
    · cases enabled <;> cases initial <;> cases hf
  | @queryAgain initial enabled hpc htask hrecorded =>
    rw [hpc] at hrel
    refine restoreInv_goto hslot hi halive rfl hinv.task (fun hclean => ?_) fun hclean hf => ?_
    · cases initial with
      | true =>
        rw [(hrel hclean).2.1] at hrecorded
        cases hrecorded
      | false => cases enabled <;> exact hrel hclean
    · cases enabled <;> cases initial <;> cases hf
  | disableFails hpc =>
    exact restoreInv_goto hslot hi halive rfl hinv.task (fun hf => by cases hf)
      fun hf => by cases hf
  | @disable initial first enabled hpc htask =>
    rw [hpc] at hrel
    refine restoreInv_goto hslot hi halive rfl ⟨_, rfl⟩ (fun hclean => ?_) fun hclean hf => ?_
    · have hafter : s.restore = ⟨true, first == false⟩ ∧ s.poisoned = false := by
        cases first with
        | true => exact (hrel hclean).2
        | false => exact hrel hclean
      cases first <;> cases initial <;> exact ⟨by simp [hafter.1], hafter.2⟩
    · cases initial <;> cases hf
  | restoreNothing hpc hnone =>
    rw [hpc] at hrel
    refine restoreInv_goto hslot hi halive rfl hinv.task (fun _ => trivial) fun hclean _ => ?_
    obtain ⟨hrestore, hp⟩ := hrel hclean
    simp [hrestore, hp] at hnone
  | restoreFails hpc =>
    exact restoreInv_goto hslot hi halive rfl hinv.task (fun hf => by cases hf)
      fun hf => by cases hf
  | restoreFound hpc hp hrestore htask =>
    rw [hpc] at hrel
    exact restoreInv_goto hslot hi halive rfl hinv.task hrel fun _ hf => by cases hf
  | restoreMissing hpc htask => exact absurd hnow (htask now)
  | @restoreQuery enabled hpc htask =>
    rw [hpc] at hrel
    cases enabled with
    | true =>
      exact restoreInv_goto hslot hi halive rfl hinv.task (fun _ => trivial) fun _ _ => htask
    | false => exact restoreInv_goto hslot hi halive rfl hinv.task hrel fun _ hf => by cases hf
  | restoreEnable hpc htask =>
    exact restoreInv_goto hslot hi halive rfl ⟨_, rfl⟩ (fun _ => trivial) fun _ _ => rfl

theorem workerStep_restoreInv {a : UpdateThreadAct} (hinv : RestoreInv s)
    (hslot : SlotInv (s.workers.view UpdatePc.stage)) (hi : s.workers.threads[i]? = some thread)
    (h : WorkerStep s i thread a t) : RestoreInv t := by
  have halive := h.alive
  have hrel : s.clean = true → Relies s thread.pc := fun hclean =>
    hinv.threads hclean thread (List.mem_of_getElem? hi)
  cases h with
  | @coInitialize ok hpc =>
    rw [hpc] at hrel
    cases ok with
    | true => exact restoreInv_goto hslot hi halive rfl hinv.task hrel fun _ hf => by cases hf
    | false =>
      exact restoreInv_goto hslot hi halive rfl hinv.task (fun _ => trivial)
        fun hclean _ => (hrel hclean).1
  | call hcall => exact callStep_restoreInv hinv hslot hi hcall
  | activate hpc | receive hpc | timeout hpc | dropGuard hpc =>
    rw [hpc] at hrel
    exact restoreInv_goto hslot hi halive rfl hinv.task hrel fun _ hf => by cases hf
  | unwound hpc =>
    rw [hpc] at hrel
    exact restoreInv_goto hslot hi halive rfl hinv.task (fun _ => trivial)
      fun hclean _ => (hrel hclean).elim
  | panic hpanic =>
    exact restoreInv_goto hslot hi halive rfl hinv.task (fun hf => by cases hf)
      fun hf => by cases hf

/-- The controller does not move a thread. -/
theorem controllerStep_pcs {Pc : Type} {finished : Pc → Bool} {w v : PollingThreads Pc}
    {a : ControllerAct} (h : w.controllerStep finished a = some v) :
    v.threads.map Thread.pc = w.threads.map Thread.pc := by
  cases a with
  | beginCleanup | deactivate =>
    simp only [PollingThreads.controllerStep] at h
    split at h
    · split at h <;> cases h <;> rfl
    · cases h
  | clear =>
    simp only [PollingThreads.controllerStep] at h
    split at h <;> cases h
    rfl
  | send =>
    simp only [PollingThreads.controllerStep] at h
    split at h
    · split at h <;> cases h <;> exact PollingThreads.pcs_modify _ _ fun _ => rfl
    · cases h
  | join =>
    simp only [PollingThreads.controllerStep] at h
    split at h
    · split at h <;> cases h
      rfl
    · cases h

/-- So what holds of all threads still does. -/
theorem forall_controllerStep {P : UpdatePc → Prop} {workers : PollingThreads UpdatePc}
    {a : ControllerAct} (h : s.workers.controllerStep UpdatePc.isFinished a = some workers) :
    (∀ thread ∈ workers.threads, P thread.pc) ↔ ∀ thread ∈ s.workers.threads, P thread.pc := by
  have hmap : ∀ threads : List (Thread UpdatePc),
      (∀ thread ∈ threads, P thread.pc) ↔ ∀ pc ∈ threads.map Thread.pc, P pc := by simp
  rw [hmap, controllerStep_pcs h, ← hmap]

/-- After `activate`, the threads are those from before, and one more where the slot was empty. -/
theorem mem_activated {Pc : Type} {w : PollingThreads Pc} {first : Pc} {layer : PollingLayer}
    {thread : Thread Pc} (h : thread ∈ (w.activated first layer).threads) :
    thread ∈ w.threads ∨ (w.layer.worker.isSome = false ∧ thread = { pc := first }) := by
  simp only [PollingThreads.activated] at h
  split at h
  · rename_i hspawn
    simp only [Bool.and_eq_true] at hspawn
    rcases List.mem_append.1 h with hold | hnew
    · exact .inl hold
    · exact .inr ⟨by simpa using hspawn.1, List.mem_singleton.1 hnew⟩
  · exact .inl h

theorem mem_activated_of_mem {Pc : Type} {w : PollingThreads Pc} {first : Pc} {layer : PollingLayer}
    {thread : Thread Pc} (h : thread ∈ w.threads) : thread ∈ (w.activated first layer).threads := by
  simp only [PollingThreads.activated]
  split
  · exact List.mem_append_left _ h
  · exact h

/-- A cycle starts when all threads have finished. -/
theorem all_finished_of_idle (hslot : SlotInv (s.workers.view UpdatePc.stage))
    (hidle : s.workers.controller = .idle) (hnone : s.workers.layer.worker.isSome = false) :
    ∀ thread ∈ s.workers.threads, thread.pc = .finished :=
  all_finished hslot (by simp [PollingThreads.view, hnone]) (by simp [PollingThreads.view, hidle])

end

/-- Nobody else disables or removes the task. -/
def UpdateAct.Benign : UpdateAct → Prop
  | .external task => task = .present true
  | _ => True

/-- An activation that starts a cycle finds the task enabled. -/
def StartsEnabled (s : UpdateSt) : UpdateAct → Prop
  | .activate _ => s.workers.layer.worker.isSome = false → s.task = .present true
  | _ => True

section
variable {s t : UpdateSt}

theorem updateStep_restoreInv {a : UpdateAct} (hinv : RestoreInv s)
    (hslot : SlotInv (s.workers.view UpdatePc.stage)) (hbenign : a.Benign)
    (hstart : StartsEnabled s a) (h : updateStep s a = some t) : RestoreInv t := by
  cases a with
  | activate o =>
    simp only [updateStep] at h
    split at h
    · rename_i hidle
      split at h <;> cases h
      · rename_i hsome
        refine ⟨hinv.task, fun hclean thread hmem => ?_, fun hclean hall => ?_⟩
        · rcases mem_activated hmem with hold | ⟨hnone, -⟩
          · exact hinv.threads hclean thread hold
          · rw [hsome] at hnone
            cases hnone
        · exact hinv.settled hclean fun thread hmem => hall thread (mem_activated_of_mem hmem)
      · rename_i hsome
        have hnone : s.workers.layer.worker.isSome = false := by simpa using hsome
        have henabled := hstart hnone
        refine ⟨hinv.task, fun _ thread hmem => ?_, fun _ _ => henabled⟩
        rcases mem_activated hmem with hold | ⟨-, rfl⟩
        · rw [all_finished_of_idle hslot hidle hnone thread hold]
          trivial
        · exact ⟨henabled, fun hp => if_neg (by simp [show s.poisoned = false from hp])⟩
    · cases h
  | controller a =>
    obtain ⟨workers, hstep, rfl⟩ := Option.map_eq_some_iff.1 h
    refine ⟨hinv.task, fun hclean => ?_, fun hclean hall => ?_⟩
    · exact (forall_controllerStep hstep).2 (hinv.threads hclean)
    · exact hinv.settled hclean ((forall_controllerStep (P := (· = .finished)) hstep).1 hall)
  | thread i a =>
    simp only [updateStep] at h
    split at h
    · rename_i thread hi
      exact workerStep_restoreInv hinv hslot hi (updateThreadStep_cases h)
    · cases h
  | external task =>
    cases h
    cases hbenign
    refine ⟨⟨true, rfl⟩, fun hclean thread hmem => ?_, fun _ _ => rfl⟩
    exact (hinv.threads hclean thread hmem).enabled

end

/-! ## A cycle that first sees the task disabled -/

/-- On the way to an entry of the restore state, or to enabling the task. -/
def UpdatePc.restoring : UpdatePc → Bool
  | .disable _ true => true
  | .restoreQuery => true
  | .restoreEnable => true
  | _ => false

/-- Past the lock of the restore state. -/
def UpdatePc.looking : UpdatePc → Bool
  | .query _ => true
  | .disable _ _ => true
  | .restoreQuery => true
  | .restoreEnable => true
  | _ => false

structure FirstLook (s : UpdateSt) : Prop where
  untouched : s.firstSeen ≠ some true → s.reenabled = false
  restore : s.firstSeen ≠ some true → s.poisoned = false → s.restore = ⟨s.firstSeen.isSome, false⟩
  calm : s.firstSeen ≠ some true → ∀ thread ∈ s.workers.threads, thread.pc.restoring = false
  /-- Nobody gets past a poisoned lock. -/
  locked : s.poisoned = true → ∀ thread ∈ s.workers.threads, thread.pc.looking = false

section
variable {s t u : UpdateSt} {i : Nat} {thread : Thread UpdatePc} {pc : UpdatePc}

/-- A thread goes on without touching what the invariant is about. -/
theorem FirstLook.goto (hinv : FirstLook s) (hslot : SlotInv (s.workers.view UpdatePc.stage))
    (hi : s.workers.threads[i]? = some thread) (halive : thread.pc ≠ .finished)
    (hthreads : u.workers.threads = s.workers.threads)
    (hsame : (u.firstSeen, u.reenabled, u.restore, u.poisoned) =
      (s.firstSeen, s.reenabled, s.restore, s.poisoned))
    (hcalm : s.firstSeen ≠ some true → pc.restoring = false)
    (hlocked : s.poisoned = true → pc.looking = false) : FirstLook (u.goto i thread pc) := by
  simp only [Prod.mk.injEq] at hsame
  obtain ⟨hseen, hre, hrestore, hp⟩ := hsame
  refine ⟨?_, ?_, fun hn => ?_, fun hp' => ?_⟩
  · simpa [UpdateSt.goto, hseen, hre] using hinv.untouched
  · simpa [UpdateSt.goto, hseen, hrestore, hp] using hinv.restore
  · refine forall_goto (P := fun pc => pc.restoring = false) hslot hi halive rfl hthreads (hcalm ?_)
    simpa [UpdateSt.goto, hseen] using hn
  · refine forall_goto (P := fun pc => pc.looking = false) hslot hi halive rfl hthreads (hlocked ?_)
    simpa [UpdateSt.goto, hp] using hp'

/-- After a first look at an enabled task nothing is promised. -/
theorem FirstLook.of_enabled (hseen : s.firstSeen = some true) (hp : s.poisoned = false) :
    FirstLook s :=
  ⟨fun hn => absurd hseen hn, fun hn => absurd hseen hn, fun hn => absurd hseen hn, by simp [hp]⟩

theorem restoring_afterEnsure (initial ok : Bool) :
    (UpdatePc.afterEnsure initial ok).restoring = false := by
  cases initial <;> cases ok <;> rfl

theorem looking_afterEnsure (initial ok : Bool) :
    (UpdatePc.afterEnsure initial ok).looking = false := by
  cases initial <;> cases ok <;> rfl

theorem callStep_firstLook (hinv : FirstLook s) (hslot : SlotInv (s.workers.view UpdatePc.stage))
    (hi : s.workers.threads[i]? = some thread) (h : CallStep s i thread t) : FirstLook t := by
  have halive := h.alive
  have hmem := List.mem_of_getElem? hi
  have hcalm : thread.pc.restoring = true → s.firstSeen = some true := by
    intro hrestoring
    by_contra hn
    rw [hinv.calm hn thread hmem] at hrestoring
    cases hrestoring
  have hlocked : thread.pc.looking = true → s.poisoned = false := by
    intro hlooking
    by_contra hp
    rw [hinv.locked (by simpa using hp) thread hmem] at hlooking
    cases hlooking
  have hafter : ∀ initial ok (u : UpdateSt), u.workers.threads = s.workers.threads →
      (u.firstSeen, u.reenabled, u.restore, u.poisoned) =
        (s.firstSeen, s.reenabled, s.restore, s.poisoned) →
      FirstLook (u.goto i thread (.afterEnsure initial ok)) := fun initial ok u hthreads hsame =>
    hinv.goto hslot hi halive hthreads hsame (fun _ => restoring_afterEnsure ..) fun _ =>
      looking_afterEnsure ..
  have hfinished : ∀ u : UpdateSt, u.workers.threads = s.workers.threads →
      (u.firstSeen, u.reenabled, u.restore, u.poisoned) =
        (s.firstSeen, s.reenabled, s.restore, s.poisoned) →
      FirstLook (u.goto i thread .finished) := fun u hthreads hsame =>
    hinv.goto hslot hi halive hthreads hsame (fun _ => rfl) fun _ => rfl
  cases h with
  | lookupPoisoned hpc hp => exact hafter _ _ s rfl rfl
  | lookupFails hpc | queryFails hpc | disableFails hpc =>
    exact hafter _ _ { s with clean := false } rfl rfl
  | lookupFound hpc hp htask =>
    exact hinv.goto hslot hi halive rfl rfl (fun _ => rfl) fun hp' => by simp [hp] at hp'
  | lookupMissing hpc htask => exact hafter _ _ s rfl rfl
  | @queryFirst initial enabled hpc htask hrecorded =>
    have hp : s.poisoned = false := hlocked (by rw [hpc]; rfl)
    cases hseen : s.firstSeen with
    | none =>
      cases enabled with
      | true => exact .of_enabled (by simp [UpdateSt.goto]) hp
      | false =>
        have hrestore := hinv.restore (by simp [hseen]) hp
        refine ⟨fun _ => hinv.untouched (by simp [hseen]), fun _ _ => ?_, fun _ => ?_,
          fun hp' => ?_⟩
        · simp [UpdateSt.goto, hseen, hrestore]
        · exact forall_goto (P := fun pc => pc.restoring = false) hslot hi halive rfl rfl
            (restoring_afterEnsure ..)
        · simp [UpdateSt.goto, hp] at hp'
    | some seen =>
      cases seen with
      | true => exact .of_enabled (by simp [UpdateSt.goto]) hp
      | false =>
        rw [hinv.restore (by simp [hseen]) hp, hseen] at hrecorded
        cases hrecorded
  | @queryAgain initial enabled hpc htask hrecorded =>
    have hp : s.poisoned = false := hlocked (by rw [hpc]; rfl)
    cases hseen : s.firstSeen with
    | none =>
      rw [hinv.restore (by simp [hseen]) hp, hseen] at hrecorded
      cases hrecorded
    | some seen =>
      cases seen with
      | true => exact .of_enabled (by simp [UpdateSt.goto]) hp
      | false =>
        refine hinv.goto hslot hi halive rfl (by simp [hseen]) (fun _ => ?_) fun hp' => ?_
        · cases enabled
          · exact restoring_afterEnsure ..
          · rfl
        · rw [hp] at hp'
          cases hp'
  | @disable initial first enabled hpc htask =>
    have hp : s.poisoned = false := hlocked (by rw [hpc]; rfl)
    cases first with
    | true => exact .of_enabled (hcalm (by rw [hpc]; rfl)) hp
    | false => exact hafter _ _ { s with task := .present false } rfl rfl
  | restoreNothing hpc hnone => exact hfinished s rfl rfl
  | restoreFails hpc => exact hfinished { s with clean := false } rfl rfl
  | restoreFound hpc hp hrestore htask =>
    refine hinv.goto hslot hi halive rfl rfl (fun hn => ?_) fun hp' => by simp [hp] at hp'
    rw [hinv.restore hn hp] at hrestore
    cases hrestore
  | restoreMissing hpc htask => exact hfinished s rfl rfl
  | restoreQuery hpc htask =>
    exact .of_enabled (hcalm (by rw [hpc]; rfl)) (hlocked (by rw [hpc]; rfl))
  | restoreEnable hpc htask =>
    exact .of_enabled (hcalm (by rw [hpc]; rfl)) (hlocked (by rw [hpc]; rfl))

theorem workerStep_firstLook {a : UpdateThreadAct} (hinv : FirstLook s)
    (hslot : SlotInv (s.workers.view UpdatePc.stage)) (hi : s.workers.threads[i]? = some thread)
    (h : WorkerStep s i thread a t) : FirstLook t := by
  have halive := h.alive
  cases h with
  | @coInitialize ok hpc =>
    cases ok <;> exact hinv.goto hslot hi halive rfl rfl (fun _ => rfl) fun _ => rfl
  | call hcall => exact callStep_firstLook hinv hslot hi hcall
  | activate hpc | receive hpc | timeout hpc | dropGuard hpc | unwound hpc =>
    exact hinv.goto hslot hi halive rfl rfl (fun _ => rfl) fun _ => rfl
  | @panic pc locked hpanic =>
    -- it may have poisoned the lock, and is past no other one
    have hpc : pc.restoring = false ∧ pc.looking = false := by
      revert hpanic
      cases thread.pc with
      | lookup initial | query initial | disable initial => cases initial <;> rintro ⟨⟩ <;>
          exact ⟨rfl, rfl⟩
      | _ => rintro ⟨⟩ <;> exact ⟨rfl, rfl⟩
    refine ⟨hinv.untouched, fun hn hp => ?_, fun hn => ?_, fun _ => ?_⟩
    · have hclear : s.poisoned = false := by
        simp only [UpdateSt.goto, Bool.or_eq_false_iff] at hp
        exact hp.1
      exact hinv.restore hn hclear
    · exact forall_goto (P := fun pc => pc.restoring = false) hslot hi halive rfl rfl hpc.1
    · exact forall_goto (P := fun pc => pc.looking = false) hslot hi halive rfl rfl hpc.2

theorem updateStep_firstLook {a : UpdateAct} (hinv : FirstLook s)
    (hslot : SlotInv (s.workers.view UpdatePc.stage)) (h : updateStep s a = some t) :
    FirstLook t := by
  cases a with
  | activate o =>
    simp only [updateStep] at h
    split at h
    · rename_i hidle
      split at h <;> cases h
      · rename_i hsome
        have hold : ∀ thread ∈ (s.workers.activated .starting
            (UpdateRebootBlocker.activate o s.workers.layer).2).threads,
            thread ∈ s.workers.threads := by
          intro thread hmem
          refine (mem_activated hmem).resolve_right fun hnew => ?_
          rw [hsome] at hnew
          cases hnew.1
        exact ⟨hinv.untouched, hinv.restore,
          fun hn thread hmem => hinv.calm hn thread (hold thread hmem),
          fun hp thread hmem => hinv.locked hp thread (hold thread hmem)⟩
      · rename_i hsome
        have hnone : s.workers.layer.worker.isSome = false := by simpa using hsome
        have hpcs : ∀ thread ∈ (s.workers.activated .starting
            (UpdateRebootBlocker.activate o s.workers.layer).2).threads,
            thread.pc = .finished ∨ thread.pc = .starting := by
          intro thread hmem
          rcases mem_activated hmem with hold | ⟨-, rfl⟩
          · exact .inl (all_finished_of_idle hslot hidle hnone thread hold)
          · exact .inr rfl
        refine ⟨fun _ => rfl, fun _ hp => ?_, fun _ thread hmem => ?_, fun _ thread hmem => ?_⟩
        · simp [show s.poisoned = false from hp]
        · rcases hpcs thread hmem with hpc | hpc <;> rw [hpc] <;> rfl
        · rcases hpcs thread hmem with hpc | hpc <;> rw [hpc] <;> rfl
    · cases h
  | controller a =>
    obtain ⟨workers, hstep, rfl⟩ := Option.map_eq_some_iff.1 h
    refine ⟨hinv.untouched, hinv.restore, fun hn => ?_, fun hp => ?_⟩
    · exact (forall_controllerStep (P := fun pc => pc.restoring = false) hstep).2 (hinv.calm hn)
    · exact (forall_controllerStep (P := fun pc => pc.looking = false) hstep).2 (hinv.locked hp)
  | thread i a =>
    simp only [updateStep] at h
    split at h
    · rename_i thread hi
      exact workerStep_firstLook hinv hslot hi (updateThreadStep_cases h)
    · cases h
  | external task =>
    cases h
    exact ⟨hinv.untouched, hinv.restore, hinv.calm, hinv.locked⟩

end

/-! ## The runs -/

theorem updateStep_slotInv {s t : UpdateSt} {a : UpdateAct}
    (hs : s.workers.Ready ∧ SlotInv (s.workers.view UpdatePc.stage)) (h : updateStep s a = some t) :
    t.workers.Ready ∧ SlotInv (t.workers.view UpdatePc.stage) := by
  obtain ⟨hready, hsteps⟩ := updateStep_view hs.1 h
  exact ⟨hready, hs.2.steps hsteps⟩

theorem updateSt_slotInv_init (task : RebootTask) :
    ({ task } : UpdateSt).workers.Ready ∧
    SlotInv (({ task } : UpdateSt).workers.view UpdatePc.stage) :=
  ⟨PollingThreads.ready_of_idle rfl, PollingThreads.slotInv_init _⟩

/-- In every run that starts with an enabled task and in which nobody else disables it, the task is
enabled after every clean cycle, as long as every cycle starts with an enabled task. In every run at
all, a cycle that first sees the task disabled does not enable it. -/
theorem reboot_task_given_back {task : RebootTask} {as : List UpdateAct} {t : UpdateSt}
    (h : exec updateStep { task } as = some t) :
    (task = .present true → Along updateStep (fun s a => a.Benign ∧ StartsEnabled s a) { task } as →
      t.workers.deactivated = true → t.clean = true → t.task = .present true) ∧
      (t.firstSeen = some false → t.reenabled = false) := by
  constructor
  · intro htask hP hdeactivated hclean
    have hinv : (t.workers.Ready ∧ SlotInv (t.workers.view UpdatePc.stage)) ∧ RestoreInv t := by
      refine inv_of_along
        (I := fun s => (s.workers.Ready ∧ SlotInv (s.workers.view UpdatePc.stage)) ∧
        RestoreInv s) (fun s a t hs hp h => ?_) ⟨updateSt_slotInv_init task, ?_⟩ hP h
      · exact ⟨updateStep_slotInv hs.1 h, updateStep_restoreInv hs.2 hs.1.2 hp.1 hp.2 h⟩
      · exact ⟨⟨true, htask⟩, by simp, fun _ _ => htask⟩
    obtain ⟨hslot, hleaving⟩ := hinv.1.2.stopped hdeactivated
    exact hinv.2.settled hclean (all_finished hinv.1.2 hslot hleaving)
  · intro hseen
    have hinv : (t.workers.Ready ∧ SlotInv (t.workers.view UpdatePc.stage)) ∧ FirstLook t := by
      refine inv_of_exec
        (I := fun s => (s.workers.Ready ∧ SlotInv (s.workers.view UpdatePc.stage)) ∧
        FirstLook s) (fun s a t hs h => ?_) ⟨updateSt_slotInv_init task, ?_⟩ h
      · exact ⟨updateStep_slotInv hs.1 h, updateStep_firstLook hs.2 hs.1.2 h⟩
      · exact ⟨fun _ => rfl, fun _ _ => rfl, by simp, by simp⟩
    exact hinv.2.untouched (by simp [hseen])

/-- A cycle that disables the task; `ok`: it can look it up to restore it. -/
def firstCycle (ok : Bool) : List UpdateAct :=
  [.activate ⟨.ok true, .ok ()⟩, .thread 0 (.coInitialize true), .thread 0 (.call true),
    .thread 0 (.call true), .thread 0 (.call true), .thread 0 .activate, .controller .deactivate,
    .controller .clear, .controller .send, .thread 0 .receive, .thread 0 .dropGuard,
    .thread 0 (.call ok)]

/-- A clean cycle that takes the task as it is. -/
def nextCycle : List UpdateAct :=
  [.controller .join, .activate ⟨.ok true, .ok ()⟩, .thread 1 (.coInitialize true),
    .thread 1 (.call true),
    .thread 1 (.call true), .thread 1 .activate, .controller .deactivate, .controller .clear,
    .controller .send, .thread 1 .receive, .thread 1 .dropGuard, .thread 1 (.call true),
    .controller .join]

/-- A cycle that cannot look the task up at its end leaves it disabled, and so does the clean one
after it. -/
theorem reboot_task_not_given_back :
    ¬ ∀ as t, Along updateStep (fun _ a => a.Benign) { task := .present true } as →
      exec updateStep { task := .present true } as = some t →
      t.workers.deactivated = true → t.clean = true → t.task = .present true := by
  intro hall
  obtain ⟨t, hrun, hdeactivated, hclean, htask⟩ : ∃ t,
      exec updateStep { task := .present true } (firstCycle false ++ nextCycle) = some t ∧
        t.workers.deactivated = true ∧ t.clean = true ∧ t.task = .present false :=
          ⟨_, rfl, rfl, rfl, rfl⟩
  have hbenign : Along updateStep (fun _ a => a.Benign) { task := .present true }
      (firstCycle false ++ nextCycle) := by
    refine along_of_mem fun a hmem s => ?_
    revert a
    simp [firstCycle, nextCycle, UpdateAct.Benign]
  have henabled := hall _ t hbenign hrun hdeactivated hclean
  rw [htask] at henabled
  cases henabled

/-- A clean cycle, during which the task is enabled by someone else and disabled again. -/
def cleanCycle : List UpdateAct :=
  [.activate ⟨.ok true, .ok ()⟩, .thread 0 (.coInitialize true), .thread 0 (.call true),
    .thread 0 (.call true), .thread 0 (.call true), .thread 0 .activate, .external (.present true),
    .thread 0 .timeout, .thread 0 (.call true), .thread 0 (.call true), .thread 0 (.call true),
    .controller .deactivate, .controller .clear, .controller .send, .thread 0 .receive,
    .thread 0 .dropGuard, .thread 0 (.call true), .thread 0 (.call true), .thread 0 (.call true),
    .controller .join]

theorem reboot_task_given_back_clean_cycle :
    ∃ t, exec updateStep { task := .present true } cleanCycle = some t ∧
      t.workers.deactivated = true ∧
      t.clean = true ∧ t.task = .present true := by
  have hP : Along updateStep (fun s a => a.Benign ∧ StartsEnabled s a) { task := .present true }
      cleanCycle := by
    refine .cons (t := _) ⟨trivial, fun _ => rfl⟩ rfl (along_of_mem fun a hmem s => ?_)
    revert a
    simp [UpdateAct.Benign, StartsEnabled]
  obtain ⟨t, hrun, hdeactivated, hclean⟩ :
    ∃ t, exec updateStep { task := .present true } cleanCycle =
      some t ∧ t.workers.deactivated = true ∧ t.clean = true := ⟨_, rfl, rfl, rfl⟩
  exact ⟨t, hrun, hdeactivated, hclean, (reboot_task_given_back hrun).1 rfl hP hdeactivated hclean⟩

end Blocker

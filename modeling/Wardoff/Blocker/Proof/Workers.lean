import Wardoff.Blocker.Local
import Wardoff.Blocker.Update

/-!
# The status of the worker layers is never stale

Each layer is a controller with a slot and its threads (`Machine.Worker`): `view` forgets what is
particular about it, and every step of the layer is a step of the view.

* `PollingThreads.controllerStep_view`: the controller that Layers 3 and 4 share.
* `remoteStep_view`, `updateStep_view`, `localStep_view`: the three layers.
* `worker_status_never_stale`: so the flags can be trusted.
* `TraceHandle.close` is the only way to close a trace, and closes it once (`localStep_closeCalls`).
-/

namespace Blocker

open Machine
open Machine.Worker (Stage View Move Steps SlotInv Sound inv_of_view)

/-! ## The polling layers -/

namespace PollingThreads

variable {Pc : Type} {s t : PollingThreads Pc} {stage : Pc → Stage} {finished : Pc → Bool}

def view (stage : Pc → Stage) (s : PollingThreads Pc) : View where
  active := s.active
  slot := if s.layer.worker.isSome then some (s.threads.length - 1) else none
  leaving := if s.controller = .joining then some (s.threads.length - 1) else none
  stages := s.threads.map fun thread => stage thread.pc
  stopped := s.deactivated

/-- The controller stops a worker only where there is one. -/
def Ready (s : PollingThreads Pc) : Prop :=
  ∀ join, s.controller = .clearing join ∨ s.controller = .sending join →
    s.layer.worker.isSome = true

theorem ready_of_idle (h : s.controller = .idle) : s.Ready := by
  intro join hj
  simp [h] at hj

theorem activated_view {first : Pc} {layer : PollingLayer} (hidle : s.controller = .idle)
    (hfirst : stage first = .before) (hkeep : s.layer.worker.isSome → layer.worker.isSome) :
    (s.activated first layer).Ready ∧
      Steps (s.view stage) ((s.activated first layer).view stage) := by
  refine ⟨ready_of_idle hidle, ?_⟩
  cases hold : s.layer.worker.isSome with
  | true =>
    have hnew := hkeep hold
    have he : (s.activated first layer).view stage = { s.view stage with stopped := false } := by
      simp [activated, view, hold, hnew, ← Option.not_isSome]
    rw [he]
    exact .single .start
  | false =>
    cases hnew : layer.worker.isSome with
    | true =>
      have he : (s.activated first layer).view stage = { s.view stage with
          slot := some (s.view stage).stages.length
          stages := (s.view stage).stages ++ [Stage.before]
          stopped := false } := by
        simp [activated, view, hold, hnew, hidle, hfirst, ← Option.not_isSome]
      rw [he]
      exact .single (.spawn (by simp [view, hold]) (by simp [view, hidle]))
    | false =>
      have he : (s.activated first layer).view stage = { s.view stage with stopped := false } := by
        simp [activated, view, hold, hnew, ← Option.not_isSome]
      rw [he]
      exact .single .start

/-- A message to a thread does not move it. -/
theorem pcs_modify (threads : List (Thread Pc)) (i : Nat) {f : Thread Pc → Thread Pc}
    (hf : ∀ thread, (f thread).pc = thread.pc) :
    (threads.modify i f).map Thread.pc = threads.map Thread.pc := by
  refine List.ext_getElem? fun j => ?_
  simp only [List.getElem?_map, List.getElem?_modify]
  by_cases hij : i = j <;> cases threads[j]? <;> simp [hij, hf]

theorem stages_modify (threads : List (Thread Pc)) (i : Nat) {f : Thread Pc → Thread Pc}
    (hf : ∀ thread, (f thread).pc = thread.pc) :
    ((threads.modify i f).map fun thread => stage thread.pc) = threads.map fun thread =>
      stage thread.pc := by
  simpa [Function.comp_def] using congrArg (List.map stage) (pcs_modify threads i hf)

theorem controllerStep_view {a : ControllerAct}
    (hfinished : ∀ pc, finished pc = true → stage pc = .finished) (hready : s.Ready)
    (h : s.controllerStep finished a = some t) :
    t.Ready ∧ Steps (s.view stage) (t.view stage) := by
  cases a with
  | beginCleanup =>
    simp only [controllerStep] at h
    split at h
    · rename_i hidle
      split at h <;> cases h
      · rename_i hworker
        exact ⟨fun _ _ => hworker, .of_eq (by simp [view, hidle])⟩
      · rename_i hworker
        have hnone : s.layer.worker = none := by simpa using hworker
        refine ⟨ready_of_idle hidle, .of_eq ?_⟩
        simp [view, hidle, PollingLayer.beginForcedShutdownCleanup, hnone]
    · cases h
  | deactivate =>
    simp only [controllerStep] at h
    split at h
    · rename_i hidle
      split at h <;> cases h
      · rename_i hworker
        exact ⟨fun _ _ => hworker, .of_eq (by simp [view, hidle])⟩
      · rename_i hworker
        have hnone : s.layer.worker = none := by simpa using hworker
        refine ⟨ready_of_idle hidle, .single ?_⟩
        have hstop := Worker.Step.stop (v := s.view stage) (by simp [view, hnone])
          (by simp [view, hidle])
        simpa [view, hidle, PollingLayer.deactivate, hnone] using hstop
    · cases h
  | clear =>
    simp only [controllerStep] at h
    split at h <;> cases h
    rename_i join hclearing
    refine ⟨fun _ _ => hready join (.inl hclearing), .single ?_⟩
    have hclear := Worker.Step.clear (v := s.view stage)
    simpa [view, hclearing] using hclear
  | send =>
    simp only [controllerStep] at h
    split at h
    · rename_i join hsending
      have hworker := hready join (.inr hsending)
      split at h <;> cases h
      · refine ⟨fun _ hj => by simp at hj, .single ?_⟩
        have htake := Worker.Step.take (v := s.view stage) (i := s.threads.length - 1)
          (by simp [view, hworker]) (by simp [view, hsending])
        simpa [view, hsending, PollingLayer.deactivate, stages_modify] using htake
      · refine ⟨ready_of_idle rfl, .of_eq ?_⟩
        obtain ⟨worker, hsome⟩ := Option.isSome_iff_exists.1 hworker
        simp [view, hsending, PollingLayer.beginForcedShutdownCleanup, stages_modify, hsome]
    · cases h
  | join =>
    simp only [controllerStep] at h
    split at h
    · rename_i thread hjoining hlast
      split at h <;> cases h
      rename_i hdone
      refine ⟨ready_of_idle rfl, .single ?_⟩
      have hstage : (s.view stage).stages[s.threads.length - 1]? = some .finished := by
        rw [List.getLast?_eq_getElem?] at hlast
        simp [view, hlast, hfinished _ hdone]
      have hjoin := Worker.Step.join (v := s.view stage) (by simp [view, hjoining]) hstage
      simpa [view] using hjoin
    · cases h

/-- One thread makes a step. -/
theorem thread_view {i : Nat} {thread : Thread Pc} {pc : Pc} {active : Bool}
    (hi : s.threads[i]? = some thread)
    (hmove : Move (stage thread.pc, s.active) (stage pc, active)) :
    Steps (s.view stage)
      (view stage { s with active, threads := s.threads.set i { thread with pc } }) := by
  have hstage : (s.view stage).stages[i]? = some (stage thread.pc) := by simp [view, hi]
  have he : view stage { s with active, threads := s.threads.set i { thread with pc } } =
      { s.view stage with active, stages := (s.view stage).stages.set i (stage pc) } := by
    simp [view, List.map_set]
  rw [he]
  exact hmove.steps hstage

theorem slotInv_init (stage : Pc → Stage) : SlotInv (view stage ({} : PollingThreads Pc)) :=
  ⟨by simp [view], .inl rfl, by simp [view], by simp [view]⟩

end PollingThreads

/-! ## Layer 4 -/

def RemotePc.stage : RemotePc → Stage
  | .polling true => .before
  | .activating => .before
  | .polling false => .guarded
  | .waiting => .guarded
  | .leaving => .guarded
  | .unwinding => .guarded
  | .finished => .finished

theorem remoteThreadStep_move {active active' : Bool} {thread : Thread RemotePc}
    {a : RemoteThreadAct} {pc : RemotePc}
    (h : remoteThreadStep active thread a = some (pc, active')) :
    Move (thread.pc.stage, active) (pc.stage, active') := by
  cases a with
  | poll outcome =>
    simp only [remoteThreadStep] at h
    split at h <;> cases h
    · rename_i hpc
      rw [hpc]
      cases pollRemoteShutdown outcome <;> exact .goOn (by decide) (by decide) (by decide)
    · rename_i hpc
      rw [hpc]
      cases pollRemoteShutdown outcome <;> exact .stay
  | activate =>
    simp only [remoteThreadStep] at h
    split at h <;> cases h
    rename_i hpc
    rw [hpc]
    exact .enter
  | receive =>
    simp only [remoteThreadStep] at h
    split at h
    · rename_i hpc
      rw [hpc]
      split at h <;> cases h
      exact .stay
    · cases h
  | timeout =>
    simp only [remoteThreadStep] at h
    split at h
    · rename_i hpc
      rw [hpc]
      split at h <;> cases h
      exact .stay
    · cases h
  | dropGuard =>
    simp only [remoteThreadStep] at h
    split at h <;> cases h <;> (rename_i hpc; rw [hpc]; exact .leave (by decide))
  | panic =>
    simp only [remoteThreadStep] at h
    split at h <;> cases h <;> rename_i hpc <;> rw [hpc]
    · exact .goOn (by decide) (by decide) (by decide)
    · exact .goOn (by decide) (by decide) (by decide)
    · exact .stay
    · exact .stay
    · exact .stay

theorem remoteStep_view {s t : PollingThreads RemotePc} {a : RemoteAct} (hready : s.Ready)
    (h : remoteStep s a = some t) :
    t.Ready ∧ Steps (s.view RemotePc.stage) (t.view RemotePc.stage) := by
  cases a with
  | activate spawn =>
    simp only [remoteStep] at h
    split at h <;> cases h
    rename_i hidle
    have hkeep : s.layer.worker.isSome →
        (RemoteShutdownBlocker.activate spawn s.layer).2.worker.isSome := by
      intro hsome
      simp [RemoteShutdownBlocker.activate, hsome]
    exact PollingThreads.activated_view hidle rfl hkeep
  | controller a =>
    exact PollingThreads.controllerStep_view
      (by simp [RemotePc.isFinished, RemotePc.stage]) hready h
  | thread i a =>
    simp only [remoteStep] at h
    split at h
    · rename_i thread hi
      obtain ⟨⟨pc, active⟩, hstep, rfl⟩ := Option.map_eq_some_iff.1 h
      exact ⟨hready, PollingThreads.thread_view hi (remoteThreadStep_move hstep)⟩
    · cases h

/-! ## Layer 3 -/

def UpdatePc.stage : UpdatePc → Stage
  | .starting => .before
  | .lookup true => .before
  | .query true => .before
  | .disable true _ => .before
  | .activating => .before
  | .lookup false => .guarded
  | .query false => .guarded
  | .disable false _ => .guarded
  | .waiting => .guarded
  | .leaving => .guarded
  | .unwinding => .guarded
  | .restoreLookup => .after
  | .restoreQuery => .after
  | .restoreEnable => .after
  | .finished => .finished

section
variable {s t : UpdateSt} {i : Nat} {thread : Thread UpdatePc}

/-- What a call of the Task Scheduler can do, with what follows it. -/
inductive CallStep (s : UpdateSt) (i : Nat) (thread : Thread UpdatePc) : UpdateSt → Prop where
  | lookupPoisoned {initial : Bool} (hpc : thread.pc = .lookup initial) (hp : s.poisoned = true) :
    CallStep s i thread (s.goto i thread (.afterEnsure initial false))
  | lookupFails {initial : Bool} (hpc : thread.pc = .lookup initial) :
    CallStep s i thread (s.ensureFails i thread initial)
  | lookupFound {initial enabled : Bool} (hpc : thread.pc = .lookup initial)
      (hp : s.poisoned = false)
      (htask : s.task = .present enabled) : CallStep s i thread (s.goto i thread (.query initial))
  | lookupMissing {initial : Bool} (hpc : thread.pc = .lookup initial)
      (htask : ∀ enabled, s.task ≠ .present enabled) :
    CallStep s i thread (s.goto i thread (.afterEnsure initial false))
  | queryFails {initial : Bool} (hpc : thread.pc = .query initial) :
    CallStep s i thread (s.ensureFails i thread initial)
  | queryFirst {initial enabled : Bool} (hpc : thread.pc = .query initial)
      (htask : s.task = .present enabled) (hrecorded : s.restore.originalStateRecorded = false) :
    CallStep s i thread ({ s with
      firstSeen := s.firstSeen.or (some enabled)
      restore := { s.restore with originalStateRecorded := true } }.goto i thread
        (if enabled then .disable initial true else .afterEnsure initial true))
  | queryAgain {initial enabled : Bool} (hpc : thread.pc = .query initial)
      (htask : s.task = .present enabled) (hrecorded : s.restore.originalStateRecorded = true) :
    CallStep s i thread ({ s with firstSeen := s.firstSeen.or (some enabled) }.goto i thread
      (if enabled then .disable initial false else .afterEnsure initial true))
  | disableFails {initial first : Bool} (hpc : thread.pc = .disable initial first) :
    CallStep s i thread (s.ensureFails i thread initial)
  | disable {initial first enabled : Bool} (hpc : thread.pc = .disable initial first)
      (htask : s.task = .present enabled) :
    CallStep s i thread ({ s with
      task := .present false
      restore := if first then { s.restore with restoreEnabledOnExit := true }
        else s.restore }.goto i
        thread (.afterEnsure initial true))
  | restoreNothing (hpc : thread.pc = .restoreLookup)
      (hnone : s.poisoned = true ∨ s.restore.restoreEnabledOnExit = false) :
    CallStep s i thread (s.goto i thread .finished)
  | restoreFails (hpc : thread.pc = .restoreLookup ∨ thread.pc = .restoreQuery ∨
        thread.pc = .restoreEnable) : CallStep s i thread (s.restoreFails i thread)
  | restoreFound {enabled : Bool} (hpc : thread.pc = .restoreLookup) (hp : s.poisoned = false)
      (hrestore : s.restore.restoreEnabledOnExit = true) (htask : s.task = .present enabled) :
    CallStep s i thread (s.goto i thread .restoreQuery)
  | restoreMissing (hpc : thread.pc = .restoreLookup)
      (htask : ∀ enabled, s.task ≠ .present enabled) :
    CallStep s i thread (s.goto i thread .finished)
  | restoreQuery {enabled : Bool} (hpc : thread.pc = .restoreQuery)
      (htask : s.task = .present enabled) :
    CallStep s i thread (s.goto i thread (if enabled then .finished else .restoreEnable))
  | restoreEnable {enabled : Bool} (hpc : thread.pc = .restoreEnable)
      (htask : s.task = .present enabled) :
    CallStep s i thread
      ({ s with task := .present true, reenabled := true }.goto i thread .finished)

theorem updateCall_cases {ok : Bool} (h : updateCall s i thread ok = some t) :
    CallStep s i thread t := by
  unfold updateCall at h
  split at h
  · rename_i initial hpc
    split_ifs at h with hp hok
    · cases h; exact .lookupPoisoned hpc hp
    · cases h; exact .lookupFails hpc
    · split at h <;> cases h
      · exact .lookupFound hpc (by simpa using hp) ‹_›
      · exact .lookupMissing hpc (by simp [*])
      · exact .lookupMissing hpc (by simp [*])
  · rename_i initial hpc
    split at h
    · rename_i enabled htask
      cases hrec : s.restore.originalStateRecorded with
      | false =>
        simp only [hrec, Bool.not_false, if_true] at h
        have hstep := CallStep.queryFirst (i := i) hpc htask hrec
        cases enabled <;> (cases h; exact hstep)
      | true =>
        simp only [hrec, Bool.not_true, Bool.false_eq_true, if_false] at h
        have hstep := CallStep.queryAgain (i := i) hpc htask hrec
        cases enabled <;> (cases h; exact hstep)
    · cases h
    · cases h; exact .queryFails hpc
  · rename_i initial first hpc
    split at h <;> cases h
    · exact .disable hpc ‹_›
    · exact .disableFails hpc
  · rename_i hpc
    split_ifs at h with hnone hok
    · cases h; exact .restoreNothing hpc (by simpa using hnone)
    · cases h; exact .restoreFails (.inl hpc)
    · simp only [Bool.or_eq_true, Bool.not_eq_eq_eq_not, Bool.not_true, not_or,
        Bool.not_eq_false] at hnone
      split at h <;> cases h
      · exact .restoreFound hpc (by simpa using hnone.1) hnone.2 ‹_›
      · exact .restoreMissing hpc (by simp [*])
      · exact .restoreMissing hpc (by simp [*])
  · rename_i hpc
    split at h <;> cases h
    · exact .restoreQuery hpc ‹_›
    · exact .restoreFails (.inr (.inl hpc))
  · rename_i hpc
    split at h <;> cases h
    · exact .restoreEnable hpc ‹_›
    · exact .restoreFails (.inr (.inr hpc))
  · cases h

/-- What a step of a worker can do. -/
inductive WorkerStep (s : UpdateSt) (i : Nat) (thread : Thread UpdatePc) :
    UpdateThreadAct → UpdateSt → Prop where
  | coInitialize {ok : Bool} (hpc : thread.pc = .starting) :
    WorkerStep s i thread (.coInitialize ok)
      (s.goto i thread (if ok then .lookup true else .finished))
  | call {ok : Bool} {t : UpdateSt} (hcall : CallStep s i thread t) :
      WorkerStep s i thread (.call ok) t
  | activate (hpc : thread.pc = .activating) :
    WorkerStep s i thread .activate
      ({ s with workers := { s.workers with active := true } }.goto i thread .waiting)
  | receive (hpc : thread.pc = .waiting) : WorkerStep s i thread .receive (s.goto i thread .leaving)
  | timeout (hpc : thread.pc = .waiting) :
    WorkerStep s i thread .timeout (s.goto i thread (.lookup false))
  | dropGuard (hpc : thread.pc = .leaving) :
    WorkerStep s i thread .dropGuard
      ({ s with workers := { s.workers with active := false } }.goto i thread .restoreLookup)
  | unwound (hpc : thread.pc = .unwinding) :
    WorkerStep s i thread .dropGuard
      ({ s with workers := { s.workers with active := false } }.goto i thread .finished)
  | panic {pc : UpdatePc} {locked : Bool} (hpanic : thread.pc.afterPanic = some (pc, locked)) :
    WorkerStep s i thread .panic
      ({ s with poisoned := s.poisoned || locked, clean := false }.goto i thread pc)

theorem updateThreadStep_cases {a : UpdateThreadAct} (h : updateThreadStep s i thread a = some t) :
    WorkerStep s i thread a t := by
  cases a with
  | coInitialize ok =>
    simp only [updateThreadStep] at h
    split at h <;> cases h
    exact .coInitialize ‹_›
  | call ok => exact .call (updateCall_cases h)
  | activate =>
    simp only [updateThreadStep] at h
    split at h <;> cases h
    exact .activate ‹_›
  | receive =>
    simp only [updateThreadStep] at h
    split at h
    · split at h <;> cases h
      exact .receive ‹_›
    · cases h
  | timeout =>
    simp only [updateThreadStep] at h
    split at h
    · split at h <;> cases h
      exact .timeout ‹_›
    · cases h
  | dropGuard =>
    simp only [updateThreadStep] at h
    split at h <;> cases h
    · exact .dropGuard ‹_›
    · exact .unwound ‹_›
  | panic =>
    simp only [updateThreadStep] at h
    split at h <;> cases h
    exact .panic ‹_›

/-- After `ensure_reboot_task_disabled` a thread is where it was before, seen from the guarded
section, or it has finished. -/
theorem move_afterEnsure {pc : UpdatePc} {initial ok active : Bool}
    (hpc : pc.stage = if initial then .before else .guarded) :
    Move (pc.stage, active) ((UpdatePc.afterEnsure initial ok).stage, active) := by
  rw [hpc]
  cases initial <;> cases ok
  · exact .stay
  · exact .stay
  · exact .goOn (by decide) (by decide) (by decide)
  · exact .stay

theorem afterPanic_move {pc pc' : UpdatePc} {locked active : Bool}
    (h : pc.afterPanic = some (pc', locked)) :
    Move (pc.stage, active) (pc'.stage, active) := by
  cases pc with
  | starting => cases h; exact .goOn (by decide) (by decide) (by decide)
  | lookup initial | query initial =>
    cases initial <;> cases h
    · exact .stay
    · exact .goOn (by decide) (by decide) (by decide)
  | disable initial first =>
    cases initial <;> cases h
    · exact .stay
    · exact .goOn (by simp [UpdatePc.stage]) (by simp [UpdatePc.stage]) (by decide)
  | activating => cases h; exact .goOn (by decide) (by decide) (by decide)
  | waiting | leaving => cases h; exact .stay
  | restoreLookup | restoreQuery | restoreEnable =>
    cases h; exact .goOn (by decide) (by decide) (by decide)
  | unwinding | finished => cases h

theorem callStep_move (h : CallStep s i thread t) :
    ∃ pc, t.workers = { s.workers with threads := s.workers.threads.set i { thread with pc } } ∧
      ∀ active, Move (thread.pc.stage, active) (pc.stage, active) := by
  cases h with
  | @lookupPoisoned initial hpc hp =>
    exact ⟨_, rfl, fun _ => move_afterEnsure (by rw [hpc]; cases initial <;> rfl)⟩
  | @lookupFails initial hpc =>
    exact ⟨_, rfl, fun _ => move_afterEnsure (by rw [hpc]; cases initial <;> rfl)⟩
  | @lookupFound initial enabled hpc hp htask =>
    refine ⟨_, rfl, fun _ => ?_⟩
    rw [hpc]
    cases initial <;> exact .stay
  | @lookupMissing initial hpc htask =>
    exact ⟨_, rfl, fun _ => move_afterEnsure (by rw [hpc]; cases initial <;> rfl)⟩
  | @queryFails initial hpc =>
    exact ⟨_, rfl, fun _ => move_afterEnsure (by rw [hpc]; cases initial <;> rfl)⟩
  | @queryFirst initial enabled hpc htask hrecorded =>
    refine ⟨_, rfl, fun _ => ?_⟩
    rw [hpc]
    cases enabled <;> cases initial <;> exact .stay
  | @queryAgain initial enabled hpc htask hrecorded =>
    refine ⟨_, rfl, fun _ => ?_⟩
    rw [hpc]
    cases enabled <;> cases initial <;> exact .stay
  | @disableFails initial first hpc =>
    exact ⟨_, rfl, fun _ => move_afterEnsure (by rw [hpc]; cases initial <;> rfl)⟩
  | @disable initial first enabled hpc htask =>
    exact ⟨_, rfl, fun _ => move_afterEnsure (by rw [hpc]; cases initial <;> rfl)⟩
  | restoreNothing hpc hnone =>
    refine ⟨_, rfl, fun _ => ?_⟩
    rw [hpc]
    exact .goOn (by decide) (by decide) (by decide)
  | restoreFails hpc =>
    refine ⟨_, rfl, fun _ => ?_⟩
    rcases hpc with hpc | hpc | hpc <;> rw [hpc] <;> exact .goOn (by decide) (by decide) (by decide)
  | restoreFound hpc hp hrestore htask =>
    refine ⟨_, rfl, fun _ => ?_⟩
    rw [hpc]
    exact .stay
  | restoreMissing hpc htask =>
    refine ⟨_, rfl, fun _ => ?_⟩
    rw [hpc]
    exact .goOn (by decide) (by decide) (by decide)
  | @restoreQuery enabled hpc htask =>
    refine ⟨_, rfl, fun _ => ?_⟩
    rw [hpc]
    cases enabled
    · exact .stay
    · exact .goOn (by decide) (by decide) (by decide)
  | restoreEnable hpc htask =>
    refine ⟨_, rfl, fun _ => ?_⟩
    rw [hpc]
    exact .goOn (by decide) (by decide) (by decide)

theorem workerStep_move {a : UpdateThreadAct} (h : WorkerStep s i thread a t) :
    ∃ pc active, t.workers =
        { s.workers with active, threads := s.workers.threads.set i { thread with pc } } ∧
      Move (thread.pc.stage, s.workers.active) (pc.stage, active) := by
  cases h with
  | @coInitialize ok hpc =>
    refine ⟨_, _, rfl, ?_⟩
    rw [hpc]
    cases ok
    · exact .goOn (by decide) (by decide) (by decide)
    · exact .stay
  | call hcall =>
    obtain ⟨pc, hworkers, hmove⟩ := callStep_move hcall
    exact ⟨pc, _, hworkers, hmove _⟩
  | activate hpc => exact ⟨_, _, rfl, by rw [hpc]; exact .enter⟩
  | receive hpc => exact ⟨_, _, rfl, by rw [hpc]; exact .stay⟩
  | timeout hpc => exact ⟨_, _, rfl, by rw [hpc]; exact .stay⟩
  | dropGuard hpc => exact ⟨_, _, rfl, by rw [hpc]; exact .leave (by decide)⟩
  | unwound hpc => exact ⟨_, _, rfl, by rw [hpc]; exact .leave (by decide)⟩
  | panic hpanic => exact ⟨_, _, rfl, afterPanic_move hpanic⟩

theorem updateStep_view {a : UpdateAct} (hready : s.workers.Ready) (h : updateStep s a = some t) :
    t.workers.Ready ∧ Steps (s.workers.view UpdatePc.stage) (t.workers.view UpdatePc.stage) := by
  cases a with
  | activate o =>
    simp only [updateStep] at h
    split at h
    · rename_i hidle
      have hkeep : s.workers.layer.worker.isSome →
          (UpdateRebootBlocker.activate o s.workers.layer).2.worker.isSome := by
        intro hsome
        simp [UpdateRebootBlocker.activate, hsome]
      split at h <;> cases h <;> exact PollingThreads.activated_view hidle rfl hkeep
    · cases h
  | controller a =>
    obtain ⟨workers, hstep, rfl⟩ := Option.map_eq_some_iff.1 h
    exact PollingThreads.controllerStep_view (by simp [UpdatePc.isFinished, UpdatePc.stage])
      hready hstep
  | thread i a =>
    simp only [updateStep] at h
    split at h
    · rename_i thread hi
      obtain ⟨pc, active, hworkers, hmove⟩ := workerStep_move (updateThreadStep_cases h)
      rw [hworkers]
      exact ⟨hready, PollingThreads.thread_view hi hmove⟩
    · cases h
  | external task =>
    cases h
    exact ⟨hready, .refl⟩

end

/-! ## Layer 2 -/

def LocalPc.stage : LocalPc → Stage
  | .starting => .before
  | .abandoning => .before
  | .activating => .before
  | .tracing => .guarded
  | .closing => .guarded
  | .stopping => .guarded
  | .leaving => .guarded
  | .unwinding => .guarded
  | .finished => .finished

namespace LocalSt

variable {s t : LocalSt} {f : Bool}

def view (s : LocalSt) : View where
  active := s.active
  slot := if s.layer.worker.isSome then some (s.threads.length - 1) else none
  leaving := if s.controller = .idle then none else some (s.threads.length - 1)
  stages := s.threads.map fun thread => thread.pc.stage
  stopped := s.deactivated

theorem lastFinished_stage (h : s.lastFinished = true) :
    s.view.stages[s.threads.length - 1]? = some .finished := by
  unfold lastFinished at h
  split at h
  · rename_i thread hlast
    rw [List.getLast?_eq_getElem?] at hlast
    have hpc : thread.pc = .finished := by simpa using h
    simp [view, hlast, hpc, LocalPc.stage]
  · cases h

/-- `cleanup_finished_worker`. -/
theorem cleanupFinishedWorker_view (hguard : s.layer.worker.isSome → f → s.lastFinished) :
    Steps s.view { s with layer := s.layer.cleanupFinishedWorker f }.view := by
  unfold LocalShutdownBlocker.cleanupFinishedWorker
  split
  · rename_i hreap
    simp only [Bool.and_eq_true] at hreap
    have hlast := lastFinished_stage (hguard hreap.1 hreap.2)
    have hstep := Worker.Step.reap (v := s.view) (by simp [view, hreap.1]) hlast
    exact .single (by simpa [view] using hstep)
  · exact .refl

/-- Where there is no worker, `activate` starts one, or none. -/
theorem activated_view (o : LocalCalls) (hidle : s.controller = .idle)
    (hnone : (s.layer.cleanupFinishedWorker o.finished).worker = none) :
    Steps { s with layer := s.layer.cleanupFinishedWorker o.finished }.view
      (s.activated o).view := by
  have hstart := Worker.Step.start
    (v := { s with layer := s.layer.cleanupFinishedWorker o.finished }.view)
  unfold activated
  simp only [hnone, Option.isSome_none, Bool.false_eq_true, if_false]
  split
  · rename_i hpre hsub hspawn
    have hstep := Worker.Step.spawn
      (v := { s with layer := s.layer.cleanupFinishedWorker o.finished }.view)
      (by simp [view, hnone]) (by simp [view, hidle])
    refine .single ?_
    simpa [view, LocalShutdownBlocker.activate, hnone, hpre, hsub, hspawn, hidle, LocalPc.stage]
      using hstep
  · rename_i error hpre hsub hspawn
    refine .single ?_
    simpa [view, LocalShutdownBlocker.activate, hnone, hpre, hsub, hspawn] using hstart
  · rename_i hspawn hfail
    refine .single ?_
    have hlayer : (s.layer.activate o).2.worker = none := by
      unfold LocalShutdownBlocker.activate
      grind
    simpa [view, hlayer, hnone] using hstart

theorem controllerStep_view {a : LocalControllerAct} (h : localControllerStep s a = some t) :
    Steps s.view t.view := by
  cases a with
  | activate o =>
    simp only [localControllerStep] at h
    split at h
    · rename_i hidle
      split_ifs at h with hguard
      cases h
      have hclean := cleanupFinishedWorker_view (s := s) (f := o.finished) (by simpa using hguard)
      cases hworker : (s.layer.cleanupFinishedWorker o.finished).worker with
      | none => exact hclean.trans (activated_view o hidle hworker)
      | some worker =>
        have hstart := Worker.Step.start
          (v := { s with layer := s.layer.cleanupFinishedWorker o.finished }.view)
        refine hclean.trans (.single ?_)
        simpa [activated, view, LocalShutdownBlocker.activate, hworker] using hstart
    · cases h
  | deactivate finished =>
    simp only [localControllerStep] at h
    split at h
    · rename_i hidle
      split_ifs at h with hguard hworker
      · cases h
        have hclean := cleanupFinishedWorker_view (s := s) (f := finished) (by simpa using hguard)
        have htake := Worker.Step.take
          (v := { s with layer := s.layer.cleanupFinishedWorker finished }.view)
          (i := s.threads.length - 1) (by simp [view, hworker]) (by simp [view, hidle])
        refine hclean.trans (.single ?_)
        simpa [view, LocalShutdownBlocker.deactivate] using htake
      · cases h
        have hclean := cleanupFinishedWorker_view (s := s) (f := finished) (by simpa using hguard)
        have hstop := Worker.Step.stop
          (v := { s with layer := s.layer.cleanupFinishedWorker finished }.view)
          (by simp [view, hworker]) (by simp [view, hidle])
        refine hclean.trans (.single ?_)
        simpa [view, LocalShutdownBlocker.deactivate, hworker] using hstop
    · cases h
  | clear =>
    simp only [localControllerStep] at h
    split at h <;> cases h
    rename_i hclearing
    have hclear := Worker.Step.clear (v := s.view)
    exact .single (by simpa [view, hclearing] using hclear)
  | stopSession =>
    simp only [localControllerStep] at h
    split at h <;> cases h
    rename_i hstopping
    exact .of_eq (by simp [view, hstopping])
  | cancel =>
    simp only [localControllerStep] at h
    split at h <;> cases h
    rename_i hcancelling hlast
    exact .of_eq (by simp [view, hcancelling])
  | join =>
    simp only [localControllerStep] at h
    split at h
    · rename_i hjoining
      split_ifs at h with hlast
      cases h
      have hjoin := Worker.Step.join (v := s.view) (by simp [view, hjoining])
        (lastFinished_stage hlast)
      exact .single (by simpa [view] using hjoin)
    · cases h

end LocalSt

section
variable {s t : LocalSt} {i : Nat} {thread : LocalThread}

theorem localThreadStep_move {a : LocalThreadAct} (h : localThreadStep s i thread a = some t) :
    ∃ pc active handles,
      t = { s with active, handles, threads := s.threads.set i { thread with pc } } ∧
        Move (thread.pc.stage, s.active) (pc.stage, active) := by
  cases a with
  | readHandle =>
    simp only [localThreadStep] at h
    split at h <;> cases h
    rename_i handle hpc hhandle
    refine ⟨_, _, _, rfl, ?_⟩
    rw [hpc]
    cases handle.shared <;> exact .stay
  | activate =>
    simp only [localThreadStep] at h
    split at h <;> cases h
    rename_i hpc
    exact ⟨_, _, _, rfl, by rw [hpc]; exact .enter⟩
  | traceEnds =>
    simp only [localThreadStep] at h
    split at h <;> cases h
    rename_i hpc
    exact ⟨_, _, _, rfl, by rw [hpc]; exact .stay⟩
  | close =>
    simp only [localThreadStep] at h
    split at h <;> cases h
    rename_i hpc
    exact ⟨_, _, _, rfl, by rw [hpc]; exact .stay⟩
  | stopSession =>
    simp only [localThreadStep] at h
    split at h <;> cases h
    · rename_i hpc
      exact ⟨_, _, _, rfl, by rw [hpc]; exact .goOn (by decide) (by decide) (by decide)⟩
    · rename_i hpc
      exact ⟨_, _, _, rfl, by rw [hpc]; exact .stay⟩
  | dropGuard =>
    simp only [localThreadStep] at h
    split at h <;> cases h
    · rename_i hpc
      exact ⟨_, _, _, rfl, by rw [hpc]; exact .leave (by decide)⟩
    · rename_i hpc
      exact ⟨_, _, _, rfl, by rw [hpc]; exact .leave (by decide)⟩
  | panic =>
    obtain ⟨pc, hpc, rfl⟩ := Option.map_eq_some_iff.1 h
    refine ⟨pc, s.active, s.handles, rfl, ?_⟩
    revert hpc
    cases thread.pc <;> intro hpc <;> cases hpc
    · exact .goOn (by decide) (by decide) (by decide)
    · exact .goOn (by decide) (by decide) (by decide)
    · exact .goOn (by decide) (by decide) (by decide)
    · exact .stay
    · exact .stay
    · exact .stay
    · exact .stay

theorem localStep_view {a : LocalAct} (h : localStep s a = some t) : Steps s.view t.view := by
  cases a with
  | controller a => exact LocalSt.controllerStep_view h
  | thread i a =>
    simp only [localStep] at h
    split at h
    · rename_i thread hi
      obtain ⟨pc, active, handles, rfl, hmove⟩ := localThreadStep_move h
      have hstage : s.view.stages[i]? = some thread.pc.stage := by simp [LocalSt.view, hi]
      have hsteps := Move.steps (v := s.view) hstage hmove
      simpa [LocalSt.view, List.map_set] using hsteps
    · cases h

theorem LocalSt.slotInv_init : SlotInv ({} : LocalSt).view :=
  ⟨by simp [view], .inl rfl, by simp [view], by simp [view]⟩

/-! ## The trace handles of Layer 2 -/

/-- A handle that is still shared was not closed, and one that was taken was closed once. -/
def TraceHandle.Once (handle : TraceHandle) : Prop := handle.closeCalls + handle.shared.toNat ≤ 1

theorem TraceHandle.once_new : Once {} := Nat.le_refl 1

theorem TraceHandle.Once.close {handle : TraceHandle} (h : handle.Once) : handle.close.Once := by
  unfold TraceHandle.close
  split
  · rename_i hshared
    simpa [Once, hshared] using h
  · exact h

/-- What a step can do to the handles. -/
theorem localStep_handles {a : LocalAct} (h : localStep s a = some t) :
    t.handles = s.handles ∨
    (∃ handle : TraceHandle, handle.Once ∧ t.handles = s.handles ++ [handle]) ∨
      ∃ j, t.handles = s.handles.modify j TraceHandle.close := by
  cases a with
  | controller a =>
    cases a with
    | activate o =>
      simp only [localStep, localControllerStep] at h
      split at h
      · split_ifs at h
        cases h
        unfold LocalSt.activated
        dsimp only
        split
        · exact .inl rfl
        · split
          · exact .inr (.inl ⟨_, TraceHandle.once_new, rfl⟩)
          · exact .inr (.inl ⟨_, TraceHandle.once_new.close, rfl⟩)
          · exact .inl rfl
      · cases h
    | deactivate finished =>
      simp only [localStep, localControllerStep] at h
      split at h
      · split_ifs at h <;> cases h <;> exact .inl rfl
      · cases h
    | clear | stopSession =>
      simp only [localStep, localControllerStep] at h
      split at h <;> cases h
      exact .inl rfl
    | cancel =>
      simp only [localStep, localControllerStep] at h
      split at h <;> cases h
      exact .inr (.inr ⟨_, rfl⟩)
    | join =>
      simp only [localStep, localControllerStep] at h
      split at h
      · split_ifs at h
        cases h
        exact .inl rfl
      · cases h
  | thread i a =>
    simp only [localStep] at h
    split at h
    · rename_i thread hi
      cases a with
      | close =>
        simp only [localThreadStep] at h
        split at h <;> cases h
        exact .inr (.inr ⟨_, rfl⟩)
      | panic =>
        obtain ⟨pc, hpc, rfl⟩ := Option.map_eq_some_iff.1 h
        exact .inl rfl
      | readHandle | activate | traceEnds | stopSession | dropGuard =>
        simp only [localThreadStep] at h
        split at h <;> cases h <;> exact .inl rfl
    · cases h

theorem localStep_once {a : LocalAct} (hs : ∀ handle ∈ s.handles, handle.Once)
    (h : localStep s a = some t) : ∀ handle ∈ t.handles, handle.Once := by
  rcases localStep_handles h with he | ⟨new, hnew, he⟩ | ⟨j, he⟩ <;> rw [he]
  · exact hs
  · intro handle hmem
    rcases List.mem_append.1 hmem with hold | hlast
    · exact hs handle hold
    · rw [List.mem_singleton.1 hlast]
      exact hnew
  · intro handle hmem
    obtain ⟨k, hk⟩ := List.mem_iff_getElem?.1 hmem
    rw [List.getElem?_modify] at hk
    obtain ⟨old, hold, rfl⟩ := Option.map_eq_some_iff.1 hk
    have honce := hs old (List.mem_of_getElem? hold)
    split
    · exact honce.close
    · exact honce

end

/-! ## The status of the layers -/

/-- In every run of each worker layer at most one of its threads has not finished, `is_active` holds
only while that thread is in its guarded section, and it does not hold from the return of
`deactivate` until the next `activate`. Layer 2 closes no trace handle twice. -/
theorem worker_status_never_stale :
    (∀ as t, exec remoteStep {} as = some t → Sound (t.view RemotePc.stage)) ∧
      (∀ task as t, exec updateStep { task } as = some t → Sound (t.workers.view UpdatePc.stage)) ∧
      ∀ as t, exec localStep {} as = some t →
        Sound t.view ∧ ∀ handle ∈ t.handles, handle.closeCalls ≤ 1 := by
  refine ⟨fun as t h => ?_, fun task as t h => ?_, fun as t h => ⟨?_, ?_⟩⟩
  · have hinv := inv_of_view (fun s a t hs h => remoteStep_view hs h)
      (PollingThreads.ready_of_idle rfl) (PollingThreads.slotInv_init RemotePc.stage) h
    exact hinv.2.sound
  · have hinv : t.workers.Ready ∧ SlotInv (t.workers.view UpdatePc.stage) :=
      inv_of_view (R := fun s : UpdateSt => s.workers.Ready)
        (fun s a t hs h => updateStep_view hs h)
        (PollingThreads.ready_of_idle rfl) (PollingThreads.slotInv_init UpdatePc.stage) h
    exact hinv.2.sound
  · have hinv := inv_of_view (R := fun _ => True) (fun s a t _ h => ⟨trivial, localStep_view h⟩)
      trivial LocalSt.slotInv_init h
    exact hinv.2.sound
  · intro handle hmem
    have honce := inv_of_exec (I := fun s : LocalSt => ∀ handle ∈ s.handles, handle.Once)
      (fun s a t hs h => localStep_once hs h) (by simp) h handle hmem
    unfold TraceHandle.Once at honce
    omega

/-- Layer 4 is told to stop after its thread has polled, but before it sets the flag. -/
def slowStart : List RemoteAct :=
  [.activate (.ok ()), .thread 0 (.poll .noShutdownPending), .controller .deactivate,
    .controller .clear,
    .thread 0 .activate, .controller .send, .thread 0 .receive, .thread 0 .dropGuard,
    .controller .join]

/-- The thread sets the flag all the same, and clears it before `deactivate` returns. -/
theorem worker_status_never_stale_slow_start :
    ∃ t, exec remoteStep {} slowStart = some t ∧ t.deactivated = true ∧ t.isActive = false := by
  have hrun : exec remoteStep {} slowStart =
      some { threads := [⟨.finished, true⟩], deactivated := true } := rfl
  exact ⟨_, hrun, rfl, (worker_status_never_stale.1 _ _ hrun).stopped rfl⟩

end Blocker

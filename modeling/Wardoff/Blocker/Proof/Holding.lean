import Mathlib.Logic.Relation
import Wardoff.Blocker.Proof.Coordinator
import Wardoff.Machine.Holding

/-!
# The power calls of any run of the layer

`SleepStep` is one operation of the sleep layer, `CoordinatorStep` one of the coordinator, whatever
the calls answer.

* `CoordinatorStep.sleep`: what the coordinator does to the layer are operations of the layer.
* `Kept`: the layer holds both requests or nothing, and its calls so far are those of a program that
  holds its object and no other (`holding`). Every operation keeps this (`Kept.step`,
  `CoordinatorSteps.kept`).
-/

namespace Blocker

open Machine Machine.Ledger

variable {Handle : Type} {api : PowerApi Handle} {r : PowerRequests Handle}
    {b b' : SleepBlocker Handle} {h : Handle}

/-! ## Operations -/

/-- One operation of the layer. -/
inductive SleepStep (b : SleepBlocker Handle) : SleepBlocker Handle → Prop where
  | activate (api : PowerApi Handle) : SleepStep b (b.activate api).2
  | deactivate (api : PowerApi Handle) : SleepStep b (b.deactivate api)
  | renewAfterResume (api : PowerApi Handle) : SleepStep b (b.renewAfterResume api).2

abbrev SleepSteps : SleepBlocker Handle → SleepBlocker Handle → Prop :=
  Relation.ReflTransGen SleepStep

/-- One operation of the coordinator, or the window procedure's write to `BLOCKER_ACTIVE`. -/
inductive CoordinatorStep (c : BlockerCoordinator Handle) : BlockerCoordinator Handle → Prop where
  | setMode (o : LayerCalls Handle) (mode : BlockerMode) : CoordinatorStep c (c.setMode o mode).2
  | renew (power : PowerApi Handle) : CoordinatorStep c (c.renewSleepRequestsAfterResume power).2
  | forcedShutdownCleanup (power : PowerApi Handle) :
      CoordinatorStep c (c.forcedShutdownCleanup power)
  | clearBlockerActive :
    CoordinatorStep c
      { c with shutdownBlocker := { c.shutdownBlocker with blockerActive := false } }

abbrev CoordinatorSteps : BlockerCoordinator Handle → BlockerCoordinator Handle → Prop :=
  Relation.ReflTransGen CoordinatorStep

section
variable {c c' : BlockerCoordinator Handle}

theorem activateLayers_sleep (o : LayerCalls Handle) (c : BlockerCoordinator Handle) :
    SleepSteps c.sleepBlocker (c.activateLayers o).2.sleepBlocker := by
  have hsleep : SleepSteps c.sleepBlocker (c.sleepBlocker.activate o.power).2 :=
    .single (.activate o.power)
  unfold BlockerCoordinator.activateLayers
  split
  · exact .refl
  · dsimp only
    split
    · exact .refl
    · split
      · exact .refl
      · split
        · rename_i error b hb
          rwa [hb] at hsleep
        · rename_i b hb
          rw [hb] at hsleep
          split <;> exact hsleep

theorem activateBlockMode_sleep (o : LayerCalls Handle) (c : BlockerCoordinator Handle) :
    SleepSteps c.sleepBlocker (c.activateBlockMode o).2.sleepBlocker := by
  have hlayers := activateLayers_sleep o c
  unfold BlockerCoordinator.activateBlockMode
  split
  · rename_i error c₁ hc
    rw [hc] at hlayers
    -- the rollback
    refine hlayers.tail ?_
    unfold BlockerCoordinator.rollbackFailedBlockActivation
    dsimp only
    split <;> exact .deactivate o.power
  · rename_i c₁ hc
    rwa [hc] at hlayers

theorem activateAllowMode_sleep (o : LayerCalls Handle) (c : BlockerCoordinator Handle) :
    SleepSteps c.sleepBlocker (c.activateAllowMode o).2.sleepBlocker := by
  unfold BlockerCoordinator.activateAllowMode
  dsimp only
  split <;> exact .single (.deactivate o.power)

theorem setMode_sleep (o : LayerCalls Handle) (mode : BlockerMode) (c : BlockerCoordinator Handle) :
    SleepSteps c.sleepBlocker (c.setMode o mode).2.sleepBlocker := by
  unfold BlockerCoordinator.setMode
  split
  · exact .refl
  · cases mode with
    | block =>
      have hmode := activateBlockMode_sleep o c
      dsimp only
      split <;> exact hmode
    | allow =>
      have hmode := activateAllowMode_sleep o c
      dsimp only
      split <;> exact hmode

theorem CoordinatorStep.sleep (h : CoordinatorStep c c') :
    SleepSteps c.sleepBlocker c'.sleepBlocker := by
  cases h with
  | setMode o mode => exact setMode_sleep o mode c
  | renew power =>
    unfold BlockerCoordinator.renewSleepRequestsAfterResume
    split
    · exact .single (.renewAfterResume power)
    · exact .refl
  | forcedShutdownCleanup power => exact .single (.deactivate power)
  | clearBlockerActive => exact .refl

end

section
variable [DecidableEq Handle]

/-- The calls so far are those of the holder of the handle. -/
def Held (r : PowerRequests Handle) : Prop := exec holding none r.calls = some r.handle

/-! ## The calls -/

theorem Held.close (hr : Held r) : Held (r.close api).2 := by
  simp only [PowerRequests.close]
  split
  · rename_i handle hh
    refine held_record hr ?_
    simp only [holding, hh, if_true, PowerRequests.record]
  · exact hr

/-- The loop of `release` names the held object, and keeps it. -/
theorem Held.clearAcquired (hr : Held r) (hh : r.handle = some h)
    (kinds : List (PowerRequestType × Bool)) :
    Held (PowerRequests.clearAcquired api h kinds r).2 ∧
      (PowerRequests.clearAcquired api h kinds r).2.handle = some h := by
  induction kinds generalizing r with
  | nil => exact ⟨hr, hh⟩
  | cons kind rest ih =>
    obtain ⟨kind, acquired⟩ := kind
    simp only [PowerRequests.clearAcquired]
    split
    · have hrecord : Held (r.record (.clear h kind (api.clear h kind).isOk)) := by
        refine held_record hr ?_
        simp only [holding, hh, if_true, PowerRequests.record]
      have hrest := ih hrecord hh
      split <;> exact hrest
    · exact ih hr hh

theorem Held.release (hr : Held r) : Held (r.release api).2 := by
  rw [release_snd]
  split
  · rename_i h hh
    exact (hr.clearAcquired hh _).1.close
  · exact hr.close

/-- The loop of `activate`. -/
theorem Held.setRequests (hr : Held r) (hh : r.handle = some h)
    (kinds : List (PowerRequestType × Nat)) :
    Held (PowerRequests.setRequests api h kinds r).2 := by
  induction kinds generalizing r with
  | nil => exact hr
  | cons kind rest ih =>
    obtain ⟨kind, index⟩ := kind
    have hrecord : ∀ ok, Held (r.record (.set h kind ok)) := fun ok => by
      refine held_record hr ?_
      simp only [holding, hh, if_true, PowerRequests.record]
    cases hset : api.set h kind with
    | error error =>
      rw [(setRequests_error api r index rest hset).2]
      exact (hrecord false).release
    | ok _ =>
      rw [setRequests_ok api hset]
      exact ih (hrecord true) hh

/-! ## The layer -/

/-- Both requests or nothing, and the calls of their holder. -/
structure Kept (b : SleepBlocker Handle) : Prop where
  whole : Whole b
  held : Held b.requests

theorem kept_init : Kept ({} : SleepBlocker Handle) := ⟨.inr ⟨rfl, rfl⟩, rfl⟩

theorem Held.activate (hr : Held b.requests) (hb : Whole b) : Held (b.activate api).2.requests := by
  unfold SleepBlocker.activate
  split
  · exact hr
  · rename_i hactive
    have hhandle : b.requests.handle = none := (hb.resolve_left hactive).1
    have hna : b.requests.isActive = false := by simp [PowerRequests.isActive, hhandle]
    simp only [PowerRequests.activate, hna, Bool.false_eq_true, if_false]
    cases hcreate : api.create with
    | error error =>
      refine held_record hr ?_
      simp [holding, hhandle, Except.toOption, PowerRequests.record]
    | ok handle =>
      apply Held.setRequests _ rfl
      refine held_record hr ?_
      simp [holding, hhandle, Except.toOption]

theorem Held.deactivate (hr : Held b.requests) : Held (b.deactivate api).requests := by
  unfold SleepBlocker.deactivate
  split
  · exact hr
  · exact hr.release

theorem Kept.step (hb : Kept b) (h : SleepStep b b') : Kept b' := by
  cases h with
  | activate api => exact ⟨(activate_whole api hb.whole).imp (·.2) (·.2), hb.held.activate hb.whole⟩
  | deactivate api => exact ⟨.inr (deactivate_released api hb.whole), hb.held.deactivate⟩
  | renewAfterResume api =>
    refine ⟨(renewAfterResume_whole api).imp (·.2) (·.2), ?_⟩
    have hclosed : Held (b.requests.close api).2 := hb.held.close
    have hreleased := close_released (r := b.requests) api
    unfold SleepBlocker.renewAfterResume
    split
    · rename_i hc
      rw [hc] at hclosed
      exact hclosed
    · rename_i requests hc
      rw [hc] at hclosed hreleased
      exact Held.activate (b := { b with requests }) hclosed (.inr hreleased)

theorem Kept.steps (hb : Kept b) (h : SleepSteps b b') : Kept b' := by
  induction h with
  | refl => exact hb
  | tail _ hstep ih => exact ih.step hstep

/-- The end of the layer's life. -/
theorem Kept.drop (hb : Kept b) :
    Held (b.drop api).requests ∧ (b.drop api).requests.handle = none := by
  have hdown : Kept (b.deactivate api) := hb.step (.deactivate api)
  exact ⟨hdown.held.release, (release_released api).1⟩

theorem CoordinatorSteps.kept {c c' : BlockerCoordinator Handle} (h : CoordinatorSteps c c')
    (hc : Kept c.sleepBlocker) : Kept c'.sleepBlocker := by
  induction h with
  | refl => exact hc
  | tail _ hstep ih => exact ih.steps hstep.sleep

end

end Blocker

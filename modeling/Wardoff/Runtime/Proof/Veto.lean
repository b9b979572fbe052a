import Wardoff.Runtime.Proof.Application

/-!
# The reported mode and the real veto of Layer 1

Layer 1's activity lives in three places: the coordinator's mode, `reason_registered` and the static
`BLOCKER_ACTIVE`. `Agreed` says that all three are equal.

* `agreed_setMode`: every switch of the mode keeps them equal, whichever calls fail.
* `agreed_handle`: so does every event but a forced end of the session in Block mode, which clears
  `BLOCKER_ACTIVE` and leaves `reason_registered`.
* `veto_truthful_iff`: a run reports the veto truthfully in all its states exactly if no forced end
  of the session is handled in Block mode.
-/

namespace Runtime

open Blocker Ipc Machine

variable {Handle : Type}

/-- Layer 1 is on, in all its places, exactly in Block mode. -/
def Agreed (c : BlockerCoordinator Handle) : Prop :=
  c.shutdownBlocker = ⟨decide (c.mode = .block), decide (c.mode = .block)⟩

/-! ## The coordinator -/

section
variable {c : BlockerCoordinator Handle}

theorem agreed_setMode (c : BlockerCoordinator Handle) (o : LayerCalls Handle) (mode : BlockerMode)
    (h : Agreed c) : Agreed (c.setMode o mode).2 := by
  by_cases hm : c.mode = mode
  · rwa [setMode_of_eq hm]
  cases mode with
  | block =>
    have ha : c.mode = .allow := by cases hc : c.mode <;> simp_all
    have hb : c.shutdownBlocker = ⟨false, false⟩ := by simpa [Agreed, ha] using h
    rcases activateLayers_cases o c with ⟨e, he, hs, -, hmode⟩ | ⟨l, u, r, p, b, -, -, -, -, hl, he⟩
    · -- nothing was registered, and the rollback leaves Layer 1 off
      generalize hc : c.activateLayers o = q at he hs hmode
      obtain ⟨result, c₁⟩ := q
      subst he
      have hd := ShutdownBlocker.deactivate_of_not_registered o.reasonDestroy
        (b := c₁.shutdownBlocker) (by rw [hs, hb])
      have hset : (c.setMode o .block).2 =
          { c₁.deactivateWorkers o with shutdownBlocker := ⟨false, false⟩ } := by
        simp [BlockerCoordinator.setMode, ha, BlockerCoordinator.activateBlockMode, hc,
          BlockerCoordinator.rollbackFailedBlockActivation, hd]
      have hc₁ : c₁.mode = .allow := hmode.trans ha
      rw [hset]
      simp [Agreed, hc₁]
    · have hset : (c.setMode o .block).2 = ⟨.block, b, l, u, r, p⟩ := by
        simp [BlockerCoordinator.setMode, ha, BlockerCoordinator.activateBlockMode, he]
      rw [hset]
      cases hrc : o.reasonCreate <;> simp [ShutdownBlocker.activate, hb, hrc] at hl
      simp [Agreed, ← hl]
  | allow =>
    have hblk : c.mode = .block := by cases hc : c.mode <;> simp_all
    have hb : c.shutdownBlocker = ⟨true, true⟩ := by simpa [Agreed, hblk] using h
    cases hd : o.reasonDestroy <;>
      simp [Agreed, BlockerCoordinator.setMode, hblk, BlockerCoordinator.activateAllowMode,
        ShutdownBlocker.deactivate, hb, hd]

theorem agreed_new {o : LayerCalls Handle} {mode : BlockerMode}
    (h : BlockerCoordinator.new o mode = .ok c) : Agreed c := by
  unfold BlockerCoordinator.new at h
  have hs := agreed_setMode {} o mode (by simp [Agreed])
  split at h
  · cases h
  · rename_i hset
    rw [hset] at hs
    cases h
    exact hs

theorem agreed_renew (power : PowerApi Handle) (h : Agreed c) :
    Agreed (c.renewSleepRequestsAfterResume power).2 := by
  unfold BlockerCoordinator.renewSleepRequestsAfterResume
  split
  · exact h
  · exact h

end

/-! ## The events -/

section
variable {a : Application Handle}

theorem agreed_switch (o : SwitchCalls Handle) (mode : BlockerMode)
    (h : Agreed a.blockerCoordinator) : Agreed (a.setMode o mode).2.blockerCoordinator :=
  Application.setMode_coordinator (fun c o mode => agreed_setMode c o mode) o mode h

theorem agreed_runPowerAction (o : PowerActionCalls Handle) (action : PowerAction)
    (h : Agreed a.blockerCoordinator) :
    Agreed (a.runPowerAction o action).2.blockerCoordinator := by
  unfold Application.runPowerAction
  dsimp only
  have hallow := agreed_switch (a := { a with
    pendingBlockRestoreAfterWake := pendingWakeRestoreForTrayPowerAction a.mode action })
    o.allow .allow h
  split
  · rename_i hs
    rw [hs] at hallow
    exact hallow
  · rename_i a' hs
    rw [hs] at hallow
    split
    · exact hallow
    · split
      · have hblock := agreed_switch (a := a'.clearPendingBlockRestoreAfterWake) o.restore .block
          hallow
        split
        · rename_i hr
          rw [hr] at hblock
          exact hblock
        · rename_i hr
          rw [hr] at hblock
          exact hblock
      · exact hallow

/-- A forced end of the session. -/
def Event.isForcedEndSession : Event Handle → Bool
  | .endSession wparam shutdownInProgress _ => shouldRunEndSessionCleanup wparam shutdownInProgress
  | _ => false

theorem agreed_resume (o : ResumeCalls Handle) (h : Agreed a.blockerCoordinator) :
    Agreed (a.handlePowerBroadcast o .resume).blockerCoordinator := by
  have hr := agreed_renew o.renew h
  simp only [Application.handlePowerBroadcast, Application.restoreBlockAfterWakeIfNeeded]
  split
  · exact hr
  · have hs := agreed_setMode _ o.restore .block hr
    dsimp only [Application.clearPendingBlockRestoreAfterWake]
    split
    · rename_i hset
      rw [hset] at hs
      exact hs
    · rename_i hset
      rw [hset] at hs
      rw [Application.syncTray_coordinator]
      exact hs

/-- Every event keeps Layer 1's places equal, but a forced end of the session in Block mode. -/
theorem agreed_handle {e : Event Handle} (h : Agreed a.blockerCoordinator)
    (he : e.isForcedEndSession = true → a.mode = .allow) :
    Agreed (e.handle a).blockerCoordinator := by
  cases e with
  | ipcRequest request o =>
    cases request with
    | setMode mode =>
      simp only [Event.handle, Application.handleIpcRequest_setMode_snd]
      exact agreed_switch (a := a.clearPendingBlockRestoreAfterWake) _ _ h
    | setAutostart enabled =>
      obtain ⟨t, ht⟩ := Application.setAutostartEnabled_snd o.autostart enabled a
      simp only [Event.handle, Application.handleIpcRequest_setAutostart_snd, ht]
      exact h
    | status => exact h
    | shutdownServer => exact h
  | trayAction action o =>
    cases action with
    | block => exact agreed_switch (a := a.clearPendingBlockRestoreAfterWake) _ _ h
    | allow => exact agreed_switch (a := a.clearPendingBlockRestoreAfterWake) _ _ h
    | setAutostart enabled =>
      obtain ⟨t, ht⟩ := Application.setAutostartEnabled_snd o.autostart enabled a
      simp only [Event.handle, Application.handleTrayAction, ht]
      exact h
    | shutdown => exact agreed_runPowerAction _ _ h
    | reboot => exact agreed_runPowerAction _ _ h
    | sleep => exact agreed_runPowerAction _ _ h
    | hibernate => exact agreed_runPowerAction _ _ h
    | quit => exact h
  | queryEndSession =>
    simp only [Event.handle, Application.handleQueryEndSession]
    split
    · exact h
    · exact h
  | endSession wparam shutdownInProgress power =>
    cases hf : shouldRunEndSessionCleanup wparam shutdownInProgress with
    | false => simpa [Event.handle, Application.handleEndSession, hf] using h
    | true =>
      have hm : a.mode = .allow := he hf
      have hcm : a.blockerCoordinator.mode = .allow := hm
      have hb : a.blockerCoordinator.shutdownBlocker = ⟨false, false⟩ := by
        simpa [Agreed, hcm] using h
      simp only [Event.handle, Application.handleEndSession, hf, if_true,
        Application.handleForcedShutdownCleanup]
      split
      · simp [Agreed, hcm, hb]
      · split
        · simp [Agreed, hcm, hb]
        · simp [Agreed, hb, BlockerCoordinator.forcedShutdownCleanup,
            Application.clearPendingBlockRestoreAfterWake]
  | powerBroadcast wparam o =>
    simp only [Event.handle]
    split
    · rename_i event _
      cases event with
      | suspend =>
        simp only [Application.handlePowerBroadcast]
        split
        · exact h
        · exact h
      | resume => exact agreed_resume o h
    · exact h

/-- A forced end of the session in Block mode leaves a registered reason without a veto. -/
theorem forcedEndSession_shutdownBlocker {e : Event Handle} (h : Agreed a.blockerCoordinator)
    (he : e.isForcedEndSession = true) (hm : a.mode = .block) :
    (e.handle a).blockerCoordinator.shutdownBlocker = ⟨true, false⟩ := by
  have hcm : a.blockerCoordinator.mode = .block := hm
  have hb : a.blockerCoordinator.shutdownBlocker = ⟨true, true⟩ := by simpa [Agreed, hcm] using h
  cases e with
  | endSession wparam shutdownInProgress power =>
    have hf : shouldRunEndSessionCleanup wparam shutdownInProgress = true := he
    simp only [Event.handle, Application.handleEndSession, hf, if_true,
      Application.handleForcedShutdownCleanup]
    split
    · simp [hb]
    · split
      · simp [hb]
      · simp [hb, BlockerCoordinator.forcedShutdownCleanup,
          Application.clearPendingBlockRestoreAfterWake]
  | _ => cases he

end

/-! ## What is reported -/

/-- The status and the mode report what a `WM_QUERYENDSESSION` received now would be answered. -/
def Truthful (a : Application Handle) : Prop :=
  (∀ workers, (a.blockerCoordinator.layerStatus workers).shutdown = true ↔
      a.handleQueryEndSession.1 = 0) ∧
    (a.mode = .block ↔ a.handleQueryEndSession.1 = 0)

theorem handleQueryEndSession_eq_zero {a : Application Handle} :
    a.handleQueryEndSession.1 = 0 ↔ a.blockerCoordinator.shutdownBlocker.blockerActive = true := by
  unfold Application.handleQueryEndSession
  split <;> simp_all

theorem truthful_iff {a : Application Handle} : Truthful a ↔ Agreed a.blockerCoordinator := by
  unfold Truthful
  simp only [handleQueryEndSession_eq_zero, BlockerCoordinator.layerStatus,
    ShutdownBlocker.isActive, forall_const, Agreed, Application.mode]
  generalize a.blockerCoordinator.shutdownBlocker = b
  obtain ⟨r, v⟩ := b
  cases a.blockerCoordinator.mode <;> cases r <;> cases v <;> simp

/-- **When the reported veto is the real one.** After a successful startup, status and mode tell the
truth about Layer 1 in every state of a run exactly if no forced end of the session is handled in
Block mode. -/
theorem veto_truthful_iff {o : Application.BootstrapCalls Handle} {options : RuntimeOptions}
    {a : Application Handle} (h : Application.bootstrap o options = .ok a)
    (es : List (Event Handle)) :
    (∀ pre post, es = pre ++ post → Truthful (pre.foldl Event.handle a)) ↔
      Along (total Event.handle) (fun a e => ¬ (e.isForcedEndSession = true ∧ a.mode = .block))
        a es := by
  obtain ⟨c, t, hnew, rfl⟩ := Application.bootstrap_eq_ok h
  constructor
  · intro hes
    rw [along_total_iff]
    intro pre e post hpre hforced
    subst hpre
    obtain ⟨he, hm⟩ := hforced
    have hpre := truthful_iff.1 (hes pre (e :: post) rfl)
    have hpost := truthful_iff.1 (hes (pre ++ [e]) post (by simp))
    rw [List.foldl_append, List.foldl_cons, List.foldl_nil] at hpost
    have hb := forcedEndSession_shutdownBlocker hpre he hm
    rw [Agreed, hb] at hpost
    simp only [ShutdownBlocker.mk.injEq] at hpost
    exact absurd (hpost.1.trans hpost.2.symm) (by decide)
  · intro hes pre post he
    subst he
    rw [along_total_append] at hes
    refine truthful_iff.2 (inv_of_along_foldl (I := fun a : Application Handle =>
      Agreed a.blockerCoordinator) (fun a e hi hp => agreed_handle hi fun he => ?_)
        (agreed_new hnew)
      hes.1)
    cases hm : a.mode with
    | allow => rfl
    | block => exact absurd ⟨he, hm⟩ hp

/-- An unforced end of the session in Block mode changes nothing. -/
theorem veto_truthful_unforced :
    ∃ a : Application Unit, Application.bootstrap (.succeed ()) ⟨.block, .visible⟩ = .ok a ∧
      Truthful ([Event.endSession 1 false (LayerCalls.succeed ()).power].foldl Event.handle a) :=
  ⟨_, rfl, (@veto_truthful_iff Unit (.succeed ()) ⟨.block, .visible⟩ _ rfl
    [.endSession 1 false (LayerCalls.succeed ()).power]).2
    (by simp [Event.isForcedEndSession, shouldRunEndSessionCleanup]) _ [] (by simp)⟩

/-- A forced end of the session in Block mode: the status still says that Layer 1 is active, and the
next query is let through. -/
theorem veto_untruthful_after_forced_end_session :
    ¬ ∀ (o : Application.BootstrapCalls Unit) (options : RuntimeOptions) (a : Application Unit)
        (es : List (Event Unit)),
      Application.bootstrap o options = .ok a → Truthful (es.foldl Event.handle a) := by
  intro h
  have ht := h (.succeed ()) ⟨.block, .visible⟩ _
    [.endSession 1 true (LayerCalls.succeed ()).power] rfl
  exact absurd ((ht.1 (false, false, false)).1 (by decide)) (by decide)

end Runtime

import Wardoff.Runtime.Dialogue
import Wardoff.Runtime.Proof.Veto
import Wardoff.Runtime.Proof.Wake

/-!
# What the dialogues with the tray come to

* `Event.dialogue_handle`: a dialogue is the handler of its event, with the answers it got for the
  outcomes of its calls to the tray.
* `Event.dialogue_last`: it ends in the mode of its last `SetMode`, or in the one it started in,
  whatever the answers are.
-/

namespace Runtime

open Blocker Ipc Machine
open Machine.Dialogue (Holds holds_bind holds_map holds_done)

variable {Handle : Type} {a : Application Handle}

/-! ## The handlers -/

section
variable {S : Type} {next : S → TrayCommand → S} {s : S}

namespace Application

theorem syncTrayDialogue_handle (mode : BlockerMode) (a : Application Handle) :
    Holds next (fun _ r => ∃ x, r = a.syncTray x mode) s (a.syncTrayDialogue mode) := by
  unfold syncTrayDialogue
  split
  · exact fun x => ⟨x, rfl⟩
  · rename_i hnone
    exact ⟨.lost, by simp [syncTray, hnone]⟩

theorem syncTrayAutostartDialogue_handle (enabled : Bool) (a : Application Handle) :
    Holds next (fun _ b => ∃ x : TrayAnswer, b = a.syncTrayAutostart x.sent enabled) s
      (a.syncTrayAutostartDialogue enabled) := by
  unfold syncTrayAutostartDialogue
  split
  · exact fun x => ⟨x, rfl⟩
  · rename_i hnone
    refine ⟨.lost, ?_⟩
    obtain ⟨c, t⟩ := a
    cases hnone
    rfl

theorem setModeDialogue_handle (o : SwitchCalls Handle) (mode : BlockerMode)
    (a : Application Handle) :
    Holds next (fun _ r => ∃ x y, r = ((a.setMode (o.answered x y) mode).1.isOk,
      (a.setMode (o.answered x y) mode).2)) s (a.setModeDialogue o mode) := by
  unfold setModeDialogue
  by_cases hm : a.mode = mode
  · simp only [hm, if_true, holds_map]
    refine (syncTrayDialogue_handle mode a).imp fun _ r hr => ?_
    obtain ⟨x, rfl⟩ := hr
    exact ⟨x, .lost, by simp [setMode, SwitchCalls.answered, hm]⟩
  simp only [hm, if_false]
  split
  · rename_i error c hc
    exact ⟨.lost, .lost,
      by simp [setMode, SwitchCalls.answered, hm, hc, Except.isOk, Except.toBool]⟩
  · rename_i changed c hc
    rw [holds_bind]
    refine (syncTrayDialogue_handle c.mode _).imp fun _ r hr => ?_
    obtain ⟨x, hx⟩ := hr
    split
    · rename_i b
      refine ⟨x, .lost, ?_⟩
      simp only [setMode, SwitchCalls.answered, hm, if_false, hc, ← hx]
      rfl
    · rename_i error b
      rw [holds_map]
      refine (syncTrayDialogue_handle _ _).imp fun _ r hr => ?_
      obtain ⟨y, hy⟩ := hr
      refine ⟨x, y, ?_⟩
      simp only [setMode, SwitchCalls.answered, hm, if_false, hc, ← hx, ← hy]
      rfl

theorem setAutostartEnabledDialogue_handle (o : AutostartCalls) (enabled : Bool)
    (a : Application Handle) :
    Holds next (fun _ b => ∃ x, b = (a.setAutostartEnabled (o.answered x) enabled).2) s
      (a.setAutostartEnabledDialogue o enabled) := by
  unfold setAutostartEnabledDialogue
  dsimp only
  split
  · rename_i hset
    refine (syncTrayAutostartDialogue_handle enabled a).imp fun _ b hb => ?_
    obtain ⟨x, rfl⟩ := hb
    exact ⟨x, by simp [setAutostartEnabled, AutostartCalls.answered, hset]⟩
  · rename_i error hset
    split
    · rename_i restored hrestored
      refine (syncTrayAutostartDialogue_handle restored a).imp fun _ b hb => ?_
      obtain ⟨x, rfl⟩ := hb
      exact ⟨x, by simp [setAutostartEnabled, AutostartCalls.answered, hset, hrestored]⟩
    · rename_i readError hrestored
      exact ⟨.lost, by simp [setAutostartEnabled, AutostartCalls.answered, hset, hrestored]⟩

theorem runPowerActionDialogue_handle (o : PowerActionCalls Handle) (action : PowerAction)
    (a : Application Handle) :
    Holds next (fun _ b => ∃ x, b = (a.runPowerAction (o.answered x) action).2) s
      (a.runPowerActionDialogue o action) := by
  unfold runPowerActionDialogue
  rw [holds_bind]
  refine (setModeDialogue_handle o.allow .allow _).imp fun _ r hr => ?_
  obtain ⟨x, y, hr⟩ := hr
  generalize hq : Application.setMode (o.allow.answered x y) .allow { a with
    pendingBlockRestoreAfterWake := pendingWakeRestoreForTrayPowerAction a.mode action } = q at hr
  obtain ⟨result, b⟩ := q
  subst hr
  have hallow : ∀ z w, Application.setMode (o.answered ⟨x, y, z, w⟩).allow .allow { a with
      pendingBlockRestoreAfterWake := pendingWakeRestoreForTrayPowerAction a.mode action } =
        (result, b) := fun _ _ => hq
  have hexec : ∀ z, executePowerAction (o.answered z) action = executePowerAction o action :=
    fun _ => rfl
  cases result with
  | error error => exact ⟨⟨x, y, .lost, .lost⟩, by simp only [runPowerAction, hallow]⟩
  | ok u =>
    dsimp only [Except.isOk, Except.toBool]
    split
    · rename_i hdone
      exact ⟨⟨x, y, .lost, .lost⟩, by simp only [runPowerAction, hallow, hexec, hdone]⟩
    · rename_i message hfailed
      by_cases hblock : a.mode = .block
      · simp only [hblock, if_true, holds_map]
        refine (setModeDialogue_handle o.restore .block _).imp fun _ r hr => ?_
        obtain ⟨z, w, rfl⟩ := hr
        refine ⟨⟨x, y, z, w⟩, ?_⟩
        simp only [runPowerAction, hallow, hexec, hfailed]
        rw [if_pos hblock]
        change (Application.setMode (o.answered ⟨x, y, z, w⟩).restore .block
          b.clearPendingBlockRestoreAfterWake).2 = _
        split
        · rename_i h
          rw [h]
        · rename_i h
          rw [h]
      · simp only [hblock, if_false]
        exact ⟨⟨x, y, .lost, .lost⟩,
          by simp only [runPowerAction, hallow, hexec, hfailed, hblock, if_false]⟩

theorem restoreBlockAfterWakeIfNeededDialogue_handle (o : ResumeCalls Handle)
    (a : Application Handle) :
    Holds next (fun _ b => ∃ x, b = a.restoreBlockAfterWakeIfNeeded { o with tray := x }) s
      (a.restoreBlockAfterWakeIfNeededDialogue o) := by
  unfold restoreBlockAfterWakeIfNeededDialogue
  split
  · rename_i hnone
    exact ⟨.lost, by simp [restoreBlockAfterWakeIfNeeded, hnone]⟩
  · rename_i action hsome
    dsimp only
    split
    · rename_i error c hc
      exact ⟨.lost, by simp [restoreBlockAfterWakeIfNeeded, hsome, hc]⟩
    · rename_i changed c hc
      rw [holds_map]
      refine (syncTrayDialogue_handle c.mode _).imp fun _ r hr => ?_
      obtain ⟨x, rfl⟩ := hr
      exact ⟨x, by simp [restoreBlockAfterWakeIfNeeded, hsome, hc]⟩

end Application

theorem Event.dialogue_handle (a : Application Handle) (e : Event Handle) :
    Holds next (fun _ b => ∃ x, b = (e.answered x).handle a) s (e.dialogue a) := by
  have hswitch : ∀ (o : SwitchCalls Handle) mode (b : Application Handle)
    (f : TrayAnswers → Application Handle),
      (∀ x, f x = (b.setMode (o.answered x.tray x.trayResync) mode).2) →
      Holds next (fun _ b => ∃ x, b = f x) s ((b.setModeDialogue o mode).map Prod.snd) := by
    intro o mode b f hf
    rw [holds_map]
    refine (Application.setModeDialogue_handle o mode b).imp fun _ r hr => ?_
    obtain ⟨x, y, rfl⟩ := hr
    exact ⟨⟨x, y, .lost, .lost⟩, (hf ⟨x, y, .lost, .lost⟩).symm⟩
  have hautostart : ∀ (o : AutostartCalls) enabled (f : TrayAnswers → Application Handle),
      (∀ x, f x = (a.setAutostartEnabled (o.answered x.tray) enabled).2) →
      Holds next (fun _ b => ∃ x, b = f x) s (a.setAutostartEnabledDialogue o enabled) := by
    intro o enabled f hf
    refine (Application.setAutostartEnabledDialogue_handle o enabled a).imp fun _ b hb => ?_
    obtain ⟨x, rfl⟩ := hb
    exact ⟨⟨x, .lost, .lost, .lost⟩, (hf ⟨x, .lost, .lost, .lost⟩).symm⟩
  cases e with
  | ipcRequest request o =>
    cases request with
    | setMode mode => exact hswitch _ _ _ _ fun _ => Application.handleIpcRequest_setMode_snd ..
    | setAutostart enabled =>
      exact hautostart _ _ _ fun _ => Application.handleIpcRequest_setAutostart_snd ..
    | status | shutdownServer => exact ⟨⟨.lost, .lost, .lost, .lost⟩, rfl⟩
  | trayAction action o =>
    cases action with
    | block | allow => exact hswitch _ _ _ _ fun _ => rfl
    | setAutostart enabled => exact hautostart _ _ _ fun _ => rfl
    | shutdown | reboot | sleep | hibernate => exact Application.runPowerActionDialogue_handle ..
    | quit => exact ⟨⟨.lost, .lost, .lost, .lost⟩, rfl⟩
  | queryEndSession => exact ⟨⟨.lost, .lost, .lost, .lost⟩, rfl⟩
  | endSession wparam shutdownInProgress power => exact ⟨⟨.lost, .lost, .lost, .lost⟩, rfl⟩
  | powerBroadcast wparam o =>
    simp only [Event.dialogue]
    split
    · rename_i hsuspend
      refine ⟨⟨.lost, .lost, .lost, .lost⟩, ?_⟩
      simp only [Event.answered, Event.handle, hsuspend]
      rfl
    · rename_i hresume
      refine (Application.restoreBlockAfterWakeIfNeededDialogue_handle o _).imp fun _ b hb => ?_
      obtain ⟨x, rfl⟩ := hb
      refine ⟨⟨x, .lost, .lost, .lost⟩, ?_⟩
      simp only [Event.answered, Event.handle, hresume]
      rfl
    · rename_i hnone
      refine ⟨⟨.lost, .lost, .lost, .lost⟩, ?_⟩
      simp only [Event.answered, Event.handle, hnone]

end

/-! ## The last mode the tray was told -/

/-- The mode of the last `SetMode`. -/
def lastMode (last : BlockerMode) : TrayCommand → BlockerMode
  | .setMode mode => mode
  | .setAutostart _ => last

/-- There is a tray, and it was last told the mode of the runtime. -/
def InStep (last : BlockerMode) (a : Application Handle) : Prop :=
  a.trayService.isSome = true ∧ a.mode = last

namespace Application

variable {last : BlockerMode}

theorem syncTray_isSome (x : TrayAnswer) (mode : BlockerMode) (hs : a.trayService.isSome = true) :
    (a.syncTray x mode).2.trayService.isSome = true := by
  obtain ⟨t, ht⟩ := Option.isSome_iff_exists.1 hs
  simp [syncTray, ht]

theorem syncTrayDialogue_last {mode : BlockerMode} (hs : a.trayService.isSome = true)
    (hm : a.mode = mode) :
    Holds lastMode (fun last r => InStep last r.2) last (a.syncTrayDialogue mode) := by
  obtain ⟨t, ht⟩ := Option.isSome_iff_exists.1 hs
  unfold syncTrayDialogue
  simp only [ht]
  intro x
  refine ⟨syncTray_isSome x mode hs, ?_⟩
  unfold Application.mode at hm ⊢
  rwa [syncTray_coordinator]

theorem syncTrayAutostartDialogue_last (enabled : Bool) (h : InStep last a) :
    Holds lastMode InStep last (a.syncTrayAutostartDialogue enabled) := by
  obtain ⟨t, ht⟩ := Option.isSome_iff_exists.1 h.1
  unfold syncTrayAutostartDialogue
  simp only [ht]
  intro x
  exact ⟨by simp [syncTrayAutostart, ht], h.2⟩

theorem setModeDialogue_last (o : SwitchCalls Handle) (mode : BlockerMode) (h : InStep last a) :
    Holds lastMode (fun last r => InStep last r.2) last (a.setModeDialogue o mode) := by
  obtain ⟨hs, hlast⟩ := h
  unfold setModeDialogue
  by_cases hm : a.mode = mode
  · simp only [hm, if_true, holds_map]
    exact syncTrayDialogue_last hs hm
  simp only [hm, if_false]
  have hmode := setMode_mode o.layers mode a.blockerCoordinator
  split
  · rename_i error c hc
    -- a switch that fails leaves the mode alone, and tells the tray nothing
    rw [hc] at hmode
    exact ⟨hs, hmode.trans hlast⟩
  · rename_i changed c hc
    rw [holds_bind]
    refine Holds.imp (syncTrayDialogue_last hs rfl) fun _ r hr => ?_
    split
    · exact hr
    · rw [holds_map]
      exact syncTrayDialogue_last hr.1 rfl

theorem setAutostartEnabledDialogue_last (o : AutostartCalls) (enabled : Bool) (h : InStep last a) :
    Holds lastMode InStep last (a.setAutostartEnabledDialogue o enabled) := by
  unfold setAutostartEnabledDialogue
  dsimp only
  split
  · exact syncTrayAutostartDialogue_last enabled h
  · split
    · exact syncTrayAutostartDialogue_last _ h
    · exact h

theorem runPowerActionDialogue_last (o : PowerActionCalls Handle) (action : PowerAction)
    (h : InStep last a) : Holds lastMode InStep last (a.runPowerActionDialogue o action) := by
  unfold runPowerActionDialogue
  rw [holds_bind]
  refine Holds.imp (setModeDialogue_last o.allow .allow ⟨h.1, h.2⟩) fun _ r hr => ?_
  split
  · exact hr
  · split
    · exact hr
    · dsimp only
      split
      · rw [holds_map]
        exact setModeDialogue_last o.restore .block hr
      · exact hr

theorem restoreBlockAfterWakeIfNeededDialogue_last (o : ResumeCalls Handle) (h : InStep last a) :
    Holds lastMode InStep last (a.restoreBlockAfterWakeIfNeededDialogue o) := by
  unfold restoreBlockAfterWakeIfNeededDialogue
  split
  · exact h
  · have hmode := setMode_mode o.restore .block a.blockerCoordinator
    dsimp only
    split
    · rename_i error c hc
      rw [show a.blockerCoordinator.setMode o.restore .block = (.error error, c) from hc] at hmode
      exact ⟨h.1, hmode.trans h.2⟩
    · rw [holds_map]
      exact syncTrayDialogue_last h.1 rfl

end Application

theorem Event.dialogue_last {last : BlockerMode} {e : Event Handle} (h : InStep last a)
    (he : e.isForcedEndSession = false) : Holds lastMode InStep last (e.dialogue a) := by
  cases e with
  | ipcRequest request o =>
    cases request with
    | setMode mode =>
      rw [Event.dialogue, holds_map]
      exact Application.setModeDialogue_last _ _ h
    | setAutostart enabled => exact Application.setAutostartEnabledDialogue_last _ _ h
    | status | shutdownServer => exact h
  | trayAction action o =>
    cases action with
    | block | allow =>
      rw [Event.dialogue, holds_map]
      exact Application.setModeDialogue_last _ _ h
    | setAutostart enabled => exact Application.setAutostartEnabledDialogue_last _ _ h
    | shutdown | reboot | sleep | hibernate => exact Application.runPowerActionDialogue_last _ _ h
    | quit => exact h
  | queryEndSession =>
    simp only [Event.dialogue, Application.handleQueryEndSession]
    split <;> exact h
  | endSession wparam shutdownInProgress power =>
    have hend : a.handleEndSession wparam shutdownInProgress power = a := by
      unfold Application.handleEndSession
      rw [if_neg (by simpa [Event.isForcedEndSession] using he)]
    rw [Event.dialogue, hend]
    exact h
  | powerBroadcast wparam o =>
    simp only [Event.dialogue]
    split
    · rw [holds_done, Application.suspend_eq]
      exact h
    · have hmode := Application.renew_mode o.renew a.blockerCoordinator
      exact Application.restoreBlockAfterWakeIfNeededDialogue_last o ⟨h.1, hmode.trans h.2⟩
    · exact h

end Runtime

import Wardoff.Blocker.Proof.Coordinator
import Wardoff.Runtime.Application

/-!
# What the handlers of the application touch

A switch of the mode (`Application.setMode`) changes the coordinator, through the coordinator's own
`setMode`, and the tray's command queue; everything else of the application stays.

* `setMode_frame`: only those two fields change.
* `setMode_coordinator`: what the coordinator's `setMode` keeps, the application's keeps.
* `setMode_mode_of_ok`: a switch that succeeds ends in the requested mode.
-/

namespace Runtime

open Blocker Ipc Machine

namespace Application

variable {Handle : Type} {a : Application Handle}

/-! ## Switching the mode -/

theorem syncTray_snd (answer : TrayAnswer) (mode : BlockerMode) (a : Application Handle) :
    ∃ t, (a.syncTray answer mode).2 = { a with trayService := t } := by
  unfold syncTray
  split
  · exact ⟨_, rfl⟩
  · exact ⟨a.trayService, rfl⟩

@[simp] theorem syncTray_coordinator (answer : TrayAnswer) (mode : BlockerMode) :
    (a.syncTray answer mode).2.blockerCoordinator = a.blockerCoordinator := by
  obtain ⟨t, ht⟩ := syncTray_snd answer mode a
  rw [ht]

/-- The coordinator after a switch: untouched, switched, or switched and rolled back. -/
theorem setMode_cases (o : SwitchCalls Handle) (mode : BlockerMode) (a : Application Handle) :
    (a.mode = mode ∧ ∃ t, (a.setMode o mode).2 = { a with trayService := t }) ∨
    (∃ t, (a.setMode o mode).2 = { a with
        blockerCoordinator := (a.blockerCoordinator.setMode o.layers mode).2, trayService := t } ∧
      ((a.setMode o mode).1 = .ok () → (a.blockerCoordinator.setMode o.layers mode).1.isOk)) ∨
    (∃ t error, (a.setMode o mode).1 = .error error ∧
      (a.setMode o mode).2 = { a with
        blockerCoordinator := ((a.blockerCoordinator.setMode o.layers mode).2.setMode o.rollback
          a.mode).2
        trayService := t }) := by
  unfold setMode
  by_cases hm : a.mode = mode
  · simp only [hm, if_true]
    exact .inl ⟨trivial, syncTray_snd _ _ _⟩
  simp only [hm, if_false]
  refine .inr ?_
  split
  · rename_i e c hc
    exact .inl ⟨a.trayService, by rw [hc], by simp⟩
  · rename_i b c hc
    obtain ⟨t, ht⟩ := syncTray_snd o.tray c.mode { a with blockerCoordinator := c }
    split
    · rename_i a' hs
      rw [hs] at ht
      exact .inl ⟨t, by rw [hc]; exact ht, fun _ => by rw [hc]; rfl⟩
    · rename_i e a' hs
      rw [hs] at ht
      obtain rfl : a' = _ := ht
      obtain ⟨t', ht'⟩ := syncTray_snd o.trayResync (c.setMode o.rollback a.mode).2.mode
        { a with blockerCoordinator := (c.setMode o.rollback a.mode).2, trayService := t }
      exact .inr ⟨t', _, rfl, by rw [hc]; exact ht'⟩

/-- Only the coordinator and the tray's queue change. -/
theorem setMode_frame (o : SwitchCalls Handle) (mode : BlockerMode) (a : Application Handle) :
    ∃ c t, (a.setMode o mode).2 = { a with blockerCoordinator := c, trayService := t } := by
  rcases setMode_cases o mode a with ⟨-, t, h⟩ | ⟨t, h, -⟩ | ⟨t, e, -, h⟩
  · exact ⟨_, t, h⟩
  · exact ⟨_, t, h⟩
  · exact ⟨_, t, h⟩

/-- What the coordinator's `setMode` keeps, the application's keeps. -/
theorem setMode_coordinator {P : BlockerCoordinator Handle → Prop}
    (hP : ∀ c o mode, P c → P (c.setMode o mode).2) (o : SwitchCalls Handle) (mode : BlockerMode)
    (h : P a.blockerCoordinator) : P (a.setMode o mode).2.blockerCoordinator := by
  rcases setMode_cases o mode a with ⟨-, t, he⟩ | ⟨t, he, -⟩ | ⟨t, e, -, he⟩
  · rw [he]
    exact h
  · rw [he]
    exact hP _ _ _ h
  · rw [he]
    exact hP _ _ _ (hP _ _ _ h)

/-- Asking for the current mode touches the tray only. -/
theorem setMode_coordinator_of_eq (o : SwitchCalls Handle) {mode : BlockerMode}
    (hm : a.mode = mode) :
    (a.setMode o mode).2.blockerCoordinator = a.blockerCoordinator := by
  unfold setMode
  rw [if_pos hm, syncTray_coordinator]

theorem setMode_mode_of_ok {o : SwitchCalls Handle} {mode : BlockerMode}
    (h : (a.setMode o mode).1 = .ok ()) : (a.setMode o mode).2.mode = mode := by
  rcases setMode_cases o mode a with ⟨hm, t, he⟩ | ⟨t, he, hok⟩ | ⟨t, e, herr, -⟩
  · rw [he]
    exact hm
  · rw [he]
    simp [Application.mode, setMode_mode, hok h]
  · simp [herr] at h

/-! ## Requests -/

theorem handleIpcRequest_setMode_snd (o : RequestCalls Handle) (mode : PipeMode)
    (a : Application Handle) : (a.handleIpcRequest o (.setMode mode)).2 =
      (a.clearPendingBlockRestoreAfterWake.setMode o.switch mode.toBlockerMode).2 := by
  simp only [handleIpcRequest]
  split <;> simp_all

theorem handleIpcRequest_setAutostart_snd (o : RequestCalls Handle) (enabled : Bool)
    (a : Application Handle) : (a.handleIpcRequest o (.setAutostart enabled)).2 =
      (a.setAutostartEnabled o.autostart enabled).2 := by
  simp only [handleIpcRequest]
  split <;> simp_all

/-- Autostart requests touch the tray's queue only. -/
theorem setAutostartEnabled_snd (o : AutostartCalls) (enabled : Bool) (a : Application Handle) :
    ∃ t, (a.setAutostartEnabled o enabled).2 = { a with trayService := t } := by
  unfold setAutostartEnabled
  split
  · exact ⟨_, rfl⟩
  · dsimp only
    split
    · exact ⟨_, rfl⟩
    · exact ⟨a.trayService, rfl⟩

/-! ## Startup -/

/-- A started application has a coordinator in its initial mode, and nothing pending. -/
theorem bootstrap_eq_ok {o : BootstrapCalls Handle} {options : RuntimeOptions}
    {a : Application Handle} (h : bootstrap o options = .ok a) :
    ∃ c t, BlockerCoordinator.new o.layers options.initialMode = .ok c ∧
      a = { blockerCoordinator := c, trayService := t } := by
  unfold bootstrap at h
  cases hc : BlockerCoordinator.new o.layers options.initialMode with
  | error e => simp [hc, bind, Except.bind] at h
  | ok c =>
    cases ht : startTray options.traySurface o.tray with
    | error e => simp [hc, ht, bind, Except.bind] at h
    | ok t =>
      cases hi : o.ipcServer with
      | error e => simp [hc, ht, hi, bind, Except.bind] at h
      | ok u =>
        simp only [hc, ht, hi, bind, Except.bind, pure, Except.pure, Except.ok.injEq] at h
        exact ⟨c, _, rfl, h.symm⟩

end Application

end Runtime

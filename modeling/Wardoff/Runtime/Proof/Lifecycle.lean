import Wardoff.Blocker.Proof.Holding
import Wardoff.Runtime.Lifecycle
import Wardoff.Runtime.Proof.Application

/-!
# What a runtime leaves behind

* `handle_steps`: whatever the UI thread handles, it does to the layers through operations of the
  coordinator.
* `power_object_owned`: so at every moment the calls made to Windows are those of a program that
  holds one object with both requests, or none (`Blocker.Kept`).
* `life_leaves_nothing`: however a life goes and ends, every power-request object it has created was
  closed exactly once, and Layer 1's veto is gone.
-/

namespace Runtime

open Blocker Machine Machine.Ledger

variable {Handle : Type} {a : Application Handle}

/-! ## The events -/

theorem switch_steps (o : SwitchCalls Handle) (mode : BlockerMode) (a : Application Handle) :
    CoordinatorSteps a.blockerCoordinator (a.setMode o mode).2.blockerCoordinator := by
  rcases Application.setMode_cases o mode a with ⟨-, t, he⟩ | ⟨t, he, -⟩ | ⟨t, error, -, he⟩
  · rw [he]
  · rw [he]
    exact .single (.setMode o.layers mode)
  · rw [he]
    exact .tail (.single (.setMode o.layers mode)) (.setMode o.rollback a.mode)

theorem runPowerAction_steps (o : PowerActionCalls Handle) (action : PowerAction)
    (a : Application Handle) :
    CoordinatorSteps a.blockerCoordinator (a.runPowerAction o action).2.blockerCoordinator := by
  unfold Application.runPowerAction
  dsimp only
  have hallow := switch_steps o.allow .allow { a with
    pendingBlockRestoreAfterWake := pendingWakeRestoreForTrayPowerAction a.mode action }
  split
  · rename_i hs
    rw [hs] at hallow
    exact hallow
  · rename_i a' hs
    rw [hs] at hallow
    split
    · exact hallow
    · split
      · have hblock := switch_steps o.restore .block a'.clearPendingBlockRestoreAfterWake
        split
        · rename_i hr
          rw [hr] at hblock
          exact hallow.trans hblock
        · rename_i hr
          rw [hr] at hblock
          exact hallow.trans hblock
      · exact hallow

theorem resume_steps (o : ResumeCalls Handle) (a : Application Handle) :
    CoordinatorSteps a.blockerCoordinator
      (a.handlePowerBroadcast o .resume).blockerCoordinator := by
  have hrenew : CoordinatorSteps a.blockerCoordinator
      (a.blockerCoordinator.renewSleepRequestsAfterResume o.renew).2 := .single (.renew o.renew)
  simp only [Application.handlePowerBroadcast, Application.restoreBlockAfterWakeIfNeeded]
  split
  · exact hrenew
  · have hrestore := hrenew.tail (.setMode o.restore .block)
    dsimp only [Application.clearPendingBlockRestoreAfterWake]
    split
    · rename_i hset
      rw [hset] at hrestore
      exact hrestore
    · rename_i hset
      rw [hset] at hrestore
      rw [Application.syncTray_coordinator]
      exact hrestore

theorem endSession_steps (wparam : Nat) (shutdownInProgress : Bool) (power : PowerApi Handle)
    (a : Application Handle) : CoordinatorSteps a.blockerCoordinator
      (a.handleEndSession wparam shutdownInProgress power).blockerCoordinator := by
  have hclear : CoordinatorSteps a.blockerCoordinator _ := .single .clearBlockerActive
  unfold Application.handleEndSession
  split
  · dsimp only
    split
    · exact hclear
    · unfold Application.handleForcedShutdownCleanup
      split
      · exact hclear
      · exact hclear.tail (.forcedShutdownCleanup power)
  · exact .refl

theorem handle_steps (e : Event Handle) (a : Application Handle) :
    CoordinatorSteps a.blockerCoordinator (e.handle a).blockerCoordinator := by
  cases e with
  | ipcRequest request o =>
    cases request with
    | setMode mode =>
      rw [Event.handle, Application.handleIpcRequest_setMode_snd]
      exact switch_steps _ _ a.clearPendingBlockRestoreAfterWake
    | setAutostart enabled =>
      obtain ⟨t, ht⟩ := Application.setAutostartEnabled_snd o.autostart enabled a
      rw [Event.handle, Application.handleIpcRequest_setAutostart_snd, ht]
    | status => exact .refl
    | shutdownServer => exact .refl
  | trayAction action o =>
    cases action with
    | block => exact switch_steps _ _ a.clearPendingBlockRestoreAfterWake
    | allow => exact switch_steps _ _ a.clearPendingBlockRestoreAfterWake
    | setAutostart enabled =>
      obtain ⟨t, ht⟩ := Application.setAutostartEnabled_snd o.autostart enabled a
      simp only [Event.handle, Application.handleTrayAction, ht]
      exact .refl
    | shutdown => exact runPowerAction_steps _ _ a
    | reboot => exact runPowerAction_steps _ _ a
    | sleep => exact runPowerAction_steps _ _ a
    | hibernate => exact runPowerAction_steps _ _ a
    | quit => exact .refl
  | queryEndSession =>
    simp only [Event.handle, Application.handleQueryEndSession]
    split <;> exact .refl
  | endSession wparam shutdownInProgress power =>
    exact endSession_steps wparam shutdownInProgress power a
  | powerBroadcast wparam o =>
    simp only [Event.handle]
    split
    · rename_i event _
      cases event with
      | suspend =>
        simp only [Application.handlePowerBroadcast]
        split <;> exact .refl
      | resume => exact resume_steps o a
    · exact .refl

/-! ## The power requests -/

section
variable [DecidableEq Handle]

theorem kept_events (events : List (Event Handle)) (ha : Kept a.blockerCoordinator.sleepBlocker) :
    Kept (events.foldl Event.handle a).blockerCoordinator.sleepBlocker := by
  refine inv_of_foldl (I := fun a : Application Handle => Kept a.blockerCoordinator.sleepBlocker)
    (fun a e ha => ?_) ha
  exact (handle_steps e a).kept ha

theorem kept_initial (o : LayerCalls Handle) (mode : BlockerMode) :
    Kept (BlockerCoordinator.setMode o mode {}).2.sleepBlocker :=
  CoordinatorSteps.kept (.single (.setMode o mode)) kept_init

theorem kept_bootstrap {o : Application.BootstrapCalls Handle} {options : RuntimeOptions}
    (h : Application.bootstrap o options = .ok a) : Kept a.blockerCoordinator.sleepBlocker := by
  obtain ⟨c, t, hnew, rfl⟩ := Application.bootstrap_eq_ok h
  have hkept := kept_initial o.layers options.initialMode
  unfold BlockerCoordinator.new at hnew
  split at hnew
  · cases hnew
  · rename_i hset
    cases hnew
    rw [hset] at hkept
    exact hkept

/-- What is left of the layers has closed its power object, and has no veto but for a reason that
Windows has refused to take back. -/
structure Gone (destroy : Except String Unit) (c : BlockerCoordinator Handle) : Prop where
  calls : exec holding none c.sleepBlocker.requests.calls = some none
  veto : c.shutdownBlocker.blockerActive = false
  reason : c.shutdownBlocker.reasonRegistered = true → ∃ error, destroy = .error error

theorem gone_drop {c : BlockerCoordinator Handle} (o : DropCalls Handle)
    (hc : Kept c.sleepBlocker) :
    Gone o.reasonDestroy (c.drop o) := by
  obtain ⟨hcalls, hnone⟩ := @Kept.drop Handle o.power c.sleepBlocker _ hc
  refine ⟨?_, rfl, fun hreason => ?_⟩
  · rw [Held, hnone] at hcalls
    exact hcalls
  · simp only [BlockerCoordinator.drop, ShutdownBlocker.drop, ShutdownBlocker.deactivate] at hreason
    split at hreason
    · simp_all
    · cases hdestroy : o.reasonDestroy with
      | error error => exact ⟨error, rfl⟩
      | ok _ => simp [hdestroy] at hreason

/-- Nothing was made yet. -/
theorem gone_empty (destroy : Except String Unit) : Gone destroy ({} : BlockerCoordinator Handle) :=
  ⟨rfl, rfl, fun h => by cases h⟩

theorem gone_life (o : LifeCalls Handle) (options : RuntimeOptions) (events : List (Event Handle)) :
    Gone o.last.reasonDestroy (life o options events).2 := by
  have hinitial := kept_initial o.bootstrap.layers options.initialMode
  unfold life
  split
  · exact gone_empty _
  · exact gone_empty _
  · split
    · rename_i c hset
      rw [hset] at hinitial
      exact gone_drop o.last hinitial
    · rename_i c hset
      rw [hset] at hinitial
      split
      · exact gone_drop o.last hinitial
      · rename_i a ha
        have hevents := kept_events events (kept_bootstrap ha)
        exact gone_drop o.last
          (CoordinatorSteps.kept (.single (.setMode o.blockerShutdown .allow)) hevents)

/-- **The power object is owned at every moment.** After any startup that succeeds and any events,
whatever fails: the power calls made so far are those of a program that creates an object only while
it has none, and sets, clears and closes no other; it has none now, or has acquired both requests on
it. -/
theorem power_object_owned {o : Application.BootstrapCalls Handle} {options : RuntimeOptions}
    (h : Application.bootstrap o options = .ok a) (events : List (Event Handle)) :
    let requests := (events.foldl Event.handle a).blockerCoordinator.sleepBlocker.requests
    exec holding none requests.calls = some requests.handle ∧
      (requests.handle = none ∨ requests.acquired.all id = true) := by
  have hkept := kept_events events (kept_bootstrap h)
  refine ⟨hkept.held, ?_⟩
  rcases hkept.whole with hactive | hreleased
  · simp only [SleepBlocker.isActive, PowerRequests.isActive, Bool.and_eq_true] at hactive
    exact .inr hactive.2
  · exact .inl hreleased.1

/-- **A life leaves nothing behind.** However the startup, the message loop and the shutdown go:
when the application is dropped, every power-request object that it has created was closed exactly
once, and the end of the session is refused no longer; Layer 1's reason is still registered only if
Windows has refused to take it back at the very end. -/
theorem life_leaves_nothing (o : LifeCalls Handle) (options : RuntimeOptions)
    (events : List (Event Handle)) :
    let left := (life o options events).2
    let calls := left.sleepBlocker.requests.calls
    exec holding none calls = some none ∧ calls.countP Call.creates = calls.countP Call.closes ∧
      left.shutdownBlocker.blockerActive = false ∧
      (left.shutdownBlocker.reasonRegistered = true → ∃ error, o.last.reasonDestroy =
        .error error) := by
  obtain ⟨hcalls, hveto, hreason⟩ := gone_life o options events
  exact ⟨hcalls, created_eq_closed hcalls, hveto, hreason⟩

end

/-- A runtime in Block mode that has renewed its requests holds the second object. -/
theorem renewed_object_owned :
    ∃ a : Application Unit, Application.bootstrap (.succeed ()) ⟨.block, .headless⟩ = .ok a ∧
      let requests :=
        ([Event.powerBroadcast 18 (.succeed ())].foldl Event.handle
          a).blockerCoordinator.sleepBlocker.requests
      exec holding none requests.calls = some requests.handle ∧ requests.handle = some () := by
  obtain ⟨a, ha⟩ : ∃ a : Application Unit, Application.bootstrap (.succeed ()) ⟨.block, .headless⟩ =
    .ok a := ⟨_, rfl⟩
  refine ⟨a, ha, (power_object_owned ha [.powerBroadcast 18 (.succeed ())]).1, ?_⟩
  cases ha
  rfl

end Runtime

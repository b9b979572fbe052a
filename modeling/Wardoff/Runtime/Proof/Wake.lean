import Wardoff.Runtime.Proof.Application

/-!
# The automatic return to Block after wake

A tray Sleep or Hibernate begun in Block mode queues a restoration
(`pendingBlockRestoreAfterWake`); the next resume performs it. The slot is recomputed by every tray
power action from the mode it finds.

* `pending_handle`: a restoration is pending after an event because the event queued it, or because
  it was pending and the event is none of those that cancel it.
* `no_spurious_block`: a pending restoration means Allow mode, a resume restores only what a
  suspend request queued, each request is restored at most once, and suspend notifications do not
  matter.
* `wake_restore_kept_iff`: the restoration survives until the resume exactly when no second tray
  Sleep or Hibernate comes in between: the second one finds Allow mode and empties the slot.
-/

namespace Runtime

open Blocker Ipc Machine

variable {Handle : Type}

/-! ## The events of the history -/

namespace Event

/-- The power action of a tray event. -/
def powerAction : Event Handle → Option PowerAction
  | .trayAction .shutdown _ => some .shutdown
  | .trayAction .reboot _ => some .reboot
  | .trayAction .sleep _ => some .sleep
  | .trayAction .hibernate _ => some .hibernate
  | _ => none

/-- A tray Sleep or Hibernate. -/
def isTraySuspend (e : Event Handle) : Bool :=
  e.powerAction == some .sleep || e.powerAction == some .hibernate

/-- Tray Block or Allow, or an IPC `SetMode`. -/
def isExplicitModeCommand : Event Handle → Bool
  | .trayAction .block _ => true
  | .trayAction .allow _ => true
  | .ipcRequest (.setMode _) _ => true
  | _ => false

def isBroadcast (kind : PowerBroadcastEvent) : Event Handle → Bool
  | .powerBroadcast wparam _ => powerBroadcastEvent wparam == some kind
  | _ => false

/-- The event's handler returned `Ok` (a tray action). -/
def succeeds (a : Application Handle) : Event Handle → Bool
  | .trayAction action o => (a.handleTrayAction o action).1.isOk
  | _ => false

/-- The event runs the forced-shutdown cleanup. -/
def runsForcedCleanup (a : Application Handle) : Event Handle → Bool
  | .endSession wparam shutdownInProgress _ =>
    shouldRunEndSessionCleanup wparam shutdownInProgress && !a.endSessionCleanupStarted &&
      !a.forcedShutdownCleanupCompleted
  | _ => false

/-- A tray Sleep or Hibernate, begun in Block mode, that returned `Ok`. -/
def queuesRestore (a : Application Handle) (e : Event Handle) : Bool :=
  a.mode == .block && e.isTraySuspend && e.succeeds a

/-- An explicit mode command, a failed tray power action, a forced cleanup or a resume. -/
def cancelsRestore (a : Application Handle) (e : Event Handle) : Bool :=
  e.isExplicitModeCommand || (e.powerAction.isSome && !e.succeeds a) || e.runsForcedCleanup a ||
    e.isBroadcast .resume

/-- A resume that changes the mode from Allow to Block. -/
def restoresBlock (a : Application Handle) (e : Event Handle) : Bool :=
  e.isBroadcast .resume && a.mode == .allow && (e.handle a).mode == .block

end Event

/-! ## The handlers and the pending restoration -/

namespace Application

variable {a : Application Handle}

@[simp] theorem setMode_pending (o : SwitchCalls Handle) (mode : BlockerMode)
    (a : Application Handle) : (a.setMode o mode).2.pendingBlockRestoreAfterWake =
      a.pendingBlockRestoreAfterWake := by
  obtain ⟨c, t, h⟩ := setMode_frame o mode a
  rw [h]

/-- A power action that succeeds ends in Allow mode with the slot recomputed; one that fails empties
the slot. -/
theorem runPowerAction_spec (o : PowerActionCalls Handle) (action : PowerAction)
    (a : Application Handle) :
    ((a.runPowerAction o action).1.isOk = true ∧ (a.runPowerAction o action).2.mode = .allow ∧
      (a.runPowerAction o action).2.pendingBlockRestoreAfterWake =
        pendingWakeRestoreForTrayPowerAction a.mode action) ∨
    ((a.runPowerAction o action).1.isOk = false ∧
      (a.runPowerAction o action).2.pendingBlockRestoreAfterWake = none) := by
  unfold runPowerAction
  dsimp only
  generalize hq : Application.setMode o.allow .allow { a with
    pendingBlockRestoreAfterWake := pendingWakeRestoreForTrayPowerAction a.mode action } = q
  obtain ⟨result, a'⟩ := q
  cases result with
  | error e => exact .inr ⟨rfl, rfl⟩
  | ok u =>
    have hmode : a'.mode = .allow := by
      have := setMode_mode_of_ok (congrArg Prod.fst hq)
      rwa [hq] at this
    have hpend : a'.pendingBlockRestoreAfterWake =
        pendingWakeRestoreForTrayPowerAction a.mode action := by
      have := setMode_pending o.allow .allow { a with
        pendingBlockRestoreAfterWake := pendingWakeRestoreForTrayPowerAction a.mode action }
      rwa [hq] at this
    dsimp only
    split
    · exact .inl ⟨rfl, hmode, hpend⟩
    · refine .inr ?_
      split
      · have hclear := setMode_pending o.restore .block a'.clearPendingBlockRestoreAfterWake
        split
        · rename_i h
          rw [h] at hclear
          exact ⟨rfl, hclear⟩
        · rename_i h
          rw [h] at hclear
          exact ⟨rfl, hclear⟩
      · exact ⟨rfl, rfl⟩

/-- In Allow mode a power action leaves the mode alone. -/
theorem runPowerAction_mode_of_allow (o : PowerActionCalls Handle) (action : PowerAction)
    (hm : a.mode = .allow) : (a.runPowerAction o action).2.mode = .allow := by
  have hset : ∀ p, (Application.setMode o.allow .allow
      { a with pendingBlockRestoreAfterWake := p }).2.mode = .allow := by
    intro p
    have h : ({ a with pendingBlockRestoreAfterWake := p } : Application Handle).mode = .allow := hm
    unfold Application.mode at h ⊢
    rwa [setMode_coordinator_of_eq o.allow h]
  unfold runPowerAction
  dsimp only
  specialize hset (pendingWakeRestoreForTrayPowerAction a.mode action)
  split
  · rename_i h
    rw [h] at hset
    exact hset
  · rename_i h
    rw [h] at hset
    split
    · exact hset
    · rw [if_neg (by simp [hm])]
      exact hset

theorem restoreBlockAfterWakeIfNeeded_none (o : ResumeCalls Handle)
    (h : a.pendingBlockRestoreAfterWake = none) : a.restoreBlockAfterWakeIfNeeded o = a := by
  simp [restoreBlockAfterWakeIfNeeded, h, pendingWakeRestoreReadyForResume]

/-- A pending restoration is taken out of the slot and tried once. -/
theorem restoreBlockAfterWakeIfNeeded_some (o : ResumeCalls Handle)
    (h : a.pendingBlockRestoreAfterWake.isSome) :
    ∃ t, a.restoreBlockAfterWakeIfNeeded o = { a with
      blockerCoordinator := (a.blockerCoordinator.setMode o.restore .block).2
      trayService := t
      pendingBlockRestoreAfterWake := none } := by
  obtain ⟨p, hp⟩ := Option.isSome_iff_exists.mp h
  simp only [restoreBlockAfterWakeIfNeeded, pendingWakeRestoreReadyForResume_eq, hp,
    Option.map_some]
  have hc : a.clearPendingBlockRestoreAfterWake.blockerCoordinator = a.blockerCoordinator := rfl
  rw [hc]
  split
  · rename_i e c hs
    exact ⟨a.trayService, by rw [hs]; rfl⟩
  · rename_i b c hs
    obtain ⟨t, ht⟩ := syncTray_snd o.tray c.mode
      { a.clearPendingBlockRestoreAfterWake with blockerCoordinator := c }
    exact ⟨t, by rw [ht, hs]; rfl⟩

theorem renew_mode (power : PowerApi Handle) (c : BlockerCoordinator Handle) :
    (c.renewSleepRequestsAfterResume power).2.mode = c.mode := by
  unfold BlockerCoordinator.renewSleepRequestsAfterResume
  split <;> rfl

theorem restoreBlockAfterWakeIfNeeded_pending (o : ResumeCalls Handle) (a : Application Handle) :
    (a.restoreBlockAfterWakeIfNeeded o).pendingBlockRestoreAfterWake = none := by
  cases hp : a.pendingBlockRestoreAfterWake with
  | none =>
    rw [restoreBlockAfterWakeIfNeeded_none o hp]
    exact hp
  | some p =>
    obtain ⟨t, ht⟩ := restoreBlockAfterWakeIfNeeded_some (a := a) o (by simp [hp])
    rw [ht]

/-- After a resume nothing is pending. -/
theorem resume_pending (o : ResumeCalls Handle) (a : Application Handle) :
    (a.handlePowerBroadcast o .resume).pendingBlockRestoreAfterWake = none :=
  restoreBlockAfterWakeIfNeeded_pending _ _

/-- Without a pending restoration a resume leaves the mode alone. -/
theorem resume_mode_of_none (o : ResumeCalls Handle)
    (h : a.pendingBlockRestoreAfterWake = none) :
    (a.handlePowerBroadcast o .resume).mode = a.mode := by
  have hn := restoreBlockAfterWakeIfNeeded_none (a := { a with blockerCoordinator :=
    (a.blockerCoordinator.renewSleepRequestsAfterResume o.renew).2 }) o h
  simp only [handlePowerBroadcast, hn]
  exact renew_mode _ _

/-- A suspend notification marks what is pending. -/
theorem suspend_eq (o : ResumeCalls Handle) (a : Application Handle) :
    a.handlePowerBroadcast o .suspend = { a with
      pendingBlockRestoreAfterWake :=
        a.pendingBlockRestoreAfterWake.map PendingWakeRestore.markSystemSuspended } := by
  obtain ⟨c, t, completed, pending, started, n⟩ := a
  cases pending <;> rfl

/-- A forced end of session runs the cleanup, or changes nothing but Layer 1's static. -/
theorem handleEndSession_pending (wparam : Nat) (shutdownInProgress : Bool)
    (power : PowerApi Handle) (a : Application Handle) :
    ((Event.endSession wparam shutdownInProgress power).runsForcedCleanup a = true ∧
      (a.handleEndSession wparam shutdownInProgress power).pendingBlockRestoreAfterWake = none ∧
      (a.handleEndSession wparam shutdownInProgress power).mode = .allow) ∨
    ((Event.endSession wparam shutdownInProgress power).runsForcedCleanup a = false ∧
      (a.handleEndSession wparam shutdownInProgress power).pendingBlockRestoreAfterWake =
        a.pendingBlockRestoreAfterWake ∧
      (a.handleEndSession wparam shutdownInProgress power).mode = a.mode) := by
  simp only [handleEndSession, Event.runsForcedCleanup, handleForcedShutdownCleanup]
  cases shouldRunEndSessionCleanup wparam shutdownInProgress with
  | false => exact .inr ⟨rfl, rfl, rfl⟩
  | true =>
    cases hs : a.endSessionCleanupStarted with
    | true => exact .inr ⟨rfl, rfl, rfl⟩
    | false =>
      cases hf : a.forcedShutdownCleanupCompleted with
      | true => exact .inr ⟨rfl, rfl, rfl⟩
      | false => exact .inl ⟨rfl, rfl, rfl⟩

end Application

/-! ## One event -/

section
variable {a : Application Handle} {e : Event Handle}

/-- A tray power action is `runPowerAction`. -/
theorem handle_of_powerAction {action : PowerAction} (h : e.powerAction = some action) :
    ∃ o, e.handle a = (a.runPowerAction o action).2 ∧
      e.succeeds a = (a.runPowerAction o action).1.isOk := by
  have hok : ∀ r : Except String Unit × Application Handle,
      (r.1.map fun _ => false).isOk = r.1.isOk := by
    rintro ⟨_ | _, _⟩ <;> rfl
  unfold Event.powerAction at h
  split at h <;> cases h <;> exact ⟨_, rfl, hok _⟩

/-- The slot a power action that succeeds leaves is filled exactly for a suspend request begun in
Block mode. -/
theorem pendingWakeRestoreForTrayPowerAction_isSome {mode : BlockerMode} {action : PowerAction} :
    (pendingWakeRestoreForTrayPowerAction mode action).isSome =
      (mode == .block && (action == .sleep || action == .hibernate)) := by
  cases mode <;> cases action <;> rfl

/-- **What an event does to the pending restoration**: it queues one, it empties the slot, or it
leaves the mode and the queued action alone. -/
theorem handle_cases (a : Application Handle) (e : Event Handle) :
    (e.queuesRestore a = true ∧ (e.handle a).mode = .allow ∧
      (e.handle a).pendingBlockRestoreAfterWake.isSome = true) ∨
    ((e.cancelsRestore a = true ∨ e.powerAction.isSome = true) ∧ e.queuesRestore a = false ∧
      (e.handle a).pendingBlockRestoreAfterWake = none) ∨
    (e.cancelsRestore a = false ∧ e.powerAction = none ∧ (e.handle a).mode = a.mode ∧
      (e.handle a).pendingBlockRestoreAfterWake.map PendingWakeRestore.action =
        a.pendingBlockRestoreAfterWake.map PendingWakeRestore.action) := by
  cases hp : e.powerAction with
  | some action =>
    obtain ⟨o, hh, hs⟩ := handle_of_powerAction (a := a) hp
    have hq : e.queuesRestore a = (a.mode == .block && (action == .sleep || action == .hibernate) &&
        (a.runPowerAction o action).1.isOk) := by
      simp [Event.queuesRestore, Event.isTraySuspend, hp, hs]
    rw [hh]
    rcases Application.runPowerAction_spec o action a with ⟨hok, hm, hpend⟩ | ⟨hok, hpend⟩
    · cases hsome : (pendingWakeRestoreForTrayPowerAction a.mode action).isSome with
      | true =>
        refine .inl ⟨?_, hm, by rw [hpend, hsome]⟩
        rw [hq, hok, Bool.and_true, ← pendingWakeRestoreForTrayPowerAction_isSome, hsome]
      | false =>
        refine .inr (.inl ⟨.inr rfl, ?_, ?_⟩)
        · rw [hq, hok, Bool.and_true, ← pendingWakeRestoreForTrayPowerAction_isSome, hsome]
        · rw [hpend]
          simpa using hsome
    · exact .inr (.inl ⟨.inr rfl, by rw [hq, hok, Bool.and_false], hpend⟩)
  | none =>
    have hq : e.queuesRestore a = false := by simp [Event.queuesRestore, Event.isTraySuspend, hp]
    refine .inr ?_
    rw [hq]
    cases e with
    | ipcRequest request o =>
      cases request with
      | setMode mode =>
        refine .inl ⟨.inl (by simp [Event.cancelsRestore, Event.isExplicitModeCommand]), rfl, ?_⟩
        simp only [Event.handle, Application.handleIpcRequest_setMode_snd]
        exact Application.setMode_pending _ _ _
      | setAutostart enabled =>
        obtain ⟨t, ht⟩ := Application.setAutostartEnabled_snd o.autostart enabled a
        have hh : (Event.ipcRequest (.setAutostart enabled) o).handle a =
            { a with trayService := t } :=
          (Application.handleIpcRequest_setAutostart_snd o enabled a).trans ht
        rw [hh]
        exact .inr ⟨rfl, rfl, rfl, rfl⟩
      | status => exact .inr ⟨rfl, rfl, rfl, rfl⟩
      | shutdownServer => exact .inr ⟨rfl, rfl, rfl, rfl⟩
    | trayAction action o =>
      cases action with
      | block =>
        refine .inl ⟨.inl (by simp [Event.cancelsRestore, Event.isExplicitModeCommand]), rfl, ?_⟩
        exact Application.setMode_pending _ _ _
      | allow =>
        refine .inl ⟨.inl (by simp [Event.cancelsRestore, Event.isExplicitModeCommand]), rfl, ?_⟩
        exact Application.setMode_pending _ _ _
      | setAutostart enabled =>
        obtain ⟨t, ht⟩ := Application.setAutostartEnabled_snd o.autostart enabled a
        have hh : (Event.trayAction (.setAutostart enabled) o).handle a =
          { a with trayService := t } :=
          ht
        rw [hh]
        exact .inr ⟨rfl, rfl, rfl, rfl⟩
      | quit => exact .inr ⟨rfl, rfl, rfl, rfl⟩
      | shutdown => cases hp
      | reboot => cases hp
      | sleep => cases hp
      | hibernate => cases hp
    | queryEndSession =>
      refine .inr ⟨rfl, rfl, ?_⟩
      simp only [Event.handle, Application.handleQueryEndSession]
      split <;> exact ⟨rfl, rfl⟩
    | endSession wparam shutdownInProgress power =>
      rcases Application.handleEndSession_pending wparam shutdownInProgress power a with
        ⟨hf, hn, -⟩ | ⟨hf, hpend, hm⟩
      · exact .inl ⟨.inl (by simp [Event.cancelsRestore, hf]), rfl, hn⟩
      · refine .inr ⟨?_, rfl, hm, congrArg _ hpend⟩
        simp [Event.cancelsRestore, hf, Event.isExplicitModeCommand, Event.isBroadcast,
          Event.powerAction]
    | powerBroadcast wparam o =>
      cases hb : powerBroadcastEvent wparam with
      | none =>
        refine .inr ⟨?_, rfl, ?_⟩
        · simp [Event.cancelsRestore, Event.isExplicitModeCommand, Event.powerAction,
            Event.runsForcedCleanup, Event.isBroadcast, hb]
        · simp [Event.handle, hb]
      | some event =>
        cases event with
        | resume =>
          refine .inl ⟨.inl (by simp [Event.cancelsRestore, Event.isBroadcast, hb]), rfl, ?_⟩
          simp only [Event.handle, hb]
          exact Application.resume_pending o a
        | suspend =>
          refine .inr ⟨?_, rfl, ?_⟩
          · simp [Event.cancelsRestore, Event.isExplicitModeCommand, Event.powerAction,
              Event.runsForcedCleanup, Event.isBroadcast, hb]
          · simp only [Event.handle, hb, Application.suspend_eq]
            exact ⟨rfl, by simp [Function.comp_def]⟩

/-- **The step of the slot**: something is pending because the event queued it, or because it was
pending and the event cancels nothing. -/
theorem pending_handle (h : (e.handle a).pendingBlockRestoreAfterWake.isSome = true) :
    e.queuesRestore a = true ∨
      (a.pendingBlockRestoreAfterWake.isSome = true ∧ ¬ e.cancelsRestore a = true) := by
  rcases handle_cases a e with ⟨hq, -⟩ | ⟨-, -, hn⟩ | ⟨hc, -, -, hp⟩
  · exact .inl hq
  · simp [hn] at h
  · refine .inr ⟨?_, by simp [hc]⟩
    have := congrArg Option.isSome hp
    simpa [h] using this.symm

/-- A resume enters Block only by taking a pending restoration. -/
theorem restoresBlock_pending (h : e.restoresBlock a = true) :
    a.pendingBlockRestoreAfterWake.isSome = true ∧
      (e.handle a).pendingBlockRestoreAfterWake = none := by
  simp only [Event.restoresBlock, Bool.and_eq_true, beq_iff_eq] at h
  obtain ⟨⟨hr, ha⟩, hb⟩ := h
  cases e with
  | powerBroadcast wparam o =>
    simp only [Event.isBroadcast, beq_iff_eq] at hr
    simp only [Event.handle, hr] at hb ⊢
    refine ⟨?_, Application.resume_pending o a⟩
    cases hp : a.pendingBlockRestoreAfterWake with
    | some p => rfl
    | none =>
      rw [Application.resume_mode_of_none o hp, ha] at hb
      cases hb
  | _ => cases hr

end

/-! ## Suspend notifications -/

section
variable {a : Application Handle}

/-- The same application after a suspend notification. -/
def Application.marked (a : Application Handle) : Application Handle :=
  { a with
    pendingBlockRestoreAfterWake :=
      a.pendingBlockRestoreAfterWake.map PendingWakeRestore.markSystemSuspended }

@[simp] theorem Application.marked_mode : a.marked.mode = a.mode := rfl

@[simp] theorem Application.marked_marked : a.marked.marked = a.marked := by
  obtain ⟨c, t, completed, pending, started, n⟩ := a
  cases pending <;> rfl

/-- No handler tells a marked slot from an unmarked one. -/
theorem handle_marked (a : Application Handle) (e : Event Handle) :
    (e.handle a.marked).marked = (e.handle a).marked ∧ e.reply a.marked = e.reply a := by
  obtain ⟨c, t, completed, pending, started, n⟩ := a
  cases e with
  | ipcRequest request o =>
    cases request with
    | setMode mode => exact ⟨rfl, rfl⟩
    | setAutostart enabled =>
      simp only [Event.handle, Event.reply, Application.handleIpcRequest,
        Application.setAutostartEnabled, Application.marked]
      cases o.autostart.set with
      | ok u => exact ⟨by cases pending <;> rfl, rfl⟩
      | error error =>
        cases resolvedAutostartStateForTray o.autostart.before.toOption o.autostart.after <;>
          exact ⟨by cases pending <;> rfl, rfl⟩
    | status => exact ⟨by cases pending <;> rfl, rfl⟩
    | shutdownServer => exact ⟨by cases pending <;> rfl, rfl⟩
  | trayAction action o =>
    cases action with
    | setAutostart enabled =>
      refine ⟨?_, rfl⟩
      simp only [Event.handle, Application.handleTrayAction, Application.setAutostartEnabled,
        Application.marked]
      cases o.autostart.set with
      | ok u => cases pending <;> rfl
      | error error =>
        cases resolvedAutostartStateForTray o.autostart.before.toOption o.autostart.after <;>
          cases pending <;> rfl
    | quit => exact ⟨by cases pending <;> rfl, rfl⟩
    | _ => exact ⟨rfl, rfl⟩
  | queryEndSession =>
    refine ⟨?_, rfl⟩
    cases hv : c.shutdownBlocker.blockerActive <;> cases pending <;>
      simp [Event.handle, Application.handleQueryEndSession, Application.marked, hv]
  | endSession wparam shutdownInProgress power =>
    refine ⟨?_, rfl⟩
    simp only [Event.handle, Application.handleEndSession, Application.handleForcedShutdownCleanup,
      Application.marked]
    cases shouldRunEndSessionCleanup wparam shutdownInProgress <;> cases started <;>
      cases completed <;> cases pending <;> rfl
  | powerBroadcast wparam o =>
    refine ⟨?_, rfl⟩
    simp only [Event.handle]
    cases powerBroadcastEvent wparam with
    | none => cases pending <;> rfl
    | some event => cases event <;> rcases pending with _ | ⟨_⟩ | ⟨_⟩ <;> rfl

/-- The run without some of its suspend notifications. -/
inductive DropsSuspends : List (Event Handle) → List (Event Handle) → Prop where
  | nil : DropsSuspends [] []
  | keep (e : Event Handle) {es es' : List (Event Handle)} :
    DropsSuspends es es' → DropsSuspends (e :: es) (e :: es')
  | drop {e : Event Handle} {es es' : List (Event Handle)} :
    e.isBroadcast .suspend = true → DropsSuspends es es' → DropsSuspends (e :: es) es'

/-- The mode after each event other than a suspend notification, and the reply it gave. -/
def observed : Application Handle → List (Event Handle) → List (BlockerMode × Option IpcResponse)
  | _, [] => []
  | a, e :: es =>
    if e.isBroadcast .suspend then observed (e.handle a) es
    else ((e.handle a).mode, e.reply a) :: observed (e.handle a) es

theorem handle_suspend {e : Event Handle} (he : e.isBroadcast .suspend = true) :
    e.handle a = a.marked := by
  cases e with
  | powerBroadcast wparam o =>
    simp only [Event.isBroadcast, beq_iff_eq] at he
    simp only [Event.handle, he]
    exact Application.suspend_eq o a
  | _ => cases he

/-- Marking survives every run, and hides nothing. -/
theorem foldl_marked_eq {b : Application Handle} (h : a.marked = b.marked)
    (es : List (Event Handle)) :
    (es.foldl Event.handle a).marked = (es.foldl Event.handle b).marked ∧
      observed a es = observed b es := by
  induction es generalizing a b with
  | nil => exact ⟨h, rfl⟩
  | cons e es ih =>
    have hstep : (e.handle a).marked = (e.handle b).marked := by
      rw [← (handle_marked a e).1, h, (handle_marked b e).1]
    have hreply : e.reply a = e.reply b := by
      rw [← (handle_marked a e).2, h, (handle_marked b e).2]
    have hmode : (e.handle a).mode = (e.handle b).mode := by
      simpa using congrArg Application.mode hstep
    obtain ⟨hr, ho⟩ := ih hstep
    refine ⟨hr, ?_⟩
    simp only [observed, ho, hreply, hmode]

theorem dropsSuspends_marked {es es' : List (Event Handle)} (h : DropsSuspends es es')
    (a : Application Handle) :
    (es.foldl Event.handle a).marked = (es'.foldl Event.handle a).marked ∧
      observed a es = observed a es' := by
  induction h generalizing a with
  | nil => exact ⟨rfl, rfl⟩
  | keep e h ih =>
    obtain ⟨hr, ho⟩ := ih (e.handle a)
    exact ⟨hr, by simp only [observed, ho]⟩
  | @drop e es es' he h ih =>
    obtain ⟨hr, ho⟩ := foldl_marked_eq (a := e.handle a) (b := a)
      (by rw [handle_suspend he, Application.marked_marked]) es
    obtain ⟨hr', ho'⟩ := ih a
    refine ⟨hr.trans hr', ?_⟩
    simp only [observed, he, if_true, ho, ho']

end

/-! ## Runs -/

/-- **No spurious automatic Block.** A pending restoration means Allow mode; a resume enters Block
only for a suspend request that succeeded from Block mode and was not cancelled since; there are no
more restorations than such requests; and without some of its suspend notifications the run shows
the same modes and replies. -/
theorem no_spurious_block {o : Application.BootstrapCalls Handle} {options : RuntimeOptions}
    {a : Application Handle} (h : Application.bootstrap o options = .ok a)
    (es : List (Event Handle)) :
    ((es.foldl Event.handle a).pendingBlockRestoreAfterWake.isSome = true →
      (es.foldl Event.handle a).mode = .allow) ∧
    (∀ e : Event Handle, e.restoresBlock (es.foldl Event.handle a) = true →
      Since Event.handle (fun a e => e.queuesRestore a = true)
        (fun a e => e.cancelsRestore a = true) a es) ∧
    count Event.handle (fun a e => e.restoresBlock a) a es ≤
      count Event.handle (fun a e => e.queuesRestore a) a es ∧
    ∀ es', DropsSuspends es es' →
      (es.foldl Event.handle a).mode = (es'.foldl Event.handle a).mode ∧
        observed a es = observed a es' := by
  obtain ⟨c, t, -, rfl⟩ := Application.bootstrap_eq_ok h
  refine ⟨?_, ?_, ?_, ?_⟩
  · refine inv_of_foldl (I := fun a : Application Handle =>
      a.pendingBlockRestoreAfterWake.isSome = true → a.mode = .allow) ?_ (by simp)
    intro a e hi hp
    rcases handle_cases a e with ⟨-, hm, -⟩ | ⟨-, -, hn⟩ | ⟨-, -, hm, hpe⟩
    · exact hm
    · simp [hn] at hp
    · have hs := congrArg Option.isSome hpe
      rw [hm, hi (by simpa [hp] using hs.symm)]
  · intro e he
    refine since_of_step (I := fun a : Application Handle =>
      a.pendingBlockRestoreAfterWake.isSome = true) (fun _ _ => pending_handle) (by simp) ?_
    exact (restoresBlock_pending he).1
  · -- the credit is the pending restoration itself
    have hcredit := count_add_le (f := Event.handle) (p := fun a e => e.restoresBlock a)
      (q := fun a e => e.queuesRestore a)
      (μ := fun a : Application Handle => a.pendingBlockRestoreAfterWake.isSome.toNat) ?_
      { blockerCoordinator := c, trayService := t } es
    · simp only [Option.isSome_none, Bool.toNat_false] at hcredit
      omega
    · intro a e
      cases hr : e.restoresBlock a with
      | true =>
        obtain ⟨hp, hn⟩ := restoresBlock_pending hr
        simp [hp, hn]
      | false =>
        cases hp : (e.handle a).pendingBlockRestoreAfterWake.isSome with
        | false => simp
        | true =>
          rcases pending_handle hp with hq | ⟨hp', -⟩
          · simp [hq]
          · simp [hp']
  · intro es' hd
    obtain ⟨hm, ho⟩ := dropsSuspends_marked hd { blockerCoordinator := c, trayService := t }
    exact ⟨by simpa using congrArg Application.mode hm, ho⟩

/-- A tray Sleep from Block mode and two resumes: one restoration. -/
theorem no_spurious_block_one_sleep :
    ∃ a : Application Unit,
      Application.bootstrap (.succeed ()) ⟨.block, .visible⟩ = .ok a ∧
      count Event.handle (fun a e => e.restoresBlock a) a
        [.trayAction .sleep (.succeed ()), .powerBroadcast 18 (.succeed ()),
          .powerBroadcast 7 (.succeed ())] ≤ 1 :=
  ⟨_, rfl, (@no_spurious_block Unit (.succeed ()) ⟨.block, .visible⟩ _ rfl _).2.2.1⟩

/-! ## The restoration until the next resume -/

/-- The events between a suspend request and its resume: no resume, no explicit mode command, no
tray Shutdown or Reboot and no forced cleanup. -/
def Event.LeavesRestore (a : Application Handle) (e : Event Handle) : Prop :=
  e.isBroadcast .resume = false ∧ e.isExplicitModeCommand = false ∧
    e.powerAction ≠ some .shutdown ∧ e.powerAction ≠ some .reboot ∧ e.runsForcedCleanup a = false

section
variable {a : Application Handle} {e : Event Handle}

/-- In Allow mode such an event keeps the mode, and the restoration unless it is a tray suspend. -/
theorem handle_leavesRestore (hm : a.mode = .allow) (he : e.LeavesRestore a) :
    (e.handle a).mode = .allow ∧ (e.handle a).pendingBlockRestoreAfterWake.isSome =
      (a.pendingBlockRestoreAfterWake.isSome && !e.isTraySuspend) := by
  obtain ⟨hres, hexp, hsd, hrb, hf⟩ := he
  rcases handle_cases a e with ⟨hq, -⟩ | ⟨hc, -, hn⟩ | ⟨-, hp, hmode, hpend⟩
  · simp [Event.queuesRestore, hm] at hq
  · cases hp : e.powerAction with
    | none => simp [Event.cancelsRestore, hres, hexp, hf, hp] at hc
    | some action =>
      obtain ⟨o, hh, -⟩ := handle_of_powerAction (a := a) hp
      refine ⟨by rw [hh]; exact Application.runPowerAction_mode_of_allow o action hm, ?_⟩
      rw [hn]
      cases action <;> simp_all [Event.isTraySuspend]
  · refine ⟨hmode.trans hm, ?_⟩
    have := congrArg Option.isSome hpend
    simpa [Event.isTraySuspend, hp] using this

theorem foldl_leavesRestore {w : List (Event Handle)} (hm : a.mode = .allow)
    (hw : Along (total Event.handle) Event.LeavesRestore a w) :
    (w.foldl Event.handle a).mode = .allow ∧
      (w.foldl Event.handle a).pendingBlockRestoreAfterWake.isSome =
        (a.pendingBlockRestoreAfterWake.isSome && w.all fun e => !e.isTraySuspend) := by
  induction w generalizing a with
  | nil => simp [hm]
  | cons e w ih =>
    rw [along_total_cons] at hw
    obtain ⟨hm', hp'⟩ := handle_leavesRestore hm hw.1
    obtain ⟨hmode, hpend⟩ := ih hm' hw.2
    refine ⟨hmode, ?_⟩
    rw [List.foldl_cons, hpend, hp', List.all_cons, Bool.and_assoc]

/-- A resume whose activation succeeds restores Block exactly when a restoration is pending. -/
theorem resume_mode_eq_block_iff {o : ResumeCalls Handle} (hm : a.mode = .allow)
    (hact : (a.blockerCoordinator.activateLayers o.restore).1 = .ok ()) :
    (a.handlePowerBroadcast o .resume).mode = .block ↔
      a.pendingBlockRestoreAfterWake.isSome = true := by
  cases hp : a.pendingBlockRestoreAfterWake with
  | none =>
    rw [Application.resume_mode_of_none o hp, hm]
    simp
  | some p =>
    have hcm : a.blockerCoordinator.mode = .allow := hm
    have hren : a.blockerCoordinator.renewSleepRequestsAfterResume o.renew =
        (.ok (), a.blockerCoordinator) := by
      simp [BlockerCoordinator.renewSleepRequestsAfterResume, hcm]
    obtain ⟨t, ht⟩ := Application.restoreBlockAfterWakeIfNeeded_some (a := a) o (by simp [hp])
    have hh : a.handlePowerBroadcast o .resume = a.restoreBlockAfterWakeIfNeeded o := by
      simp only [Application.handlePowerBroadcast, hren]
    rw [hh, ht]
    simp [Application.mode, setMode_mode, setMode_block_of_activateLayers hcm hact, Except.isOk,
      Except.toBool]

theorem handle_resume {wparam : Nat} (hr : powerBroadcastEvent wparam = some .resume)
    {o : ResumeCalls Handle} :
    (Event.powerBroadcast wparam o).handle a = a.handlePowerBroadcast o .resume := by
  simp [Event.handle, hr]

/-- **When the restoration survives until the resume.** After a tray Sleep or Hibernate that
succeeded from Block mode, and events that are none of those which may end the restoration, a resume
whose layers all activate leaves Block mode exactly if there was no further tray Sleep or
Hibernate. -/
theorem wake_restore_kept_iff (he : e.queuesRestore a = true) (w : List (Event Handle))
    (hw : Along (total Event.handle) Event.LeavesRestore (e.handle a) w) {wparam : Nat}
    (hr : powerBroadcastEvent wparam = some .resume) {o : ResumeCalls Handle}
    {b : Application Handle} (hb : w.foldl Event.handle (e.handle a) = b)
    (hact : (b.blockerCoordinator.activateLayers o.restore).1 = .ok ()) :
    ((Event.powerBroadcast wparam o).handle b).mode = .block ↔
      ∀ e' ∈ w, e'.isTraySuspend = false := by
  subst hb
  rcases handle_cases a e with ⟨-, hm, hp⟩ | ⟨-, hq, -⟩ | ⟨-, hp, -⟩
  · obtain ⟨hmode, hpend⟩ := foldl_leavesRestore hm hw
    rw [handle_resume hr, resume_mode_eq_block_iff hmode hact, hpend, hp]
    simp
  · simp [hq] at he
  · simp [Event.queuesRestore, Event.isTraySuspend, hp] at he

end

/-- Sleep, an autostart request, and the resume: Block is restored. -/
theorem wake_restore_kept_over_autostart :
    ∃ a b : Application Unit,
      Application.bootstrap (.succeed ()) ⟨.block, .visible⟩ = .ok a ∧
      [.trayAction .sleep (.succeed ()), .trayAction (.setAutostart true) (.succeed ())].foldl
        Event.handle a = b ∧
      ((Event.powerBroadcast 18 (.succeed ())).handle b).mode = .block := by
  refine ⟨_, _, rfl, rfl, ?_⟩
  exact (wake_restore_kept_iff (e := .trayAction .sleep (.succeed ())) (by decide)
    [.trayAction (.setAutostart true) (.succeed ())]
    (by simp [Event.LeavesRestore, Event.isBroadcast, Event.isExplicitModeCommand,
      Event.powerAction, Event.runsForcedCleanup]) (by decide) rfl rfl).2 (by decide)

/-- A second tray Sleep before the resume loses the restoration, although every call succeeds. -/
theorem wake_restore_lost_by_second_sleep :
    ¬ ∀ (o : Application.BootstrapCalls Unit) (options : RuntimeOptions) (a : Application Unit)
        (es : List (Event Unit)) (e : Event Unit) (w : List (Event Unit)) (wparam : Nat)
        (r : ResumeCalls Unit) (b : Application Unit),
      Application.bootstrap o options = .ok a →
      e.queuesRestore (es.foldl Event.handle a) = true →
      Along (total Event.handle) Event.LeavesRestore (e.handle (es.foldl Event.handle a)) w →
      powerBroadcastEvent wparam = some .resume →
      w.foldl Event.handle (e.handle (es.foldl Event.handle a)) = b →
      (b.blockerCoordinator.activateLayers r.restore).1 = .ok () →
      ((Event.powerBroadcast wparam r).handle b).mode = .block := by
  intro h
  have hm := h (.succeed ()) ⟨.block, .visible⟩ _ [] (.trayAction .sleep (.succeed ()))
    [.trayAction .sleep (.succeed ())] 18 (.succeed ()) _ rfl (by decide)
    (by simp [Event.LeavesRestore, Event.isBroadcast, Event.isExplicitModeCommand,
      Event.powerAction, Event.runsForcedCleanup]) (by decide) rfl rfl
  exact absurd hm (by decide)

end Runtime

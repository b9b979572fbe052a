import Wardoff.Runtime.Proof.Dialogue
import Wardoff.Tray.System

/-!
# The tray converges to the mode of the runtime

* `TrayThreadState.Shown`: a tray that exists shows the state of its thread, since one that cannot
  be updated is dropped; but a click changes the check of its own item.
* `UiOk`: whatever the tray thread answers, the handler that runs will end in the mode it has last
  sent, or in the one that was sent before it.
* `tray_converges`: so the tray thread has the mode of the runtime once it has taken its commands.
* `idle_of_handle`: between two events the application is one that the handlers of `Runtime.Event`
  lead to, so what these keep holds of it.
-/

namespace Tray

open Blocker (BlockerMode BlockerCoordinator)
open Machine Runtime
open Machine.Dialogue (Holds)

/-! ## The tray -/

/-- The tray shows the mode, and the state of the autostart task. -/
structure TrayController.Shows (mode : BlockerMode) (enabled : Bool) (c : TrayController) :
    Prop where
  blockItem : c.blockItem = decide (mode ≠ .block)
  allowItem : c.allowItem = decide (mode ≠ .allow)
  autostartItem : c.autostartItem = enabled
  trayIcon : c.visibility = .visible → ∃ trayIcon, c.trayIcon = some trayIcon ∧
    trayIcon.icon = iconForMode mode ∧ trayIcon.tooltip = tooltipForMode mode

namespace TrayController

variable {c c' : TrayController} {mode : BlockerMode}

/-- A controller keeps its icon, and one that was updated shows the mode. -/
theorem setMode_ok {o : UpdateCalls} (hicon : c.trayIcon.isSome = true)
    (h : c.setMode o mode = (.ok (), c')) :
    c'.trayIcon.isSome = true ∧ c'.Shows mode c.autostartItem := by
  obtain ⟨icon, hicon⟩ := Option.isSome_iff_exists.1 hicon
  unfold setMode at h
  dsimp only at h
  split_ifs at h with hhidden
  · cases h
    refine ⟨by simp [syncMenuState, hicon], rfl, rfl, rfl, fun hvisible => ?_⟩
    rw [hvisible] at hhidden
    cases hhidden
  · split at h
    · cases h
    · rw [show (c.syncMenuState mode).trayIcon = some icon from hicon] at h
      dsimp only at h
      split at h
      · cases h
      · split at h <;> cases h
        exact ⟨rfl, rfl, rfl, rfl, fun _ => ⟨_, rfl, rfl, rfl⟩⟩

/-- The update that follows every command, and every creation. -/
theorem update_ok {o : UpdateCalls} {enabled : Bool} (hicon : c.trayIcon.isSome = true)
    (h : (c.setAutostartEnabled enabled).setMode o mode = (.ok (), c')) :
    c'.trayIcon.isSome = true ∧ c'.Shows mode enabled :=
  setMode_ok (c := c.setAutostartEnabled enabled) hicon h

theorem hideTrayIcon_ok {o : Except String Unit} (hicon : c.trayIcon.isSome = true)
    (h : c.hideTrayIcon o = (.ok (), c')) : c'.trayIcon.isSome = true := by
  unfold hideTrayIcon at h
  split at h
  · cases h
    exact hicon
  · split at h <;> cases h
    rfl

theorem new_ok {o : CreateCalls} {visibility : TrayVisibility} (h : new o visibility = .ok c) :
    c.trayIcon.isSome = true := by
  unfold new at h
  split at h
  · cases h
  · split at h
    · cases h
    · split at h
      · cases h
      · dsimp only at h
        split at h
        · cases h
        · rename_i controller hset
          have hicon := (setMode_ok rfl hset).1
          split_ifs at h
          · split at h <;> cases h
            rename_i hhide
            exact hideTrayIcon_ok hicon hhide
          · cases h
            exact hicon

end TrayController

/-- The check of an item that was set to `enabled` and then clicked so many times. -/
def checkAfter (enabled : Bool) : Nat → Bool
  | 0 => enabled
  | clicks + 1 => !checkAfter enabled clicks

namespace TrayThreadState

variable {s : TrayThreadState}

/-- The tray, if there is one, shows the state of its thread, as it was applied before so many
clicks. -/
def Shown (clicks : Nat) (s : TrayThreadState) : Prop :=
  ∀ c, s.controller = some c → c.trayIcon.isSome = true ∧
    c.Shows s.mode (checkAfter s.autostartEnabled clicks)

theorem shown_of_none {clicks : Nat} (h : s.controller = none) : s.Shown clicks := by
  intro c hc
  rw [h] at hc
  cases hc

/-- An update shows the state, or drops the tray. -/
theorem applyOrReset_shown (o : UpdateCalls)
    (hicon : ∀ c, s.controller = some c → c.trayIcon.isSome = true) :
    (s.applyOrReset o).2.Shown 0 := by
  unfold applyOrReset applyCurrentTrayState
  cases hc : s.controller with
  | none => exact shown_of_none hc
  | some controller =>
    dsimp only
    generalize hset : (controller.setAutostartEnabled s.autostartEnabled).setMode o s.mode = q
    obtain ⟨result, c⟩ := q
    cases result with
    | error error => exact shown_of_none rfl
    | ok u =>
      intro c' hc'
      cases hc'
      exact TrayController.update_ok (hicon controller hc) hset

theorem tryCreateTrayController_shown (create : CreateCalls) (update : UpdateCalls)
    (hnone : s.controller = none) :
    (s.tryCreateTrayController create update).Shown 0 := by
  unfold tryCreateTrayController
  split
  · exact shown_of_none hnone
  · rename_i controller hnew
    split
    · exact shown_of_none hnone
    · rename_i c hset
      intro c' hc'
      cases hc'
      exact TrayController.update_ok (TrayController.new_ok hnew) hset

/-- A click changes the check, and nothing else. -/
theorem clickAutostartItem_shown {clicks : Nat} {controller : TrayController} (h : s.Shown clicks)
    (hc : s.controller = some controller) :
    TrayThreadState.Shown (clicks + 1)
      { s with controller := some controller.clickAutostartItem } := by
  obtain ⟨hicon, hblock, hallow, hcheck, htray⟩ := h controller hc
  intro c hc'
  cases hc'
  exact ⟨hicon, hblock, hallow, congrArg not hcheck, htray⟩

theorem handleTaskbarCreated_shown {clicks : Nat} (pending : Bool) (h : s.Shown clicks) :
    (s.handleTaskbarCreated pending).Shown clicks := by
  unfold handleTaskbarCreated
  split
  · exact shown_of_none rfl
  · exact h

theorem handleTrayCommand_shown {clicks : Nat} (o : UpdateCalls) (command : QueuedCommand)
    (h : s.Shown clicks) :
    (s.handleTrayCommand o command).2.2.Shown
      (if (s.handleTrayCommand o command).1 then clicks else 0) := by
  cases command with
  | setMode mode ticket => exact applyOrReset_shown o fun c hc => (h c hc).1
  | setAutostart enabled => exact applyOrReset_shown o fun c hc => (h c hc).1
  | shutdown => exact h

/-- An update leaves the mode alone. -/
theorem applyOrReset_mode (o : UpdateCalls) (s : TrayThreadState) :
    (s.applyOrReset o).2.mode = s.mode := by
  unfold applyOrReset applyCurrentTrayState
  cases s.controller with
  | none => rfl
  | some controller =>
    dsimp only
    generalize (controller.setAutostartEnabled s.autostartEnabled).setMode o s.mode = q
    obtain ⟨result, c⟩ := q
    cases result <;> rfl

theorem tryCreateTrayController_mode (create : CreateCalls) (update : UpdateCalls)
    (s : TrayThreadState) :
    (s.tryCreateTrayController create update).mode = s.mode := by
  unfold tryCreateTrayController
  split
  · rfl
  · split <;> rfl

end TrayThreadState

/-! ## The queue -/

/-- The mode of a `SetMode`. -/
def QueuedCommand.mode : QueuedCommand → Option BlockerMode
  | .setMode mode _ => some mode
  | .setAutostart _ => none
  | .shutdown => none

section
variable {Handle : Type} {s t : TraySt Handle}

/-- The modes of the `SetMode` commands in the queue. -/
def TraySt.queuedModes (s : TraySt Handle) : List BlockerMode :=
  s.queue.filterMap QueuedCommand.mode

/-- The mode the tray thread will have when it has taken the commands in the queue. -/
def TraySt.toldMode (s : TraySt Handle) : BlockerMode := s.queuedModes.getLast?.getD s.tray.mode

theorem getD_getLast?_cons (m old : BlockerMode) (ms : List BlockerMode) :
    (m :: ms).getLast?.getD old = ms.getLast?.getD m := by
  simp [List.getLast?_cons]

/-- Taking a command does not change what the tray thread was told. -/
theorem handleNext_toldMode {o : UpdateCalls} {next : TrayPc} (h : s.handleNext o next = some t) :
    t.toldMode = s.toldMode := by
  unfold TraySt.handleNext at h
  split at h
  · cases h
  · rename_i command queue hq
    cases h
    unfold TraySt.toldMode TraySt.queuedModes
    rw [hq]
    cases command with
    | setMode mode ticket =>
      simp only [List.filterMap_cons, QueuedCommand.mode]
      rw [TrayThreadState.applyOrReset_mode, getD_getLast?_cons]
    | setAutostart enabled =>
      simp only [List.filterMap_cons, QueuedCommand.mode]
      rw [TrayThreadState.applyOrReset_mode]
    | shutdown => simp [QueuedCommand.mode]

theorem handleNext_shown {o : UpdateCalls} {next : TrayPc} (hs : s.tray.Shown s.clicks)
    (h : s.handleNext o next = some t) : t.tray.Shown t.clicks := by
  unfold TraySt.handleNext at h
  split at h
  · cases h
  · rename_i command queue hq
    cases h
    exact TrayThreadState.handleTrayCommand_shown o command hs

/-- The tray thread does not touch the UI thread. -/
theorem handleNext_ui {o : UpdateCalls} {next : TrayPc} (h : s.handleNext o next = some t) :
    t.ui = s.ui := by
  unfold TraySt.handleNext at h
  split at h
  · cases h
  · cases h
    rfl

theorem trayThreadStep_ui {a : TrayThreadAct} (h : trayThreadStep s a = some t) :
    s.trayPc ≠ .ended ∧ t.ui = s.ui := by
  cases a with
  | command o =>
    simp only [trayThreadStep] at h
    split at h
    · exact ⟨by simp [*], handleNext_ui h⟩
    · exact ⟨by simp [*], handleNext_ui h⟩
    · cases h
  | attempt due create update =>
    simp only [trayThreadStep] at h
    split at h
    · split at h <;> cases h
      · exact ⟨by simp [*], rfl⟩
      · exact ⟨by simp [*], rfl⟩
    · cases h
  | clickAutostart | pump | drained | timeout =>
    simp only [trayThreadStep] at h
    split at h <;> cases h
    exact ⟨by simp [*], rfl⟩

/-- The tray thread goes on with what it was told, and shows it. -/
theorem trayThreadStep_spec {a : TrayThreadAct} (hs : s.tray.Shown s.clicks)
    (h : trayThreadStep s a = some t) :
    t.toldMode = s.toldMode ∧ t.tray.Shown t.clicks := by
  cases a with
  | clickAutostart =>
    simp only [trayThreadStep] at h
    split at h <;> cases h
    exact ⟨rfl, TrayThreadState.clickAutostartItem_shown hs ‹_›⟩
  | pump =>
    simp only [trayThreadStep] at h
    split at h <;> cases h
    have hmode : (s.tray.handleTaskbarCreated s.taskbarCreatedPending).mode = s.tray.mode := by
      unfold TrayThreadState.handleTaskbarCreated
      split <;> rfl
    exact ⟨by simp [TraySt.toldMode, TraySt.queuedModes, hmode],
      TrayThreadState.handleTaskbarCreated_shown _ hs⟩
  | command o =>
    simp only [trayThreadStep] at h
    split at h
    · exact ⟨handleNext_toldMode h, handleNext_shown hs h⟩
    · exact ⟨handleNext_toldMode h, handleNext_shown hs h⟩
    · cases h
  | drained | timeout =>
    simp only [trayThreadStep] at h
    split at h <;> cases h
    exact ⟨rfl, hs⟩
  | attempt due create update =>
    simp only [trayThreadStep] at h
    split at h
    · split at h <;> cases h
      · rename_i hnone
        rw [Bool.and_eq_true, Option.isNone_iff_eq_none] at hnone
        refine ⟨?_, TrayThreadState.tryCreateTrayController_shown create update hnone.1⟩
        simp only [TraySt.toldMode, TraySt.queuedModes,
          TrayThreadState.tryCreateTrayController_mode]
      · exact ⟨rfl, hs⟩
    · cases h

/-! ## The UI thread -/

/-- Whatever it is answered, the UI thread will be back in its message loop with the mode it has
told the tray thread last. -/
def UiOk (last : BlockerMode) : Ui Handle → Prop
  | .idle a => InStep last a
  | .handling d => Holds lastMode InStep last d
  | .waiting _ k => ∀ x, Holds lastMode InStep last (k x)
  | .quitting => True
  | .ended => True

/-- A command that is sent is the last one. -/
theorem send_ok {k : TrayAnswer → TrayDialogue (Application Handle)} {command : TrayCommand}
    (halive : s.trayPc ≠ .ended) (hs : UiOk s.toldMode (.handling (.ask command k))) :
    UiOk (s.send k command).toldMode (s.send k command).ui := by
  cases command with
  | setMode mode =>
    have htold : (s.send k (.setMode mode)).toldMode = mode := by
      simp [TraySt.send, halive, TraySt.toldMode, TraySt.queuedModes, QueuedCommand.mode]
    rw [htold, TraySt.send, if_neg halive]
    exact hs
  | setAutostart enabled =>
    have htold : (s.send k (.setAutostart enabled)).toldMode = s.toldMode := by
      simp [TraySt.send, halive, TraySt.toldMode, TraySt.queuedModes, QueuedCommand.mode]
    rw [htold, TraySt.send, if_neg halive]
    exact hs _

/-- What a step of the UI thread can do. -/
inductive UiStep (s : TraySt Handle) : UiAct Handle → TraySt Handle → Prop where
  | handle {a : Application Handle} {e : Event Handle} (hui : s.ui = .idle a) :
    UiStep s (.handle e) { s with ui := if isQuit e then .quitting else .handling (e.dialogue a) }
  | send {command : TrayCommand} {k : TrayAnswer → TrayDialogue (Application Handle)}
    (hui : s.ui = .handling (.ask command k)) : UiStep s .send (s.send k command)
  | answered {act : UiAct Handle} {ticket : Nat}
      {k : TrayAnswer → TrayDialogue (Application Handle)}
    (hui : s.ui = .waiting ticket k) (x : TrayAnswer) :
      UiStep s act { s with ui := .handling (k x) }
  | finish {a : Application Handle} (hui : s.ui = .handling (.done a)) :
      UiStep s .finish { s with ui := .idle a }
  | shutdown (hui : s.ui = .quitting) :
    UiStep s .shutdown { s with ui := .ended, queue := s.queue ++ [.shutdown] }

theorem uiStep_cases {a : UiAct Handle} (h : uiStep s a = some t) : UiStep s a t := by
  cases a with
  | handle e =>
    simp only [uiStep] at h
    split at h <;> cases h
    exact .handle ‹_›
  | send =>
    simp only [uiStep] at h
    split at h <;> cases h
    exact .send ‹_›
  | receive =>
    simp only [uiStep] at h
    split at h
    · obtain ⟨result, -, rfl⟩ := Option.map_eq_some_iff.1 h
      exact .answered ‹_› (.answered result)
    · cases h
  | timeout =>
    simp only [uiStep] at h
    split at h
    · split at h <;> cases h
      exact .answered ‹_› .timedOut
    · cases h
  | disconnected =>
    simp only [uiStep] at h
    split at h
    · split at h <;> cases h
      exact .answered ‹_› .disconnected
    · cases h
  | finish =>
    simp only [uiStep] at h
    split at h <;> cases h
    exact .finish ‹_›
  | shutdown =>
    simp only [uiStep] at h
    split at h <;> cases h
    exact .shutdown ‹_›

theorem uiStep_ok {a : UiAct Handle} (hforced : ∀ e, a = .handle e → e.isForcedEndSession = false)
    (hs : s.trayPc ≠ .ended → UiOk s.toldMode s.ui) (h : uiStep s a = some t)
    (halive : t.trayPc ≠ .ended) :
    UiOk t.toldMode t.ui := by
  cases uiStep_cases h with
  | @handle a e hui =>
    rw [hui] at hs
    dsimp only
    split
    · trivial
    · exact Event.dialogue_last (hs halive) (hforced e rfl)
  | @send command k hui =>
    rw [hui] at hs
    -- A thread that has ended stays so: the command is lost.
    have hpc : s.trayPc ≠ .ended := by
      intro hended
      cases command <;> simp [TraySt.send, hended] at halive
    exact send_ok hpc (hs hpc)
  | answered hui x =>
    rw [hui] at hs
    exact hs halive x
  | finish hui =>
    rw [hui] at hs
    exact hs halive
  | shutdown hui => trivial

/-- The UI thread does not touch the tray. -/
theorem uiStep_tray {a : UiAct Handle} (h : uiStep s a = some t) :
    t.tray = s.tray ∧ t.clicks = s.clicks := by
  cases uiStep_cases h with
  | @send command k hui =>
    cases command <;> (unfold TraySt.send; dsimp only; split <;> exact ⟨rfl, rfl⟩)
  | handle hui | answered hui x | finish hui | shutdown hui => exact ⟨rfl, rfl⟩

/-- In its message loop the application has the property `R`, and it will have it again whatever the
UI thread is answered. -/
def UiKeeps (R : Application Handle → Prop) : Ui Handle → Prop
  | .idle a => R a
  | .handling d => Holds (fun _ _ => ()) (fun _ a => R a) () d
  | .waiting _ k => ∀ x, Holds (fun _ _ => ()) (fun _ a => R a) () (k x)
  | .quitting => True
  | .ended => True

theorem uiStep_keeps {R : Application Handle → Prop} (hR : ∀ a e, R a → R (Event.handle a e))
    {a : UiAct Handle} (hs : UiKeeps R s.ui) (h : uiStep s a = some t) : UiKeeps R t.ui := by
  cases uiStep_cases h with
  | @handle a e hui =>
    rw [hui] at hs
    dsimp only
    split
    · trivial
    · refine (Event.dialogue_handle a e).imp fun _ b hb => ?_
      obtain ⟨x, rfl⟩ := hb
      exact hR a _ hs
  | @send command k hui =>
    rw [hui] at hs
    cases command <;> (unfold TraySt.send; dsimp only; split)
    · exact hs _
    · exact hs
    · exact hs _
    · exact hs _
  | answered hui x =>
    rw [hui] at hs
    exact hs x
  | finish hui =>
    rw [hui] at hs
    exact hs
  | shutdown hui => trivial

/-! ## Both threads -/

structure TrayInv (s : TraySt Handle) : Prop where
  shown : s.tray.Shown s.clicks
  ui : s.trayPc ≠ .ended → UiOk s.toldMode s.ui

/-- The step handles no forced end of the session. -/
def Unforced : TrayAct Handle → Prop
  | .ui (.handle e) => e.isForcedEndSession = false
  | _ => True

theorem trayStep_inv {a : TrayAct Handle} (hs : TrayInv s) (hforced : Unforced a)
    (h : trayStep s a = some t) : TrayInv t := by
  cases a with
  | ui a =>
    obtain ⟨htray, hclicks⟩ := uiStep_tray h
    refine ⟨by rw [htray, hclicks]; exact hs.shown, uiStep_ok (fun e he => ?_) hs.ui h⟩
    rw [he] at hforced
    exact hforced
  | tray a =>
    obtain ⟨halive, hui⟩ := trayThreadStep_ui h
    obtain ⟨htold, hshown⟩ := trayThreadStep_spec hs.shown h
    refine ⟨hshown, fun _ => ?_⟩
    rw [hui, htold]
    exact hs.ui halive
  | explorerRestarts =>
    cases h
    exact ⟨hs.shown, hs.ui⟩
  | trayDies =>
    cases h
    exact ⟨hs.shown, fun halive => absurd rfl halive⟩

/-- What startup comes to. -/
theorem start_eq_ok {o : Application.BootstrapCalls Handle} {initialMode : BlockerMode}
    {visibility : TrayVisibility} (h : TraySt.start o initialMode visibility = .ok s) :
    ∃ c enabled, BlockerCoordinator.new o.layers initialMode = .ok c ∧
      enabled = (match o.autostart with | .ok enabled => enabled | .error _ => false) ∧
      o.tray = .ok () ∧ o.ipcServer = .ok () ∧
      s = {
        ui := .handling (Application.syncTrayAutostartDialogue enabled
          { blockerCoordinator := c, trayService := some {} })
        tray := { visibility, mode := c.mode } } := by
  unfold TraySt.start at h
  cases hc : BlockerCoordinator.new o.layers initialMode with
  | error error => simp [hc, bind, Except.bind] at h
  | ok c =>
    cases htray : o.tray with
    | error error => simp [hc, htray, bind, Except.bind] at h
    | ok u =>
      cases hipc : o.ipcServer with
      | error error => simp [hc, htray, hipc, bind, Except.bind] at h
      | ok v =>
        simp only [hc, htray, hipc, bind, Except.bind, pure, Except.pure, Except.ok.injEq] at h
        exact ⟨c, _, rfl, rfl, rfl, rfl, h.symm⟩

/-- **The tray converges to the mode.** In every run without a forced end of the session, as long as
the tray thread lives, the last `SetMode` in its queue carries the mode of the coordinator whenever
the UI thread is between two events, and where the queue has none the tray thread has that mode. A
tray that exists shows the mode of its thread; the check of its Start with Windows item is the state
of the thread, changed once by every click since the thread has last applied its state. -/
theorem tray_converges {o : Application.BootstrapCalls Handle} {initialMode : BlockerMode}
    {visibility : TrayVisibility} {as : List (TrayAct Handle)}
    (hstart : TraySt.start o initialMode visibility = .ok s)
    (hforced : ∀ e, .ui (.handle e) ∈ as → e.isForcedEndSession = false)
    (h : exec trayStep s as = some t) (halive : t.trayPc ≠ .ended) :
    (∀ a, t.ui = .idle a →
      (∀ mode, t.queuedModes.getLast? = some mode → mode = a.blockerCoordinator.mode) ∧
        (t.queuedModes = [] → t.tray.mode = a.blockerCoordinator.mode)) ∧
      ∀ controller, t.tray.controller = some controller →
        controller.Shows t.tray.mode (checkAfter t.tray.autostartEnabled t.clicks) := by
  have hinit : TrayInv s := by
    obtain ⟨c, enabled, -, -, -, -, rfl⟩ := start_eq_ok hstart
    exact ⟨TrayThreadState.shown_of_none rfl,
      fun _ => Application.syncTrayAutostartDialogue_last enabled ⟨rfl, rfl⟩⟩
  have hunforced : Along trayStep (fun _ a => Unforced a) s as := by
    refine along_of_mem fun a hmem s => ?_
    cases a with
    | ui a =>
      cases a with
      | handle e => exact hforced e hmem
      | _ => trivial
    | _ => trivial
  have hinv : TrayInv t :=
    inv_of_along (fun s a t hs hp h => trayStep_inv hs hp h) hinit hunforced h
  refine ⟨fun a hui => ?_, fun controller hc => (hinv.shown controller hc).2⟩
  have hin := hinv.ui halive
  rw [hui] at hin
  have hmode : a.blockerCoordinator.mode = t.queuedModes.getLast?.getD t.tray.mode := hin.2
  refine ⟨fun mode hlast => ?_, fun hnone => ?_⟩
  · rw [hmode, hlast]
    rfl
  · rw [hmode, hnone]
    rfl

/-- The surface of `TrayVisibility`. -/
def TrayVisibility.surface : TrayVisibility → TraySurface
  | .visible => .visible
  | .hidden => .hidden

/-- **Refinement.** What holds after `bootstrap` and is kept by every handler holds of the
application whenever the UI thread is between two events, however the two threads interleave. -/
theorem idle_of_handle {R : Application Handle → Prop} {o : Application.BootstrapCalls Handle}
    {initialMode : BlockerMode} {visibility : TrayVisibility} {as : List (TrayAct Handle)}
    (hboot : ∀ alive a, Application.bootstrap { o with trayAlive := alive }
      ⟨initialMode, visibility.surface⟩ = .ok a → R a)
    (hR : ∀ a e, R a → R (Event.handle a e))
    (hstart : TraySt.start o initialMode visibility = .ok s) (h : exec trayStep s as = some t)
    {a : Application Handle} (hui : t.ui = .idle a) : R a := by
  have hinit : UiKeeps R s.ui := by
    obtain ⟨c, enabled, hc, he, htray, hipc, rfl⟩ := start_eq_ok hstart
    refine (Application.syncTrayAutostartDialogue_handle enabled _).imp fun _ b hb => ?_
    obtain ⟨x, rfl⟩ := hb
    refine hboot x.sent _ ?_
    rw [he]
    cases o.autostart <;> cases visibility <;>
      simp only [Application.bootstrap, Application.startTray, TrayVisibility.surface, hc, htray,
        hipc, bind, Except.bind, pure, Except.pure, Except.map]
  have hkeeps : UiKeeps R t.ui := by
    refine inv_of_exec (I := fun s => UiKeeps R s.ui) (fun s a t hs h => ?_) hinit h
    cases a with
    | ui a => exact uiStep_keeps hR hs h
    | tray a =>
      rw [(trayThreadStep_ui h).2]
      exact hs
    | explorerRestarts | trayDies =>
      cases h
      exact hs
  rw [hui] at hkeeps
  exact hkeeps

end

/-- A runtime in Allow mode is asked for Block. The tray thread does not answer in time, neither for
Block nor for the Allow of the rollback, and only takes the commands afterwards. -/
def lateTray : List (TrayAct Unit) :=
  [.ui .send, .ui .finish, .ui (.handle (.ipcRequest (.setMode .block) (.succeed ()))), .ui .send,
    .ui .timeout, .ui .send, .ui .timeout, .ui .finish, .tray .pump, .tray (.command .succeed)]

/-- Startup has created the tray, and the user clicks its Start with Windows item. -/
def clickedTray : List (TrayAct Unit) :=
  [.ui .send, .ui .finish, .tray .pump, .tray (.command .succeed), .tray .drained,
    .tray (.attempt true .succeed .succeed), .tray .timeout, .tray .clickAutostart]

theorem tray_converges_late :
    ∃ s t u a controller, TraySt.start (.succeed ()) .allow .visible = .ok s ∧
      exec trayStep s lateTray = some t ∧ t.ui = .idle a ∧ t.queuedModes = [.block, .allow] ∧
      a.blockerCoordinator.mode = .allow ∧
      exec trayStep s clickedTray = some u ∧ u.tray.controller = some controller ∧
      controller.Shows .allow true := by
  obtain ⟨s, hs⟩ : ∃ s, TraySt.start (.succeed ()) .allow .visible = .ok s := ⟨_, rfl⟩
  obtain ⟨t, a, ht, hpc, hui, hq⟩ : ∃ t a, exec trayStep s lateTray = some t ∧ t.trayPc ≠ .ended ∧
      t.ui = .idle a ∧ t.queuedModes = [.block, .allow] := by
    cases hs
    exact ⟨_, _, rfl, by decide, rfl, rfl⟩
  obtain ⟨u, controller, hu, hpc', hc, hmode, henabled, hclicks⟩ : ∃ u controller,
      exec trayStep s clickedTray = some u ∧ u.trayPc ≠ .ended ∧
      u.tray.controller = some controller ∧
      u.tray.mode = .allow ∧ u.tray.autostartEnabled = false ∧ u.clicks = 1 := by
    cases hs
    exact ⟨_, _, rfl, by decide, rfl, rfl, rfl, rfl⟩
  have hconv := tray_converges hs (by simp [lateTray, Event.isForcedEndSession]) ht hpc
  have hshows := (tray_converges hs (by simp [clickedTray]) hu hpc').2 controller hc
  rw [hmode, henabled, hclicks] at hshows
  exact ⟨s, t, u, a, controller, hs, ht, hui, hq, ((hconv.1 a hui).1 .allow (by rw [hq]; rfl)).symm,
    hu, hc, hshows⟩

/-- The change that was clicked fails, and the task cannot be read: the tray thread is told
nothing. -/
def clickForNothing : List (TrayAct Unit) :=
  clickedTray ++
    ([.tray .pump,
      .ui (.handle (.trayAction (.setAutostart true) { TrayCalls.succeed () with
        autostart :=
          ⟨.error "Access is denied.", .error "Access is denied.", .error "Access is denied.",
            true⟩ })),
      .ui .finish, .tray .drained, .tray (.attempt true .succeed .succeed), .tray .timeout] :
      List (TrayAct Unit))

/-- The check of the item differs from what the tray thread was told. -/
theorem click_changes_check :
    ¬ ∀ (as : List (TrayAct Unit)) (s t : TraySt Unit),
      TraySt.start (.succeed ()) .allow .visible = .ok s →
      (∀ e, .ui (.handle e) ∈ as → e.isForcedEndSession = false) → exec trayStep s as = some t →
      t.trayPc ≠ .ended → ∀ controller, t.tray.controller = some controller →
        controller.Shows t.tray.mode t.tray.autostartEnabled := by
  intro h
  have hshows :=
    h clickForNothing _ _ rfl (by simp [clickForNothing, clickedTray, Event.isForcedEndSession]) rfl
    (by decide) _ rfl
  exact absurd hshows.autostartItem (by decide)

end Tray

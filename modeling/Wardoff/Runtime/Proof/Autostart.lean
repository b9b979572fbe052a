import Wardoff.Autostart.Proof.Task
import Wardoff.Machine.Refinement
import Wardoff.Runtime.Autostart
import Wardoff.Runtime.Proof.Application

/-!
# The task, what the tray is told of it, and the answers agree

* `autostart_last_acknowledged`: Start with Windows is what the last acknowledged change asked for.
* `tray_told_truth`: a live tray thread is told the state of the task, also after changes that fail.
* `autostart_task_origin`: a task that nobody else put there is the one that Wardoff registers,
  elevated and from a location that has passed the trust check.
-/

namespace Runtime

open Autostart Blocker Ipc Machine

variable {Handle : Type} {s t : AutostartSt Handle} {a : AutostartAct Handle}

/-! ## Steps -/

/-- The state after one `set_autostart_enabled`. -/
def AutostartSt.changed (s : AutostartSt Handle) (enabled : Bool) (o : ChangeCalls) :
    AutostartSt Handle :=
  ⟨(o.outcome enabled s.scheduler).2,
    (s.app.setAutostartEnabled (o.outcome enabled s.scheduler).1 enabled).2⟩

/-- The change a step makes, with its calls. -/
def AutostartAct.change : AutostartAct Handle → Option (Bool × ChangeCalls)
  | .request enabled o _ => some (enabled, o)
  | .action enabled o _ => some (enabled, o)
  | .other _ => none
  | .foreign _ => none

/-- The change of a step, if its request was answered with `Ok`, or its action succeeded. -/
def acknowledged (s : AutostartSt Handle) : AutostartAct Handle → List Bool
  | .request enabled o calls =>
    match (s.app.handleIpcRequest { calls with autostart := (o.outcome enabled s.scheduler).1 }
        (.setAutostart enabled)).1 with
    | .ok => [enabled]
    | _ => []
  | .action enabled o calls =>
    match (s.app.handleTrayAction { calls with autostart := (o.outcome enabled s.scheduler).1 }
        (.setAutostart enabled)).1 with
    | .ok _ => [enabled]
    | .error _ => []
  | .other _ => []
  | .foreign _ => []

inductive AutostartStep (s : AutostartSt Handle) (a : AutostartAct Handle) :
    AutostartSt Handle → Prop
  | changes {enabled : Bool} {o : ChangeCalls} (ha : a.change = some (enabled, o))
      (hack : acknowledged s a =
        if (o.outcome enabled s.scheduler).1.set = .ok () then [enabled] else []) :
      AutostartStep s a (s.changed enabled o)
  | handles {e : Event Handle} (ha : a = .other e) (he : e.setsAutostart = false) :
      AutostartStep s a { s with app := Event.handle s.app e }
  | meddles {scheduler : Scheduler} (ha : a = .foreign scheduler) :
      AutostartStep s a { s with scheduler }

/-- The answer to a change is that of the Task Scheduler. -/
theorem setAutostartEnabled_fst (app : Application Handle) (o : AutostartCalls) (enabled : Bool) :
    (∃ message, (app.setAutostartEnabled o enabled).1 = .error message ∧ o.set ≠ .ok ()) ∨
      (app.setAutostartEnabled o enabled).1 = .ok () ∧ o.set = .ok () := by
  unfold Application.setAutostartEnabled
  cases o.set with
  | ok u => exact .inr ⟨rfl, rfl⟩
  | error error => exact .inl ⟨_, rfl, by simp⟩

theorem handleIpcRequest_setAutostart_fst (app : Application Handle) (o : RequestCalls Handle)
    (enabled : Bool) :
    (app.handleIpcRequest o (.setAutostart enabled)).1 =
      match (app.setAutostartEnabled o.autostart enabled).1 with
      | .ok () => .ok
      | .error message => .error message := by
  simp only [Application.handleIpcRequest]
  split <;> simp_all

theorem autostartStep_cases (h : autostartStep s a = some t) : AutostartStep s a t := by
  cases a with
  | request enabled o calls =>
    have happ := Application.handleIpcRequest_setAutostart_snd
      { calls with autostart := (o.outcome enabled s.scheduler).1 } enabled s.app
    obtain rfl : s.changed enabled o = t := by
      refine Eq.trans ?_ (Option.some.inj h)
      rw [AutostartSt.changed, ← happ]
      rfl
    refine .changes rfl ?_
    rcases setAutostartEnabled_fst s.app (o.outcome enabled s.scheduler).1 enabled with
      ⟨message, hr, hset⟩ | ⟨hr, hset⟩
    · rw [if_neg hset]
      simp only [acknowledged, handleIpcRequest_setAutostart_fst, hr]
    · rw [if_pos hset]
      simp only [acknowledged, handleIpcRequest_setAutostart_fst, hr]
  | action enabled o calls =>
    cases h
    refine .changes rfl ?_
    rcases setAutostartEnabled_fst s.app (o.outcome enabled s.scheduler).1 enabled with
      ⟨message, hr, hset⟩ | ⟨hr, hset⟩
    · rw [if_neg hset]
      simp [acknowledged, Application.handleTrayAction, hr, Except.map]
    · rw [if_pos hset]
      simp [acknowledged, Application.handleTrayAction, hr, Except.map]
  | other e =>
    simp only [autostartStep] at h
    split at h
    · cases h
    · rename_i he
      cases h
      exact .handles rfl (by simpa using he)
  | foreign scheduler =>
    cases h
    exact .meddles rfl

/-! ## The task -/

/-- No other program changes the task, and the Task Scheduler says `NotFound` only of a task that is
not there. -/
def AutostartAct.Faithful : AutostartAct Handle → Prop
  | .request _ o _ => o.before.Honest ∧ o.set.task.Honest ∧ o.after.Honest
  | .action _ o _ => o.before.Honest ∧ o.set.task.Honest ∧ o.after.Honest
  | .other _ => True
  | .foreign _ => False

theorem AutostartAct.Faithful.change {enabled : Bool} {o : ChangeCalls} (hf : a.Faithful)
    (ha : a.change = some (enabled, o)) : o.before.Honest ∧ o.set.task.Honest ∧ o.after.Honest := by
  cases a with
  | request enabled o calls =>
    cases ha
    exact hf
  | action enabled o calls =>
    cases ha
    exact hf
  | other e => cases ha
  | foreign scheduler => cases ha

/-- What a change leaves: the task as asked for, or the task as it was. -/
theorem outcome_cases (o : ChangeCalls) (enabled : Bool) (scheduler : Scheduler)
    (hhonest : o.set.task.Honest) :
    (o.outcome enabled scheduler).1.set = .ok () ∧ isOn (o.outcome enabled scheduler).2 = enabled ∨
      (∃ error, (o.outcome enabled scheduler).1.set = .error error) ∧
      (o.outcome enabled scheduler).2 = scheduler := by
  cases hset : setEnabled o.set enabled scheduler with
  | mk result left =>
    cases result with
    | ok u => exact .inl ⟨by simp [ChangeCalls.outcome, hset], by
        simp only [ChangeCalls.outcome, hset]
        exact setEnabled_ok hhonest hset⟩
    | error error =>
      refine .inr ⟨⟨error, by simp [ChangeCalls.outcome, hset]⟩, ?_⟩
      simp only [ChangeCalls.outcome, hset]
      exact setEnabled_error hset

theorem autostartStep_isOn (hf : a.Faithful) (h : autostartStep s a = some t) :
    isOn t.scheduler = (acknowledged s a).getLast?.getD (isOn s.scheduler) := by
  cases autostartStep_cases h with
  | @changes enabled o ha hack =>
    rcases outcome_cases o enabled s.scheduler (hf.change ha).2.1 with
      ⟨hok, hon⟩ | ⟨⟨error, herr⟩, hsame⟩
    · rw [hack, if_pos hok]
      exact hon
    · rw [hack, if_neg (by simp [herr]), AutostartSt.changed, hsame]
      rfl
  | handles ha he =>
    subst ha
    rfl
  | meddles ha =>
    subst ha
    exact hf.elim

/-- **The last acknowledged change holds.** In every run in which only Wardoff changes the task,
Start with Windows is on exactly if the last acknowledged change turned it on, or it was on before
and no change was acknowledged: a change that fails has no effect, and one that succeeds has, also
where the tray cannot be told. -/
theorem autostart_last_acknowledged {as : List (AutostartAct Handle)}
    (hfaithful : ∀ a ∈ as, a.Faithful) (h : exec autostartStep s as = some t) :
    isOn t.scheduler = (trace autostartStep acknowledged s as).getLast?.getD (isOn s.scheduler) :=
  register_eq_trace (fun s => isOn s.scheduler) (fun _ _ _ hf h => autostartStep_isOn hf h)
    (along_of_mem fun a ha _ => hfaithful a ha) h

/-- An elevated Wardoff in `C:\\Program Files`, where users may read and execute and nothing else;
every call succeeds. -/
def programFilesCalls : SetCalls where
  elevated := .ok true
  currentExe := .ok ()
  canonicalize := .ok "C:\\Program Files\\Wardoff\\wardoff.exe"
  parent := fun path =>
    if path = "C:\\Program Files\\Wardoff\\wardoff.exe"
      then some "C:\\Program Files\\Wardoff" else none
  userId := .ok "S-1-5-21-1"
  openToken := .ok ()
  linkedToken := .ok ()
  duplicateToken := .ok ()
  paths := fun path =>
    if path = "C:\\Program Files\\Wardoff\\wardoff.exe" ∨ path = "C:\\Program Files\\Wardoff" then
      ⟨0, .ok (), 0x1200A9⟩
    else ⟨0, .ok (), 0x1F01FF⟩
  now := "2026-01-01T00:00:00"
  task := {}

/-- The Task Scheduler cannot be read after a change. -/
def ChangeCalls.unread (set : SetCalls) (trayAlive : Bool) : ChangeCalls :=
  ⟨{}, set, { apartment := .error "RPC_E_CHANGED_MODE" }, trayAlive⟩

/-- A client turns Start with Windows on; then the tray menu turns it off, but Wardoff is no longer
elevated. -/
def onThenRefusedOff (trayAlive : Bool) : List (AutostartAct Unit) :=
  [.request true (.unread programFilesCalls trayAlive) (.succeed ()),
    .action false (.unread { programFilesCalls with elevated := .ok false } trayAlive)
      (.succeed ()), .other .queryEndSession]

theorem onThenRefusedOff_faithful (trayAlive : Bool) :
    ∀ a ∈ onThenRefusedOff trayAlive, a.Faithful := by
  have hhonest : ∀ apartment, TaskApi.Honest { apartment } :=
    fun _ => ⟨fun _ h => (by cases h), fun _ h => (by cases h)⟩
  intro a ha
  simp only [onThenRefusedOff, List.mem_cons, List.not_mem_nil, or_false] at ha
  rcases ha with rfl | rfl | rfl
  · exact ⟨hhonest _, hhonest _, hhonest _⟩
  · exact ⟨hhonest _, hhonest _, hhonest _⟩
  · trivial

theorem refused_change_has_no_effect :
    ∃ s t, AutostartSt.start (.succeed ()) {} ⟨.allow, .visible⟩ none = .ok s ∧
      exec autostartStep s (onThenRefusedOff false) = some t ∧ isOn t.scheduler = true := by
  obtain ⟨s, hs⟩ : ∃ s, AutostartSt.start (.succeed ()) {} ⟨.allow, .visible⟩ none = .ok s :=
    ⟨_, rfl⟩
  obtain ⟨t, ht, hack⟩ : ∃ t, exec autostartStep s (onThenRefusedOff false) = some t ∧
      (trace autostartStep acknowledged s (onThenRefusedOff false)).getLast?.getD
        (isOn s.scheduler) = true := by
    cases hs
    exact ⟨_, rfl, by decide +kernel⟩
  exact ⟨s, t, hs, ht,
    (autostart_last_acknowledged (onThenRefusedOff_faithful false) ht).trans hack⟩

/-! ## What the tray is told -/

def TrayCommand.autostart : TrayCommand → Option Bool
  | .setAutostart enabled => some enabled
  | .setMode _ => none

/-- The state of Start with Windows that the tray thread was last told. -/
def TrayServiceHandle.toldAutostart (t : TrayServiceHandle) : Option Bool :=
  (t.commands.filterMap TrayCommand.autostart).getLast?

/-- What each tray service was told. -/
def Application.toldAutostart (app : Application Handle) : Option (Option Bool) :=
  app.trayService.map TrayServiceHandle.toldAutostart

namespace Application

variable {app : Application Handle}

theorem syncTray_told (answer : TrayAnswer) (mode : BlockerMode) (app : Application Handle) :
    (app.syncTray answer mode).2.toldAutostart = app.toldAutostart := by
  unfold syncTray
  split
  · rename_i tray htray
    cases answer <;>
      simp [TrayServiceHandle.setMode, Application.toldAutostart, TrayServiceHandle.toldAutostart,
        htray, TrayCommand.autostart]
  · rfl

theorem setMode_told (o : SwitchCalls Handle) (mode : BlockerMode) (app : Application Handle) :
    (app.setMode o mode).2.toldAutostart = app.toldAutostart := by
  unfold setMode
  dsimp only
  split
  · exact syncTray_told _ _ _
  · split
    · rfl
    · rename_i c hc
      have htold := syncTray_told o.tray c.mode { app with blockerCoordinator := c }
      split
      · rename_i app' happ
        rw [happ] at htold
        exact htold
      · rename_i trayError app' happ
        rw [happ] at htold
        exact (syncTray_told _ _ _).trans htold

theorem runPowerAction_told (o : PowerActionCalls Handle) (action : PowerAction)
    (app : Application Handle) :
    (app.runPowerAction o action).2.toldAutostart = app.toldAutostart := by
  unfold runPowerAction
  dsimp only
  have hallow := setMode_told o.allow .allow
    { app with
      pendingBlockRestoreAfterWake := pendingWakeRestoreForTrayPowerAction app.mode action }
  split
  · rename_i error app' happ
    rw [happ] at hallow
    exact hallow
  · rename_i app' happ
    rw [happ] at hallow
    have hrestore := setMode_told o.restore .block app'.clearPendingBlockRestoreAfterWake
    split
    · exact hallow
    · split
      · split
        · rename_i app'' happ'
          rw [happ'] at hrestore
          exact hrestore.trans hallow
        · rename_i error app'' happ'
          rw [happ'] at hrestore
          exact hrestore.trans hallow
      · exact hallow

theorem handlePowerBroadcast_told (o : ResumeCalls Handle) (event : PowerBroadcastEvent)
    (app : Application Handle) :
    (app.handlePowerBroadcast o event).toldAutostart = app.toldAutostart := by
  cases event with
  | suspend =>
    unfold handlePowerBroadcast
    dsimp only
    split <;> rfl
  | resume =>
    unfold handlePowerBroadcast restoreBlockAfterWakeIfNeeded
    dsimp only
    split
    · rfl
    · split
      · rfl
      · exact (syncTray_told _ _ _).trans rfl

theorem handleEndSession_told (wparam : Nat) (shutdownInProgress : Bool) (power : PowerApi Handle)
    (app : Application Handle) :
    (app.handleEndSession wparam shutdownInProgress power).toldAutostart = app.toldAutostart := by
  unfold handleEndSession
  split
  · dsimp only
    split
    · rfl
    · unfold handleForcedShutdownCleanup
      split <;> rfl
  · rfl

end Application

/-- Events that are no change of the setting tell the tray nothing of it. -/
theorem handle_told {e : Event Handle} (he : e.setsAutostart = false) (app : Application Handle) :
    (Event.handle app e).toldAutostart = app.toldAutostart := by
  cases e with
  | ipcRequest request o =>
    cases request with
    | setMode mode =>
      show (app.handleIpcRequest o (.setMode mode)).2.toldAutostart = _
      rw [Application.handleIpcRequest_setMode_snd]
      exact Application.setMode_told _ _ _
    | setAutostart enabled => cases he
    | status => rfl
    | shutdownServer => rfl
  | trayAction action o =>
    cases action with
    | block => exact Application.setMode_told _ _ _
    | allow => exact Application.setMode_told _ _ _
    | setAutostart enabled => cases he
    | shutdown => exact Application.runPowerAction_told _ _ _
    | reboot => exact Application.runPowerAction_told _ _ _
    | sleep => exact Application.runPowerAction_told _ _ _
    | hibernate => exact Application.runPowerAction_told _ _ _
    | quit => rfl
  | queryEndSession =>
    show app.handleQueryEndSession.2.toldAutostart = _
    unfold Application.handleQueryEndSession
    split <;> rfl
  | endSession wparam shutdownInProgress power => exact Application.handleEndSession_told _ _ _ _
  | powerBroadcast wparam o =>
    simp only [Event.handle]
    split
    · exact Application.handlePowerBroadcast_told _ _ _
    · rfl

theorem syncTrayAutostart_told (enabled : Bool) (app : Application Handle) :
    (app.syncTrayAutostart true enabled).toldAutostart = app.trayService.map fun _ =>
      some enabled := by
  unfold Application.syncTrayAutostart Application.toldAutostart
  cases app.trayService with
  | none => rfl
  | some tray =>
    simp [TrayServiceHandle.setAutostartEnabled, TrayServiceHandle.toldAutostart,
      TrayCommand.autostart]

/-- The tray thread is there to be told what a change sends to it. -/
def AutostartAct.Told : AutostartAct Handle → Prop
  | .request _ o _ => o.trayAlive = true
  | .action _ o _ => o.trayAlive = true
  | .other _ => True
  | .foreign _ => True

theorem AutostartAct.Told.change {enabled : Bool} {o : ChangeCalls} (hf : a.Told)
    (ha : a.change = some (enabled, o)) : o.trayAlive = true := by
  cases a with
  | request enabled o calls =>
    cases ha
    exact hf
  | action enabled o calls =>
    cases ha
    exact hf
  | other e => cases ha
  | foreign scheduler => cases ha

/-- What the tray was last told of Start with Windows is the state of the task. -/
def ToldTruth (s : AutostartSt Handle) : Prop :=
  ∀ told, s.app.toldAutostart = some told → told = some (isOn s.scheduler)

theorem truthful_sync (scheduler : Scheduler) (app : Application Handle) :
    ToldTruth ⟨scheduler, app.syncTrayAutostart true (isOn scheduler)⟩ := by
  intro told htold
  rw [syncTrayAutostart_told] at htold
  obtain ⟨tray, -, rfl⟩ := Option.map_eq_some_iff.1 htold
  rfl

/-- A change that fails tells the tray what the task is, or was, which is the same; and where
neither could be read, the tray is told nothing. -/
theorem changed_truthful {enabled : Bool} {o : ChangeCalls} (hs : ToldTruth s)
    (hhonest : o.before.Honest ∧ o.set.task.Honest ∧ o.after.Honest) (halive : o.trayAlive = true) :
    ToldTruth (s.changed enabled o) := by
  obtain ⟨hbefore, hset, hafter⟩ := hhonest
  have hreads : (o.outcome enabled s.scheduler).1.before = isEnabled o.before s.scheduler ∧
      (o.outcome enabled s.scheduler).1.after = isEnabled o.after
        (o.outcome enabled s.scheduler).2 ∧
      (o.outcome enabled s.scheduler).1.trayAlive = o.trayAlive := ⟨rfl, rfl, rfl⟩
  obtain ⟨hreadBefore, hreadAfter, hsent⟩ := hreads
  rw [halive] at hsent
  unfold AutostartSt.changed Application.setAutostartEnabled
  rcases outcome_cases o enabled s.scheduler hset with ⟨hok, hon⟩ | ⟨⟨error, herr⟩, hsame⟩
  · have hsync := truthful_sync (o.outcome enabled s.scheduler).2 s.app
    rw [hon] at hsync
    simp only [hok, hsent]
    exact hsync
  · rw [hsame] at hreadAfter
    simp only [herr, hsent, hsame, hreadBefore, hreadAfter]
    cases hnow : isEnabled o.after s.scheduler with
    | ok restored =>
      obtain rfl := isEnabled_ok hafter hnow
      exact truthful_sync _ _
    | error unreadable =>
      cases hthen : isEnabled o.before s.scheduler with
      | ok previous =>
        obtain rfl := isEnabled_ok hbefore hthen
        exact truthful_sync _ _
      | error unreadable' => exact hs

theorem autostartStep_truthful (hs : ToldTruth s) (hf : a.Faithful) (htold : a.Told)
    (h : autostartStep s a = some t) : ToldTruth t := by
  cases autostartStep_cases h with
  | changes ha hack => exact changed_truthful hs (hf.change ha) (htold.change ha)
  | @handles e ha he =>
    intro told htold
    exact hs told ((handle_told he s.app).symm.trans htold)
  | meddles ha =>
    subst ha
    exact hf.elim

theorem start_truthful {o : Application.BootstrapCalls Handle} {api : TaskApi}
    {options : RuntimeOptions} {scheduler : Scheduler}
    (hstart : AutostartSt.start o api options scheduler = .ok s) (hhonest : api.Honest)
    (hread : (isEnabled api scheduler).isOk) (halive : o.trayAlive = true) : ToldTruth s := by
  obtain ⟨app, hboot, hs⟩ := bind_eq_ok.1 hstart
  obtain rfl := Except.ok.inj hs
  obtain ⟨c, hc, hboot⟩ := bind_eq_ok.1 hboot
  obtain ⟨tray, htray, hboot⟩ := bind_eq_ok.1 hboot
  obtain ⟨u, hipc, hboot⟩ := bind_eq_ok.1 hboot
  cases hnow : isEnabled api scheduler with
  | error error =>
    rw [hnow] at hread
    cases hread
  | ok enabled =>
    obtain rfl := isEnabled_ok hhonest hnow
    simp only [hnow, halive] at hboot
    obtain rfl := Except.ok.inj hboot
    exact truthful_sync _ _

/-- **What the tray is told is true.** A runtime that could read the task when it started has told
its live tray thread, after every run in which only Wardoff changes the task and the tray thread
stays alive, that Start with Windows is on exactly if it is: after changes that succeed, after
changes that fail, and after everything else. -/
theorem tray_told_truth {o : Application.BootstrapCalls Handle} {api : TaskApi}
    {options : RuntimeOptions} {scheduler : Scheduler} {as : List (AutostartAct Handle)}
    (hstart : AutostartSt.start o api options scheduler = .ok s) (hhonest : api.Honest)
    (hread : (isEnabled api scheduler).isOk) (halive : o.trayAlive = true)
    (hfaithful : ∀ a ∈ as, a.Faithful) (htold : ∀ a ∈ as, a.Told)
    (h : exec autostartStep s as = some t) {tray : TrayServiceHandle}
    (htray : t.app.trayService = some tray) : tray.toldAutostart = some (isOn t.scheduler) := by
  have htruthful : ToldTruth t :=
    inv_of_along (P := fun _ a => a.Faithful ∧ a.Told)
      (fun _ _ _ hs hf h => autostartStep_truthful hs hf.1 hf.2 h)
      (start_truthful hstart hhonest hread halive)
        (along_of_mem fun a ha _ => ⟨hfaithful a ha, htold a ha⟩) h
  refine htruthful tray.toldAutostart ?_
  rw [Application.toldAutostart, htray]
  rfl

theorem tray_told_truth_after_refusal :
    ∃ s t tray, AutostartSt.start (.succeed ()) {} ⟨.allow, .visible⟩ none = .ok s ∧
      exec autostartStep s (onThenRefusedOff true) = some t ∧ t.app.trayService = some tray ∧
      tray.toldAutostart = some (isOn t.scheduler) := by
  obtain ⟨s, hs⟩ : ∃ s, AutostartSt.start (.succeed ()) {} ⟨.allow, .visible⟩ none = .ok s :=
    ⟨_, rfl⟩
  obtain ⟨t, tray, ht, htray⟩ : ∃ t tray, exec autostartStep s (onThenRefusedOff true) = some t ∧
      t.app.trayService = some tray := by
    cases hs
    exact ⟨_, _, rfl, rfl⟩
  have hhonest : TaskApi.Honest {} := ⟨fun _ h => (by cases h), fun _ h => (by cases h)⟩
  have htold : ∀ a ∈ onThenRefusedOff true, a.Told := by
    simp [onThenRefusedOff, AutostartAct.Told, ChangeCalls.unread]
  exact ⟨s, t, tray, hs, ht, htray,
    tray_told_truth hs hhonest (by decide +kernel) rfl
      (onThenRefusedOff_faithful true) htold ht htray⟩

/-! ## Where a task comes from -/

/-- `task` is Wardoff's own; Wardoff was elevated, `task` starts its executable in the executable's
directory, and the non-elevated token did not have all the rights to write that executable, or that
directory. -/
structure Vouched (task : TaskDefinition) (o : SetCalls) : Prop where
  elevated : o.elevated = .ok true
  executable : o.canonicalize = .ok task.action.path
  directory : task.action.workingDirectory.getD "" = (o.parent task.action.path).getD ""
  checked : (o.trust task.action.path (task.action.workingDirectory.getD "")).Succeed
  executableKept : ¬ HoldsAll (o.paths task.action.path).granted executableRights
  directoryKept : ¬ HoldsAll (o.paths (task.action.workingDirectory.getD "")).granted
    directoryRights
  own : ∃ userId, o.userId = .ok userId ∧
    task = wardoffTask userId task.action.path (task.action.workingDirectory.getD "") o.now

theorem wardoffTask_workingDirectory (userId executablePath workingDirectory now : String) :
    (wardoffTask userId executablePath workingDirectory now).action.workingDirectory.getD "" =
      workingDirectory := by
  by_cases hempty : workingDirectory = "" <;> simp [wardoffTask, hempty]

theorem vouched_of_prepared {o : SetCalls} {executablePath userId : String}
    (h : o.Prepared true executablePath userId) :
    Vouched (wardoffTask userId executablePath (currentWorkingDirectory o executablePath) o.now)
      o := by
  have hdirectory :=
    wardoffTask_workingDirectory userId executablePath
      (currentWorkingDirectory o executablePath) o.now
  obtain ⟨hsucceed, hexecutable, hkept⟩ := ensureTrusted_eq_ok_iff.1 (h.trusted rfl)
  constructor
  case elevated => exact h.elevated
  case executable => exact h.path
  case directory => exact hdirectory
  case checked => exact hdirectory.symm ▸ hsucceed
  case executableKept => exact hexecutable
  case directoryKept => exact hdirectory.symm ▸ hkept
  case own => exact ⟨userId, h.user, by rw [hdirectory]; rfl⟩

/-- A step in which Wardoff registers `task`. -/
def Registered (task : TaskDefinition) : AutostartAct Handle → Prop
  | .request enabled o _ => enabled = true ∧ Vouched task o.set
  | .action enabled o _ => enabled = true ∧ Vouched task o.set
  | .other _ => False
  | .foreign _ => False

theorem registered_of_change {task : TaskDefinition} {enabled : Bool} {o : ChangeCalls}
    (ha : a.change = some (enabled, o)) (henabled : enabled = true)
    (hvouched : Vouched task o.set) :
    Registered task a := by
  cases a with
  | request enabled' o' calls =>
    cases ha
    exact ⟨henabled, hvouched⟩
  | action enabled' o' calls =>
    cases ha
    exact ⟨henabled, hvouched⟩
  | other e => cases ha
  | foreign scheduler => cases ha

/-- A step leaves the task that was there, or what someone else has put there, or it registers a
task. -/
theorem autostartStep_scheduler {task : TaskDefinition} (h : autostartStep s a = some t)
    (htask : t.scheduler = some task) :
    s.scheduler = some task ∨ a = .foreign (some task) ∨ Registered task a := by
  cases autostartStep_cases h with
  | @changes enabled o ha hack =>
    have hupdates := setEnabled_updates o.set enabled s.scheduler
    change (setEnabled o.set enabled s.scheduler).2 = some task at htask
    revert htask
    generalize setEnabled o.set enabled s.scheduler = result at hupdates ⊢
    intro htask
    cases hupdates with
    | failed message => exact .inl htask
    | @registered executablePath userId henabled hprepared =>
      obtain rfl := Option.some.inj htask
      exact .inr (.inr (registered_of_change ha henabled (vouched_of_prepared hprepared)))
    | removed henabled hleft hnone =>
      rcases hleft with hleft | hleft
      · rw [show _ = none from hleft] at htask
        cases htask
      · exact .inl (hleft.symm.trans htask)
  | handles ha he => exact .inl htask
  | @meddles scheduler ha =>
    change scheduler = some task at htask
    exact .inr (.inl (by rw [ha, htask]))

/-- **Where a task comes from.** In every run, whatever the Task Scheduler answers, a task that is
there was there before, or someone else has put it there, or Wardoff has registered it: elevated,
and after the trust check has passed for the very executable that the task starts and for the
directory it starts it in. -/
theorem autostart_task_origin {as : List (AutostartAct Handle)} {task : TaskDefinition}
    (h : exec autostartStep s as = some t) (htask : t.scheduler = some task) :
    s.scheduler = some task ∨ .foreign (some task) ∈ as ∨ ∃ a ∈ as, Registered task a := by
  induction as generalizing s with
  | nil =>
    cases h
    exact .inl htask
  | cons a as ih =>
    obtain ⟨u, hu, hr⟩ := exec_cons_eq_some h
    rcases ih hr with hthere | hforeign | ⟨b, hb, hregistered⟩
    · rcases autostartStep_scheduler hu hthere with hs | rfl | hregistered
      · exact .inl hs
      · exact .inr (.inl List.mem_cons_self)
      · exact .inr (.inr ⟨a, List.mem_cons_self, hregistered⟩)
    · exact .inr (.inl (List.mem_cons_of_mem a hforeign))
    · exact .inr (.inr ⟨b, List.mem_cons_of_mem a hb, hregistered⟩)

theorem task_registered_by_request :
    ∃ t task, exec autostartStep (⟨none, { blockerCoordinator := {}, trayService := none }⟩ :
      AutostartSt Unit)
        (onThenRefusedOff true) = some t ∧ t.scheduler = some task ∧ ∃ a ∈ onThenRefusedOff true,
          Registered task a := by
  obtain ⟨t, task, ht, htask⟩ : ∃ t task,
      exec autostartStep (⟨none, { blockerCoordinator := {}, trayService := none }⟩ :
        AutostartSt Unit)
        (onThenRefusedOff true) = some t ∧ t.scheduler = some task := ⟨_, _, rfl, rfl⟩
  refine ⟨t, task, ht, htask, ?_⟩
  rcases autostart_task_origin ht htask with hnone | hforeign | hregistered
  · cases hnone
  · simp [onThenRefusedOff] at hforeign
  · exact hregistered

end Runtime

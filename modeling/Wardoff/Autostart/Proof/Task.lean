import Wardoff.Autostart.Proof.Trust
import Wardoff.Autostart.Task

/-!
# What an update of the autostart task does

* `isEnabled_ok`: what `is_enabled` answers is so.
* `setEnabled_updates`: an update fails and leaves the task, registers Wardoff's own
  (`wardoffTask`), or takes the task away.
* `setEnabled_ok`: one that succeeds leaves the task as it was asked for.

For the first and the last the Task Scheduler must not say of a task that is there that it is not
(`TaskApi.Honest`).
-/

namespace Autostart

/-- `NotFound` is said only of a task that is not there. -/
structure TaskApi.Honest (o : TaskApi) : Prop where
  getTask : ∀ error, o.fails .getTask = some error → isNotFoundError error = false
  deleteTask : ∀ error, o.fails .deleteTask = some error → isNotFoundError error = false

theorem bind_eq_ok {ε α β : Type} {x : Except ε α} {f : α → Except ε β} {b : β} :
    x >>= f = .ok b ↔ ∃ a, x = .ok a ∧ f a = .ok b := by
  cases x <;> simp [bind, Except.bind]

/-! ## Reading -/

section
variable {o : TaskApi} {scheduler : Scheduler}

theorem runTaskScheduler_eq_ok {α : Type} {operation : Except String α} {a : α}
    (h : runTaskScheduler o operation = .ok a) : operation = .ok a := by
  unfold runTaskScheduler at h
  split at h
  · cases h
  · split at h
    · cases h
    · exact h

theorem lookupAutostartTask_ok (hhonest : o.Honest) {task : Option TaskDefinition}
    (h : lookupAutostartTask o scheduler = .ok task) : task = scheduler := by
  obtain ⟨u, hfolder, h⟩ := bind_eq_ok.1 h
  cases hget : o.fails .getTask with
  | some error => simp [TaskApi.getTask, hget, hhonest.getTask error hget] at h
  | none =>
    cases scheduler with
    | some task => simpa [TaskApi.getTask, hget] using h.symm
    | none =>
      have hnone : isNotFoundError notFound = true := by decide
      simpa [TaskApi.getTask, hget, hnone] using h.symm

theorem taskEnabled_ok (hhonest : o.Honest) {enabled : Bool}
    (h : taskEnabled o scheduler = .ok enabled) :
    enabled = isOn scheduler := by
  obtain ⟨task, hlookup, hread⟩ := bind_eq_ok.1 h
  obtain rfl := lookupAutostartTask_ok hhonest hlookup
  cases task with
  | none => exact (Except.ok.inj hread).symm
  | some task =>
    obtain ⟨u, hcall, henabled⟩ := bind_eq_ok.1 hread
    exact (Except.ok.inj henabled).symm

/-- What `is_enabled` answers is so. -/
theorem isEnabled_ok (hhonest : o.Honest) {enabled : Bool}
    (h : isEnabled o scheduler = .ok enabled) :
    enabled = isOn scheduler := by
  have hop := runTaskScheduler_eq_ok h
  split at hop
  · cases hop
  · cases htask : taskEnabled o scheduler with
    | error error => simp [htask, Except.mapError] at hop
    | ok b =>
      have hb : b = enabled := by simpa [htask, Except.mapError] using hop
      exact hb ▸ taskEnabled_ok hhonest htask

end

/-! ## Changing -/

/-- The task that Wardoff registers. -/
def wardoffTask (userId executablePath workingDirectory now : String) : TaskDefinition where
  author := "Wardoff"
  description := "Starts Wardoff at current-user logon with the highest available privileges."
  principal := { id := "WardoffPrincipal", userId, logonType := .interactiveToken,
                 runLevel := .highest }
  settings := {
    allowDemandStart := true
    multipleInstances := .ignoreNew
    stopIfGoingOnBatteries := false
    disallowStartIfOnBatteries := false
    startWhenAvailable := true
    executionTimeLimit := "PT0S"
    enabled := true }
  trigger := { id := "WardoffLogonTrigger", enabled := true, startBoundary := now, userId }
  action := {
    path := executablePath
    workingDirectory := if workingDirectory.isEmpty then none else some workingDirectory }

section
variable {o : TaskApi} {userId executablePath workingDirectory now : String}

theorem configurePrincipal_ok {principal : Principal}
    (h : configurePrincipal o userId = .ok principal) :
    principal = (wardoffTask userId executablePath workingDirectory now).principal := by
  simp only [configurePrincipal, bind_eq_ok, pure, Except.pure, Except.ok.injEq] at h
  obtain ⟨-, -, -, -, -, -, -, -, -, -, rfl⟩ := h
  rfl

theorem configureSettings_ok {settings : Settings} (h : configureSettings o = .ok settings) :
    settings = (wardoffTask userId executablePath workingDirectory now).settings := by
  simp only [configureSettings, bind_eq_ok, pure, Except.pure, Except.ok.injEq] at h
  obtain ⟨-, -, -, -, -, -, -, -, -, -, -, -, -, -, -, -, rfl⟩ := h
  rfl

theorem configureLogonTrigger_ok {trigger : LogonTrigger}
    (h : configureLogonTrigger o userId now = .ok trigger) :
    trigger = (wardoffTask userId executablePath workingDirectory now).trigger := by
  simp only [configureLogonTrigger, bind_eq_ok, pure, Except.pure, Except.ok.injEq] at h
  obtain ⟨-, -, -, -, -, -, -, -, -, -, -, -, -, -, rfl⟩ := h
  rfl

theorem configureExecAction_ok {action : ExecAction}
    (h : configureExecAction o executablePath workingDirectory = .ok action) :
    action = (wardoffTask userId executablePath workingDirectory now).action := by
  simp only [configureExecAction, bind_eq_ok] at h
  obtain ⟨-, -, -, -, -, -, -, -, h⟩ := h
  split at h
  · cases h
    simp [wardoffTask, *]
  · obtain ⟨-, -, h⟩ := bind_eq_ok.1 h
    cases h
    simp [wardoffTask, *]

/-- The values of the task do not depend on the calls, which only may fail. -/
theorem autostartTaskDefinition_ok {task : TaskDefinition}
    (h : autostartTaskDefinition o userId executablePath workingDirectory now = .ok task) :
    task = wardoffTask userId executablePath workingDirectory now := by
  obtain ⟨-, -, h⟩ := bind_eq_ok.1 h
  obtain ⟨info, hinfo, h⟩ := bind_eq_ok.1 h
  obtain ⟨principal, hprincipal, h⟩ := bind_eq_ok.1 h
  obtain ⟨settings, hsettings, h⟩ := bind_eq_ok.1 h
  obtain ⟨trigger, htrigger, h⟩ := bind_eq_ok.1 h
  obtain ⟨action, haction, h⟩ := bind_eq_ok.1 h
  simp only [configureRegistrationInfo, bind_eq_ok, pure, Except.pure, Except.ok.injEq] at hinfo
  obtain ⟨-, -, -, -, -, -, rfl⟩ := hinfo
  have hprincipal :
    principal = (wardoffTask userId executablePath workingDirectory now).principal :=
    configurePrincipal_ok hprincipal
  have hsettings : settings = (wardoffTask userId executablePath workingDirectory now).settings :=
    configureSettings_ok hsettings
  have htrigger : trigger = (wardoffTask userId executablePath workingDirectory now).trigger :=
    configureLogonTrigger_ok htrigger
  have haction : action = (wardoffTask userId executablePath workingDirectory now).action :=
    configureExecAction_ok haction
  subst hprincipal hsettings htrigger haction
  exact (Except.ok.inj h).symm

theorem registerAutostartTask_cases (scheduler : Scheduler) :
    (∃ error, registerAutostartTask o userId executablePath workingDirectory now scheduler =
        (.error error, scheduler)) ∨
      registerAutostartTask o userId executablePath workingDirectory now scheduler =
        (.ok (), some (wardoffTask userId executablePath workingDirectory now)) := by
  unfold registerAutostartTask
  split
  · exact .inl ⟨_, rfl⟩
  · rename_i task htask
    obtain rfl := autostartTaskDefinition_ok htask
    split
    · exact .inl ⟨_, rfl⟩
    · split
      · exact .inl ⟨_, rfl⟩
      · exact .inr rfl

/-- Only an honest Task Scheduler has removed the task when it says so. -/
theorem removeAutostartTask_cases (scheduler : Scheduler) :
    (∃ error, removeAutostartTask o scheduler = (.error error, scheduler)) ∨
      ∃ removed left, removeAutostartTask o scheduler = (.ok removed, left) ∧
        (left = none ∨ left = scheduler) ∧ (o.Honest → left = none) := by
  unfold removeAutostartTask
  split
  · exact .inl ⟨_, rfl⟩
  · cases hdelete : o.fails .deleteTask with
    | some error =>
      simp only [TaskApi.deleteTask, hdelete]
      split
      · rename_i hnone
        refine .inr ⟨false, scheduler, rfl, .inr rfl, fun hhonest => ?_⟩
        rw [hhonest.deleteTask error hdelete] at hnone
        cases hnone
      · exact .inl ⟨error, rfl⟩
    | none =>
      have hnone : isNotFoundError notFound = true := by decide
      cases scheduler with
      | some task => exact .inr ⟨true, none, by simp [TaskApi.deleteTask, hdelete], .inl rfl,
          fun _ => rfl⟩
      | none =>
        exact .inr ⟨false, none, by simp [TaskApi.deleteTask, hdelete, hnone], .inl rfl,
          fun _ => rfl⟩

end

section
variable {o : SetCalls} {enabled : Bool} {scheduler left : Scheduler}

/-- What `set_enabled` has checked when it turns to the Task Scheduler. -/
structure SetCalls.Prepared (o : SetCalls) (enabled : Bool) (executablePath userId : String) :
    Prop where
  elevated : o.elevated = .ok true
  path : o.canonicalize = .ok executablePath
  user : o.userId = .ok userId
  trusted : enabled = true →
    ensureTrustedAutostartLocation
      (o.trust executablePath (currentWorkingDirectory o executablePath)) executablePath
      (currentWorkingDirectory o executablePath) = .ok ()

theorem prepareSet_ok {executablePath userId : String}
    (h : prepareSet o enabled = .ok (executablePath, userId)) :
    o.Prepared enabled executablePath userId := by
  obtain ⟨u, helevated, h⟩ := bind_eq_ok.1 h
  obtain ⟨path, hpath, h⟩ := bind_eq_ok.1 h
  obtain ⟨user, huser, h⟩ := bind_eq_ok.1 h
  have htrue : o.elevated = .ok true := by
    unfold ensureProcessIsElevated at helevated
    split at helevated
    · assumption
    · cases helevated
    · cases helevated
  have hcanonical : o.canonicalize = .ok path := by
    unfold currentExecutablePath at hpath
    split at hpath
    · cases hpath
    · split at hpath
      · cases hpath
      · rename_i hcanonical
        cases hpath
        exact hcanonical
  cases enabled with
  | false =>
    cases h
    exact ⟨htrue, hcanonical, huser, fun h => (by cases h)⟩
  | true =>
    obtain ⟨v, htrusted, h⟩ := bind_eq_ok.1 h
    cases h
    exact ⟨htrue, hcanonical, huser, fun _ => htrusted⟩

theorem changeTask_cases {α : Type} {o : TaskApi}
    {operation : Scheduler → Except WindowsError α × Scheduler} :
    (∃ message, changeTask o operation scheduler = (.error message, scheduler)) ∨
      (∃ error left, operation scheduler = (.error error, left) ∧
        changeTask o operation scheduler = (.error (taskServiceError error), left)) ∨
      ∃ a left, operation scheduler = (.ok a, left) ∧
        changeTask o operation scheduler = (.ok (), left) := by
  unfold changeTask
  split
  · exact .inl ⟨_, rfl⟩
  · split
    · rename_i error left hop
      exact .inr (.inl ⟨error, left, hop, rfl⟩)
    · rename_i a left hop
      exact .inr (.inr ⟨a, left, hop, rfl⟩)

/-- One `set_enabled`: it fails and leaves the task, it registers Wardoff's own task, or it takes
the task away. -/
inductive Updates (o : SetCalls) (enabled : Bool) (scheduler : Scheduler) :
    Except String Unit × Scheduler → Prop
  | failed (message : String) : Updates o enabled scheduler (.error message, scheduler)
  | registered {executablePath userId : String} (henabled : enabled = true)
      (hprepared : o.Prepared true executablePath userId) :
      Updates o enabled scheduler
        (.ok (),
          some (wardoffTask userId executablePath (currentWorkingDirectory o executablePath) o.now))
  | removed {left : Scheduler} (henabled : enabled = false) (hleft : left = none ∨ left = scheduler)
      (hhonest : o.task.Honest → left = none) : Updates o enabled scheduler (.ok (), left)

theorem setEnabled_updates (o : SetCalls) (enabled : Bool) (scheduler : Scheduler) :
    Updates o enabled scheduler (setEnabled o enabled scheduler) := by
  unfold setEnabled
  split
  · exact .failed _
  · rename_i executablePath userId hprepare
    have hprepared := prepareSet_ok hprepare
    cases enabled with
    | true =>
      simp only [if_true]
      have hregister := @registerAutostartTask_cases o.task userId executablePath
        (currentWorkingDirectory o executablePath) o.now scheduler
      rcases changeTask_cases with ⟨message, h⟩ | ⟨error, left, hop, h⟩ | ⟨a, left, hop, h⟩
      · rw [h]
        exact .failed message
      · rw [h]
        rcases hregister with ⟨e, he⟩ | hok
        · cases hop.symm.trans he
          exact .failed _
        · cases hop.symm.trans hok
      · rw [h]
        rcases hregister with ⟨e, he⟩ | hok
        · cases hop.symm.trans he
        · cases hop.symm.trans hok
          exact .registered rfl hprepared
    | false =>
      simp only [Bool.false_eq_true, if_false]
      rcases changeTask_cases with ⟨message, h⟩ | ⟨error, left, hop, h⟩ | ⟨a, left, hop, h⟩
      · rw [h]
        exact .failed message
      · rw [h]
        rcases removeAutostartTask_cases (o := o.task) scheduler with
          ⟨e, he⟩ | ⟨removed, left', hok, -⟩
        · cases hop.symm.trans he
          exact .failed _
        · cases hop.symm.trans hok
      · rw [h]
        rcases removeAutostartTask_cases (o := o.task) scheduler with
          ⟨e, he⟩ | ⟨removed, left', hok, hleft, hhonest⟩
        · cases hop.symm.trans he
        · cases hop.symm.trans hok
          exact .removed rfl hleft hhonest

/-- An update that succeeds leaves the task as it was asked for. -/
theorem setEnabled_ok (hhonest : o.task.Honest)
    (h : setEnabled o enabled scheduler = (.ok (), left)) :
    isOn left = enabled := by
  have hupdates := setEnabled_updates o enabled scheduler
  rw [h] at hupdates
  cases hupdates with
  | registered henabled hprepared =>
    rw [henabled]
    rfl
  | removed henabled hleft hnone =>
    rw [hnone hhonest, henabled]
    rfl

/-- An update that fails leaves the task as it is. -/
theorem setEnabled_error {message : String}
    (h : setEnabled o enabled scheduler = (.error message, left)) :
    left = scheduler := by
  have hupdates := setEnabled_updates o enabled scheduler
  rw [h] at hupdates
  cases hupdates
  rfl

end

end Autostart

import Wardoff.Blocker.Coordinator
import Wardoff.Blocker.Proof.Sleep

/-!
# What the cached mode says about the layers

`AllOff` is the state of the five layers after a clean return to Allow mode, `Protected` what a
successful Block is supposed to mean.

* `setMode_block_of_allOff`: from an all-off Allow state, entering Block protects, or rolls back to
  an all-off Allow state (Layer 1 is activated last, so its rollback has nothing to undo).
* `allow_all_off`: without a forced cleanup, every reachable Allow state is all off.
* `block_means_protected`: in a run that is `Steady`, a Block that succeeds protects.
  The three things `Steady` rules out leave the cached mode and the layers apart: a failed return to
  Allow (Block, with everything but Layer 1 stopped), a failed renewal in Block (Block without the
  sleep layer), and a forced cleanup in Block (Allow, with stopped workers still in their slots).
-/

namespace Blocker

open Machine

variable {Handle : Type}

/-- Every layer is off. -/
structure AllOff (c : BlockerCoordinator Handle) : Prop where
  localLayer : c.localShutdownBlocker.worker = none
  update : c.updateRebootBlocker.worker = none
  remote : c.remoteShutdownBlocker.worker = none
  sleep : Released c.sleepBlocker.requests
  reason : c.shutdownBlocker.reasonRegistered = false
  veto : c.shutdownBlocker.blockerActive = false

/-- What a successful Block means: Layer 1 refuses, both power requests are acquired, and the other
layers were activated after they were last stopped. -/
structure Protected (c : BlockerCoordinator Handle) : Prop where
  veto : c.shutdownBlocker.blockerActive = true
  sleep : c.sleepBlocker.isActive = true
  localLayer : c.localShutdownBlocker.armed = true
  update : c.updateRebootBlocker.armed = true
  remote : c.remoteShutdownBlocker.armed = true

theorem allOff_init : AllOff ({} : BlockerCoordinator Handle) :=
  ⟨rfl, rfl, rfl, ⟨rfl, rfl⟩, rfl, rfl⟩

/-! ## One layer -/

theorem LocalShutdownBlocker.activate_armed {o : LocalCalls} {b b' : LocalShutdownBlocker}
    (hb : b.worker = none) (h : b.activate o = (.ok (), b')) : b'.armed = true := by
  simp only [LocalShutdownBlocker.activate, LocalShutdownBlocker.cleanupFinishedWorker, hb,
    Option.isSome_none, Bool.false_and, Bool.false_eq_true, if_false] at h
  split at h
  · cases h; rfl
  · cases h; rfl
  · split at h
    · cases h; rfl
    · split at h
      · cases h; rfl
      · simp at h

theorem PollingLayer.start_armed {message : String} {spawn : Except String Unit}
    {b b' : PollingLayer} (h : b.start message spawn = (.ok (), b')) : b'.armed = true := by
  unfold PollingLayer.start at h
  split at h
  · cases h; rfl
  · simp at h

theorem UpdateRebootBlocker.activate_armed {o : UpdateCalls} {b b' : UpdateRebootBlocker}
    (hb : b.worker = none) (h : b.activate o = (.ok (), b')) : b'.armed = true := by
  simp only [UpdateRebootBlocker.activate, hb, Option.isSome_none, Bool.false_eq_true,
    if_false] at h
  split at h
  · exact PollingLayer.start_armed h
  · cases h; rfl
  · cases h; rfl

theorem RemoteShutdownBlocker.activate_armed {spawn : Except String Unit}
    {b b' : RemoteShutdownBlocker} (hb : b.worker = none) (h : b.activate spawn = (.ok (), b')) :
    b'.armed = true := by
  simp only [RemoteShutdownBlocker.activate, hb, Option.isSome_none, Bool.false_eq_true, if_false]
    at h
  exact PollingLayer.start_armed h

theorem ShutdownBlocker.activate_error {create : Except String Unit} {b b' : ShutdownBlocker}
    {error : String} (h : b.activate create = (.error error, b')) : b' = b := by
  unfold ShutdownBlocker.activate at h
  split at h
  · cases h
  · split at h
    · cases h; rfl
    · cases h

theorem ShutdownBlocker.deactivate_of_not_registered (destroy : Except String Unit)
    {b : ShutdownBlocker} (hb : b.reasonRegistered = false) :
    b.deactivate destroy = (.ok (), ⟨false, false⟩) := by
  simp [ShutdownBlocker.deactivate, hb]

/-- Layer 1 after a `deactivate` that succeeds. -/
theorem ShutdownBlocker.deactivate_ok {destroy : Except String Unit} {b b' : ShutdownBlocker}
    (h : b.deactivate destroy = (.ok (), b')) : b' = ⟨false, false⟩ := by
  cases hb : b.reasonRegistered with
  | false => simpa [ShutdownBlocker.deactivate, hb, eq_comm] using h
  | true =>
    cases destroy with
    | error e => simp [ShutdownBlocker.deactivate, hb] at h
    | ok u => simpa [ShutdownBlocker.deactivate, hb, eq_comm] using h

/-! ## The layers in order -/

section
variable {o : LayerCalls Handle} {c c' : BlockerCoordinator Handle}

/-- What `activateLayers` can do: it stops before Layer 1, or at Layer 1, or arms all five. -/
theorem activateLayers_cases (o : LayerCalls Handle) (c : BlockerCoordinator Handle) :
    (∃ error, (c.activateLayers o).1 = .error error ∧
      (c.activateLayers o).2.shutdownBlocker = c.shutdownBlocker ∧
      (Whole c.sleepBlocker → Whole (c.activateLayers o).2.sleepBlocker) ∧
      (c.activateLayers o).2.mode = c.mode) ∨
    (∃ l u r p b, c.localShutdownBlocker.activate o.localLayer = (.ok (), l) ∧
      c.updateRebootBlocker.activate o.update = (.ok (), u) ∧
      c.remoteShutdownBlocker.activate o.remote = (.ok (), r) ∧
      c.sleepBlocker.activate o.power = (.ok (), p) ∧
      c.shutdownBlocker.activate o.reasonCreate = (.ok (), b) ∧
      c.activateLayers o = (.ok (), ⟨c.mode, b, l, u, r, p⟩)) := by
  unfold BlockerCoordinator.activateLayers
  split
  · exact .inl ⟨_, rfl, rfl, id, rfl⟩
  · rename_i l hl
    dsimp only
    split
    · exact .inl ⟨_, rfl, rfl, id, rfl⟩
    · rename_i u hu
      split
      · exact .inl ⟨_, rfl, rfl, id, rfl⟩
      · rename_i r hr
        -- from here on the sleep layer has been touched
        have hw : Whole c.sleepBlocker → Whole (c.sleepBlocker.activate o.power).2 := fun hs =>
          (activate_whole o.power hs).imp (·.2) (·.2)
        split
        · rename_i e p he
          exact .inl ⟨_, rfl, rfl, by simpa [he] using hw, rfl⟩
        · rename_i p hp
          split
          · rename_i e b he
            exact .inl ⟨_, rfl, ShutdownBlocker.activate_error he, by simpa [hp] using hw, rfl⟩
          · rename_i b hb
            exact .inr ⟨l, u, r, p, b, hl, hu, hr, hp, hb, rfl⟩

@[simp] theorem deactivateWorkers_mode : (c.deactivateWorkers o).mode = c.mode := rfl

@[simp] theorem deactivateWorkers_shutdownBlocker :
    (c.deactivateWorkers o).shutdownBlocker = c.shutdownBlocker := rfl

/-- **Entering Block from an all-off Allow state** protects, or rolls back to such a state; the
rollback finds nothing to undo in Layer 1. -/
theorem setMode_block_of_allOff (h : AllOff c) (hm : c.mode = .allow) :
    (c.setMode o .block = (.ok true, (c.setMode o .block).2) ∧
      (c.setMode o .block).2.mode = .block ∧ Protected (c.setMode o .block).2) ∨
    (∃ error, (c.activateLayers o).1 = .error error ∧
      ((c.activateLayers o).2.shutdownBlocker.deactivate o.reasonDestroy).1 = .ok () ∧
      (c.setMode o .block).1 = .error (BlockerCoordinator.rolledBackMessage error) ∧
      (c.setMode o .block).2.mode = .allow ∧ AllOff (c.setMode o .block).2) := by
  rcases activateLayers_cases o c with
    ⟨error, he, hb, hs, hmode⟩ | ⟨l, u, r, p, b, hl, hu, hr, hp, hb, he⟩
  · refine .inr ⟨error, he, ?_⟩
    generalize hc : c.activateLayers o = q at he hb hs hmode
    obtain ⟨res, c₁⟩ := q
    subst he
    have hreg : c₁.shutdownBlocker.reasonRegistered = false := by rw [hb]; exact h.reason
    have hd := ShutdownBlocker.deactivate_of_not_registered o.reasonDestroy hreg
    have hset : c.setMode o .block = (.error (BlockerCoordinator.rolledBackMessage error),
        { c₁.deactivateWorkers o with shutdownBlocker := ⟨false, false⟩ }) := by
      simp [BlockerCoordinator.setMode, hm, BlockerCoordinator.activateBlockMode, hc,
        BlockerCoordinator.rollbackFailedBlockActivation, BlockerCoordinator.deactivateWorkers, hd]
    rw [hset]
    exact ⟨by rw [hd], rfl, hmode.trans hm, rfl, rfl, rfl,
      deactivate_released _ (hs (.inr h.sleep)), rfl, rfl⟩
  · have hset : c.setMode o .block = (.ok true, ⟨.block, b, l, u, r, p⟩) := by
      simp [BlockerCoordinator.setMode, hm, BlockerCoordinator.activateBlockMode, he]
    rw [hset]
    refine .inl ⟨rfl, rfl, ?_, ?_, LocalShutdownBlocker.activate_armed h.localLayer hl,
      UpdateRebootBlocker.activate_armed h.update hu,
      RemoteShutdownBlocker.activate_armed h.remote hr⟩
    · cases hrc : o.reasonCreate <;> simp_all [ShutdownBlocker.activate, h.reason]
      subst hb
      rfl
    · have := activate_whole o.power (.inr h.sleep)
      rw [hp] at this
      exact (this.resolve_right (by simp)).2

/-- Leaving Block stops the four worker layers whatever happens to Layer 1; the cached mode follows
only if Layer 1 could be deactivated. -/
theorem setMode_allow_of_block (hs : Whole c.sleepBlocker) (hm : c.mode = .block) :
    ((c.setMode o .allow).1 = .ok true ∧ (c.setMode o .allow).2.mode = .allow ∧
      AllOff (c.setMode o .allow).2) ∨
    ((∃ error, (c.setMode o .allow).1 = .error error) ∧ (c.setMode o .allow).2.mode = .block ∧
      Whole (c.setMode o .allow).2.sleepBlocker ∧ o.reasonDestroy ≠ .ok ()) := by
  generalize hd : c.shutdownBlocker.deactivate o.reasonDestroy = q
  obtain ⟨result, b⟩ := q
  cases result with
  | error e =>
    have hset :
      c.setMode o .allow =
        (.error s!"Wardoff could not fully switch to Allow mode because Layer 1 could not deactivate: {e}",
        { c with shutdownBlocker := b }.deactivateWorkers o) := by
      simp [BlockerCoordinator.setMode, hm, BlockerCoordinator.activateAllowMode, hd]
    have hdes : o.reasonDestroy ≠ .ok () := by
      intro h
      rw [h] at hd
      cases hb : c.shutdownBlocker.reasonRegistered <;> simp [ShutdownBlocker.deactivate, hb] at hd
    rw [hset]
    exact .inr ⟨⟨_, rfl⟩, hm, .inr (deactivate_released _ hs), hdes⟩
  | ok u =>
    obtain rfl := ShutdownBlocker.deactivate_ok hd
    have hset : c.setMode o .allow =
        (.ok true, { { c with shutdownBlocker := ⟨false, false⟩ }.deactivateWorkers o with
          mode := .allow }) := by
      simp [BlockerCoordinator.setMode, hm, BlockerCoordinator.activateAllowMode, hd]
    rw [hset]
    exact .inl ⟨rfl, rfl, rfl, rfl, rfl, deactivate_released _ hs, rfl, rfl⟩

/-- The mode of the result: the requested one if the switch succeeded, else the previous one. -/
theorem setMode_mode (o : LayerCalls Handle) (mode : BlockerMode) (c : BlockerCoordinator Handle) :
    (c.setMode o mode).2.mode = if (c.setMode o mode).1.isOk then mode else c.mode := by
  by_cases hm : c.mode = mode
  · simp [BlockerCoordinator.setMode, hm, Except.isOk, Except.toBool]
  cases mode with
  | block =>
    rcases activateLayers_cases o c with ⟨e, he, -, -, hmode⟩ | ⟨l, u, r, p, b, -, -, -, -, -, he⟩
    · generalize hc : c.activateLayers o = q at he hmode
      obtain ⟨result, c₁⟩ := q
      subst he
      simp only [BlockerCoordinator.setMode, hm, if_false, BlockerCoordinator.activateBlockMode, hc,
        BlockerCoordinator.rollbackFailedBlockActivation]
      split <;> simpa [Except.isOk, Except.toBool] using hmode
    · simp [BlockerCoordinator.setMode, hm, BlockerCoordinator.activateBlockMode, he, Except.isOk,
        Except.toBool]
  | allow =>
    simp only [BlockerCoordinator.setMode, hm, if_false, BlockerCoordinator.activateAllowMode]
    cases hd : (c.shutdownBlocker.deactivate o.reasonDestroy).1 with
    | ok u => simp [Except.isOk, Except.toBool]
    | error e => simp [Except.isOk, Except.toBool, BlockerCoordinator.deactivateWorkers]

/-- From Allow, activated layers are all a Block needs. -/
theorem setMode_block_of_activateLayers (hm : c.mode = .allow)
    (h : (c.activateLayers o).1 = .ok ()) : (c.setMode o .block).1 = .ok true := by
  generalize hc : c.activateLayers o = q at h
  obtain ⟨result, c₁⟩ := q
  subst h
  simp [BlockerCoordinator.setMode, hm, BlockerCoordinator.activateBlockMode, hc]

theorem setMode_of_eq {mode : BlockerMode} (hm : c.mode = mode) :
    c.setMode o mode = (.ok false, c) := by
  simp [BlockerCoordinator.setMode, hm]

end

/-! ## Runs without a forced cleanup -/

/-- The sleep layer is whole, and Allow means all off. -/
structure Calm (c : BlockerCoordinator Handle) : Prop where
  whole : Whole c.sleepBlocker
  allow : c.mode = .allow → AllOff c

def CoordinatorOp.isForcedShutdownCleanup : CoordinatorOp Handle → Bool
  | .forcedShutdownCleanup _ => true
  | _ => false

section
variable {c : BlockerCoordinator Handle}

theorem Protected.whole (h : Protected c) : Whole c.sleepBlocker := .inl h.sleep

/-- A state in Block with a whole sleep layer is calm. -/
theorem calm_of_block (hs : Whole c.sleepBlocker) (hm : c.mode = .block) : Calm c :=
  ⟨hs, fun h => by simp [hm] at h⟩

theorem calm_of_allOff (h : AllOff c) : Calm c := ⟨.inr h.sleep, fun _ => h⟩

theorem Calm.setMode (h : Calm c) (o : LayerCalls Handle) (mode : BlockerMode) :
    Calm (c.setMode o mode).2 := by
  by_cases hm : c.mode = mode
  · rw [setMode_of_eq hm]
    exact h
  · cases mode with
    | block =>
      have ha : c.mode = .allow := by cases hc : c.mode <;> simp_all
      rcases setMode_block_of_allOff (o := o) (h.allow ha) ha with
        ⟨-, hb, hp⟩ | ⟨e, -, -, -, -, hoff⟩
      · exact calm_of_block hp.whole hb
      · exact calm_of_allOff hoff
    | allow =>
      have hb : c.mode = .block := by cases hc : c.mode <;> simp_all
      rcases setMode_allow_of_block (o := o) h.whole hb with ⟨-, -, hoff⟩ | ⟨-, hm', hs, -⟩
      · exact calm_of_allOff hoff
      · exact calm_of_block hs hm'

theorem Calm.renew (h : Calm c) (power : PowerApi Handle) :
    Calm (c.renewSleepRequestsAfterResume power).2 := by
  unfold BlockerCoordinator.renewSleepRequestsAfterResume
  split
  · rename_i hm
    refine calm_of_block ?_ hm
    exact (renewAfterResume_whole power).imp (·.2) (·.2)
  · exact h

theorem Calm.run (h : Calm c) {op : CoordinatorOp Handle}
    (hop : op.isForcedShutdownCleanup = false) : Calm (op.run c) := by
  cases op with
  | setMode mode o => exact h.setMode o mode
  | renewSleepRequestsAfterResume power => exact h.renew power
  | forcedShutdownCleanup power => simp [CoordinatorOp.isForcedShutdownCleanup] at hop

end

theorem calm_runs {ops : List (CoordinatorOp Handle)}
    (hops : ∀ op ∈ ops, op.isForcedShutdownCleanup = false) :
    Calm (ops.foldl CoordinatorOp.run ({} : BlockerCoordinator Handle)) := by
  refine inv_of_along_foldl (P := fun _ op => op.isForcedShutdownCleanup = false)
    (fun c op h hop => h.run hop) (calm_of_allOff allOff_init) ?_
  rw [along_total_iff]
  intro pre a post he
  subst he
  exact hops a (by simp)

/-- **Failed Block activation is atomic.** In a run without a forced cleanup, an Allow state is all
off; a Block that fails there returns to an all-off Allow state, and its rollback of Layer 1 never
fails. -/
theorem allow_all_off (ops : List (CoordinatorOp Handle))
    (hops : ∀ op ∈ ops, op.isForcedShutdownCleanup = false) {c : BlockerCoordinator Handle}
    (hc : ops.foldl CoordinatorOp.run {} = c) (hm : c.mode = .allow) :
    AllOff c ∧
    ∀ (o : LayerCalls Handle) (message : String), (c.setMode o .block).1 = .error message →
      (c.setMode o .block).2.mode = .allow ∧ AllOff (c.setMode o .block).2 ∧
      ∃ error, (c.activateLayers o).1 = .error error ∧
        ((c.activateLayers o).2.shutdownBlocker.deactivate o.reasonDestroy).1 = .ok () ∧
        message = BlockerCoordinator.rolledBackMessage error := by
  subst hc
  have hoff := (calm_runs hops).allow hm
  refine ⟨hoff, fun o message he => ?_⟩
  rcases setMode_block_of_allOff (o := o) hoff hm with ⟨hok, -, -⟩ | ⟨e, h₁, h₂, h₃, h₄, h₅⟩
  · rw [hok] at he
    simp at he
  · rw [h₃] at he
    exact ⟨h₄, h₅, e, h₁, h₂, by simpa using he.symm⟩

/-- After a Block and an Allow, a Block whose `ShutdownBlockReasonCreate` fails: the four layers
that it had activated are off again. -/
theorem allow_all_off_after_cycle :
    let c : BlockerCoordinator Unit :=
      [.setMode .block (.succeed ()), .setMode .allow (.succeed ())].foldl CoordinatorOp.run {}
    let o : LayerCalls Unit :=
      { LayerCalls.succeed () with reasonCreate := .error "Access is denied." }
    (c.activateLayers o).2.sleepBlocker.isActive = true ∧
      AllOff c ∧ (c.setMode o .block).2.mode = .allow ∧ AllOff (c.setMode o .block).2 := by
  have h := allow_all_off
    ([.setMode .block (.succeed ()), .setMode .allow (.succeed ())] : List (CoordinatorOp Unit))
    (by decide) rfl rfl
  have hfailed := h.2 { LayerCalls.succeed () with reasonCreate := .error "Access is denied." }
    _ rfl
  exact ⟨by decide, h.1, hfailed.1, hfailed.2.1⟩

/-! ## Runs in which the cached mode stays true -/

/-- The mode and the layers agree. -/
structure Agrees (c : BlockerCoordinator Handle) : Prop where
  allow : c.mode = .allow → AllOff c
  block : c.mode = .block → Protected c

/-- An operation that keeps the mode and the layers together: in Block mode, a return to Allow
destroys the shutdown reason, a renewal closes the old request object and acquires both requests
on a new one, and no forced cleanup runs. -/
def Steady (c : BlockerCoordinator Handle) : CoordinatorOp Handle → Prop
  | .setMode .block _ => True
  | .setMode .allow o => c.mode = .block → o.reasonDestroy = .ok ()
  | .renewSleepRequestsAfterResume power => c.mode = .block →
      (∀ handle, c.sleepBlocker.requests.handle = some handle → power.close handle = .ok ()) ∧
      ∃ handle, power.create = .ok handle ∧ ∀ kind, power.set handle kind = .ok ()
  | .forcedShutdownCleanup _ => c.mode = .allow

section
variable {c : BlockerCoordinator Handle}

theorem Agrees.whole (h : Agrees c) : Whole c.sleepBlocker := by
  cases hm : c.mode with
  | block => exact (h.block hm).whole
  | allow => exact .inr (h.allow hm).sleep

theorem agrees_of_allOff (h : AllOff c) (hm : c.mode = .allow) : Agrees c :=
  ⟨fun _ => h, fun hb => by simp [hm] at hb⟩

theorem agrees_of_protected (h : Protected c) (hm : c.mode = .block) : Agrees c :=
  ⟨fun ha => by simp [hm] at ha, fun _ => h⟩

/-- A Block that succeeds where mode and layers agree protects. -/
theorem Agrees.setMode_block (h : Agrees c) (o : LayerCalls Handle) :
    Agrees (c.setMode o .block).2 ∧
      ((c.setMode o .block).1.isOk = true → Protected (c.setMode o .block).2) := by
  cases hm : c.mode with
  | block =>
    rw [setMode_of_eq hm]
    exact ⟨h, fun _ => h.block hm⟩
  | allow =>
    rcases setMode_block_of_allOff (o := o) (h.allow hm) hm with
      ⟨-, hb, hp⟩ | ⟨e, -, -, he, ha, hoff⟩
    · exact ⟨agrees_of_protected hp hb, fun _ => hp⟩
    · exact ⟨agrees_of_allOff hoff ha, fun hok => by simp [he, Except.isOk, Except.toBool] at hok⟩

theorem Agrees.setMode_allow (h : Agrees c) {o : LayerCalls Handle}
    (ho : c.mode = .block → o.reasonDestroy = .ok ()) : Agrees (c.setMode o .allow).2 := by
  cases hm : c.mode with
  | allow =>
    rw [setMode_of_eq hm]
    exact h
  | block =>
    rcases setMode_allow_of_block (o := o) h.whole hm with ⟨-, ha, hoff⟩ | ⟨-, -, -, hne⟩
    · exact agrees_of_allOff hoff ha
    · exact absurd (ho hm) hne

theorem Agrees.forcedShutdownCleanup (h : Agrees c) (hm : c.mode = .allow)
    (power : PowerApi Handle) : Agrees (c.forcedShutdownCleanup power) := by
  have hoff := h.allow hm
  refine agrees_of_allOff ⟨hoff.localLayer, ?_, ?_, deactivate_released _ h.whole, hoff.reason,
    hoff.veto⟩ rfl
  · simp [BlockerCoordinator.forcedShutdownCleanup, PollingLayer.beginForcedShutdownCleanup,
      hoff.update]
  · simp [BlockerCoordinator.forcedShutdownCleanup, PollingLayer.beginForcedShutdownCleanup,
      hoff.remote]

theorem Agrees.renew (h : Agrees c) {power : PowerApi Handle}
    (hp : Steady c (.renewSleepRequestsAfterResume power)) :
    Agrees (c.renewSleepRequestsAfterResume power).2 := by
  cases hm : c.mode with
  | allow =>
    have hc : c.renewSleepRequestsAfterResume power = (.ok (), c) := by
      simp [BlockerCoordinator.renewSleepRequestsAfterResume, hm]
    rw [hc]
    exact h
  | block =>
    obtain ⟨hclose, hnew⟩ := hp hm
    have hpr := h.block hm
    have hc : (c.renewSleepRequestsAfterResume power).2 =
        { c with sleepBlocker := (c.sleepBlocker.renewAfterResume power).2 } := by
      simp [BlockerCoordinator.renewSleepRequestsAfterResume, hm]
    rw [hc]
    exact agrees_of_protected
      ⟨hpr.veto, renewAfterResume_active power hclose hnew, hpr.localLayer, hpr.update,
        hpr.remote⟩ hm

theorem Agrees.run (h : Agrees c) {op : CoordinatorOp Handle} (hop : Steady c op) :
    Agrees (op.run c) := by
  cases op with
  | setMode mode o =>
    cases mode with
    | block => exact (h.setMode_block o).1
    | allow => exact h.setMode_allow hop
  | renewSleepRequestsAfterResume power => exact h.renew hop
  | forcedShutdownCleanup power => exact h.forcedShutdownCleanup hop power

end

/-- **A successful Block protects** at the end of every run whose operations are steady. -/
theorem block_means_protected (ops : List (CoordinatorOp Handle))
    (hops : Along (total CoordinatorOp.run) Steady ({} : BlockerCoordinator Handle) ops)
    (o : LayerCalls Handle) {c : BlockerCoordinator Handle}
    (hc : ops.foldl CoordinatorOp.run {} = c) (hok : (c.setMode o .block).1.isOk = true) :
    Protected (c.setMode o .block).2 := by
  have hinit : Agrees ({} : BlockerCoordinator Handle) := agrees_of_allOff allOff_init rfl
  have h : Agrees c := hc ▸ inv_of_along_foldl (fun _ _ h hop => h.run hop) hinit hops
  exact (h.setMode_block o).2 hok

/-- Block, a renewal after a resume, Allow, and Block again. -/
theorem block_means_protected_after_cycle :
    Protected (([.setMode .block (.succeed ()),
      .renewSleepRequestsAfterResume (LayerCalls.succeed ()).power,
      .setMode .allow (.succeed ())].foldl CoordinatorOp.run
        ({} : BlockerCoordinator Unit)).setMode (.succeed ()) .block).2 :=
  block_means_protected
    [.setMode .block (.succeed ()), .renewSleepRequestsAfterResume (LayerCalls.succeed ()).power,
      .setMode .allow (.succeed ())]
    ⟨trivial, fun _ _ => ⟨fun _ => ⟨fun _ _ => rfl, (), rfl, fun _ => rfl⟩,
      fun _ _ => ⟨fun _ => rfl, fun _ _ => trivial⟩⟩⟩
    (.succeed ()) rfl rfl

/-- Entering Block, a return to Allow whose `ShutdownBlockReasonDestroy` fails, and Block again: the
last Block reports success and changes nothing, with every layer but Layer 1 stopped. -/
theorem block_unprotected_after_failed_allow :
    ¬ ∀ (ops : List (CoordinatorOp Unit)) (o : LayerCalls Unit),
      ((ops.foldl CoordinatorOp.run {}).setMode o .block).1.isOk = true →
        Protected ((ops.foldl CoordinatorOp.run {}).setMode o .block).2 := by
  intro h
  have hp := h [.setMode .block (.succeed ()),
    .setMode .allow { LayerCalls.succeed () with reasonDestroy := .error "Access is denied." }]
    (.succeed ()) rfl
  exact absurd hp.sleep (by decide)

end Blocker

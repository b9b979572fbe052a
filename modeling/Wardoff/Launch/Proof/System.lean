import Wardoff.Instance.Proof.Claim
import Wardoff.Launch.System
import Wardoff.Machine.Refinement

/-!
# What a process of a session can do
-/

namespace Launch

open Instance (ProcAct)
open Machine

variable {parse : Parser} {name : String} {s t : LaunchSt} {p : Nat} {proc : Process}

/-! ## Steps -/

/-- The process is neither the runtime nor on its way to become it. -/
def LaunchPc.left : LaunchPc → Bool
  | .claiming _ => false
  | .forwarding _ => false
  | .readingStatus => true
  | .readingLog => true
  | .preparing => false
  | .changingAutostart => true
  | .running _ => false
  | .returned _ => true
  | .exited => true

/-- Where the process `p` may go, and what becomes of the mutex. -/
inductive Moves (name : String) (s : LaunchSt) (p : Nat) (proc : Process) :
    LaunchPc → Instance.St → Prop
  | wins {again : Bool} (hpc : proc.pc = .claiming again) (hprimary : s.mutex.procs p = .primary)
      (haction : (runtimeOptionsFor proc.cli.requestedAction).isSome) :
      Moves name s p proc .preparing s.mutex
  | forwards {again : Bool} {request : Ipc.IpcRequest} (hpc : proc.pc = .claiming again) :
      Moves name s p proc (.forwarding request) s.mutex
  | claimsAgain {request : Ipc.IpcRequest} {mutex : Instance.St}
      (hpc : proc.pc = .forwarding request)
      (hmutex : Instance.step name s.mutex (p, .start 1) = some mutex) :
      Moves name s p proc (.claiming true) mutex
  | runs {options : Runtime.RuntimeOptions} (hpc : proc.pc = .preparing)
      (hoptions : runtimeOptionsFor proc.cli.requestedAction = some options)
      (helevated : proc.cli.requestedAction = .default → proc.elevated = true) :
      Moves name s p proc (.running options) s.mutex
  | leaves {pc : LaunchPc} {mutex : Instance.St} (hpc : pc.left = true)
      (hmutex : mutex = s.mutex ∨ ∃ call, Instance.step name s.mutex (p, call) = some mutex) :
      Moves name s p proc pc mutex

/-- When a process starts another one in its place. -/
inductive Relaunches (proc : Process) : Relaunch → Prop
  | elevated (haction : proc.cli.requestedAction = .default)
      (hflag : proc.cli.elevatedRelaunch = false)
      (htoken : proc.elevated = false) : Relaunches proc .elevated
  | detached (hflag : proc.cli.detachedRuntime = false)
      (htoken : proc.cli.requestedAction = .default → proc.elevated = true) :
      Relaunches proc .detached

inductive LaunchStep (parse : Parser) (name : String) (s : LaunchSt) : LaunchAct → LaunchSt → Prop
  | launches {args : List String} {elevated : Bool} {t : LaunchSt}
      (h : s.start parse name args elevated s.procs.length args = some t) :
      LaunchStep parse name s (.user args elevated) t
  | calls {p : Nat} {proc : Process} {again : Bool} {call : ProcAct} {mutex : Instance.St}
      (hp : s.procs[p]? = some proc) (hpc : proc.pc = .claiming again)
      (hmutex : Instance.step name s.mutex (p, call) = some mutex) :
      LaunchStep parse name s (.claim p call) { s with mutex }
  | moves {a : LaunchAct} {p : Nat} {proc : Process} {pc : LaunchPc} {mutex : Instance.St}
      (hp : s.procs[p]? = some proc) (hmoves : Moves name s p proc pc mutex) :
      LaunchStep parse name s a ({ s with mutex }.goto p proc pc)
  | relaunches {p : Nat} {proc : Process} {o : PrepareCalls} {granted elevated : Bool} {code : Int}
      {relaunch : Relaunch} {t : LaunchSt} (hp : s.procs[p]? = some proc)
      (hpc : proc.pc = .preparing)
      (hrelaunch : Relaunches proc relaunch) (htoken : relaunch = .detached →
        elevated = proc.elevated)
      (h : (s.goto p proc (.returned (.ok code))).start parse name
        (relaunch.args proc.args) elevated
        proc.launch proc.given = some t) : LaunchStep parse name s (.prepare p o granted) t

/-- How `prepare_default_launch` ends. -/
theorem prepareDefaultLaunch_cases (o : PrepareCalls) (isElevated internalElevatedRelaunch : Bool) :
    (prepareDefaultLaunch o isElevated internalElevatedRelaunch = (.ok .bootstrap, none) ∧
      isElevated = true) ∨
      (∃ result, result ≠ .ok .bootstrap ∧
        prepareDefaultLaunch o isElevated internalElevatedRelaunch = (result, none)) ∨
      (prepareDefaultLaunch o isElevated internalElevatedRelaunch =
        (.ok (.exit 0), some .elevated) ∧
        isElevated = false ∧ internalElevatedRelaunch = false) := by
  unfold prepareDefaultLaunch
  cases o.isProcessElevated with
  | error error => exact .inr (.inl ⟨_, by simp, rfl⟩)
  | ok u =>
    cases internalElevatedRelaunch <;> cases isElevated
    · cases o.relaunchSelfElevated with
      | error error => exact .inr (.inl ⟨_, by simp, rfl⟩)
      | ok result =>
        cases result with
        | launched => exact .inr (.inr ⟨rfl, rfl, rfl⟩)
        | cancelled => exact .inr (.inl ⟨_, by simp, rfl⟩)
    · exact .inl ⟨rfl, rfl⟩
    · exact .inr (.inl ⟨_, by simp, rfl⟩)
    · exact .inl ⟨rfl, rfl⟩

/-- How `prepare_runtime_console_launch` ends. -/
theorem prepareRuntimeConsoleLaunch_cases (o : PrepareCalls) (internalDetachedRuntime : Bool) :
    prepareRuntimeConsoleLaunch o internalDetachedRuntime = (.ok .bootstrap, none) ∨
      (∃ message, prepareRuntimeConsoleLaunch o internalDetachedRuntime = (.error message, none)) ∨
      (prepareRuntimeConsoleLaunch o internalDetachedRuntime = (.ok (.exit 0), some .detached) ∧
        internalDetachedRuntime = false) := by
  unfold prepareRuntimeConsoleLaunch
  cases o.consoleLaunchContext with
  | error error => exact .inr (.inl ⟨_, rfl⟩)
  | ok context =>
    cases context with
    | none => exact .inl rfl
    | owned =>
      cases o.hideAndFreeConsole with
      | error error => exact .inr (.inl ⟨_, rfl⟩)
      | ok u => exact .inl rfl
    | inherited =>
      cases internalDetachedRuntime with
      | true => exact .inl rfl
      | false =>
        cases o.relaunchSelfDetached with
        | error error => exact .inr (.inl ⟨_, rfl⟩)
        | ok u => exact .inr (.inr ⟨rfl, rfl⟩)

theorem afterClaim_moves {again : Bool} (hpc : proc.pc = .claiming again)
    (h : s.afterClaim name p proc again = some t) :
    ∃ pc mutex, Moves name s p proc pc mutex ∧ t = { s with mutex }.goto p proc pc := by
  unfold LaunchSt.afterClaim at h
  split at h
  · rename_i hprimary
    split at h
    · obtain ⟨mutex, hmutex, rfl⟩ := Option.map_eq_some_iff.1 h
      exact ⟨_, mutex, .leaves rfl (.inr ⟨_, hmutex⟩), rfl⟩
    · obtain ⟨mutex, hmutex, rfl⟩ := Option.map_eq_some_iff.1 h
      exact ⟨_, mutex, .leaves rfl (.inr ⟨_, hmutex⟩), rfl⟩
    · cases h
    · rename_i hstatus hautostart hlog
      cases h
      refine ⟨_, s.mutex, .wins hpc hprimary ?_, rfl⟩
      cases haction : proc.cli.requestedAction with
      | default | block | allow | hide => rfl
      | status => exact (hstatus haction).elim
      | autostart enabled => exact (hautostart enabled haction).elim
      | log tail => exact (hlog tail haction).elim
  · split at h
    · cases h
      exact ⟨_, s.mutex, .leaves rfl (.inl rfl), rfl⟩
    · split at h
      · cases h
        exact ⟨_, s.mutex, .leaves rfl (.inl rfl), rfl⟩
      · obtain ⟨request, -, rfl⟩ := Option.map_eq_some_iff.1 h
        exact ⟨_, s.mutex, .forwards hpc, rfl⟩
  · cases h
    exact ⟨_, s.mutex, .leaves rfl (.inl rfl), rfl⟩
  · cases h

/-- Only a process that may do so gets through to the bootstrap, or starts another process. -/
theorem prepareLaunch_cases (o : PrepareCalls) (proc : Process) :
    (prepareLaunch o proc = (.ok .bootstrap, none) ∧
        (proc.cli.requestedAction = .default → proc.elevated = true)) ∨
      (∃ result, result ≠ .ok .bootstrap ∧ prepareLaunch o proc = (result, none)) ∨
      ∃ relaunch, prepareLaunch o proc = (.ok (.exit 0), some relaunch) ∧
        Relaunches proc relaunch := by
  have hconsole : ∀ htoken : proc.cli.requestedAction = .default → proc.elevated = true,
      prepareLaunch o proc = prepareRuntimeConsoleLaunch o proc.cli.detachedRuntime →
      (prepareLaunch o proc = (.ok .bootstrap, none) ∧
          (proc.cli.requestedAction = .default → proc.elevated = true)) ∨
        (∃ result, result ≠ .ok .bootstrap ∧ prepareLaunch o proc = (result, none)) ∨
        ∃ relaunch, prepareLaunch o proc = (.ok (.exit 0), some relaunch) ∧
          Relaunches proc relaunch := by
    intro htoken hprepare
    rcases prepareRuntimeConsoleLaunch_cases o proc.cli.detachedRuntime with
      hboot | ⟨message, hfail⟩ | ⟨hexit, hflag⟩
    · exact .inl ⟨hprepare.trans hboot, htoken⟩
    · exact .inr (.inl ⟨_, by simp, hprepare.trans hfail⟩)
    · exact .inr (.inr ⟨.detached, hprepare.trans hexit, .detached hflag htoken⟩)
  by_cases haction : proc.cli.requestedAction = .default
  · rcases prepareDefaultLaunch_cases o proc.elevated proc.cli.elevatedRelaunch with
      ⟨hboot, htoken⟩ | ⟨result, hne, hresult⟩ | ⟨hexit, htoken, hflag⟩
    · exact hconsole (fun _ => htoken) (by simp only [prepareLaunch, haction, hboot])
    · refine .inr (.inl ⟨result, hne, ?_⟩)
      simp only [prepareLaunch, haction, hresult]
    · refine .inr (.inr ⟨.elevated, ?_, .elevated haction hflag htoken⟩)
      simp only [prepareLaunch, haction, hexit]
  · refine hconsole (fun h => absurd h haction) ?_
    unfold prepareLaunch
    cases hcases : proc.cli.requestedAction with
    | default => exact absurd hcases haction
    | block | allow | status | hide | autostart | log => rfl

theorem prepare_cases {o : PrepareCalls} {granted : Bool} (hpc : proc.pc = .preparing)
    (h : s.prepare parse name p proc o granted = some t) :
    (∃ pc, Moves name s p proc pc s.mutex ∧ t = s.goto p proc pc) ∨
      ∃ relaunch code elevated, Relaunches proc relaunch ∧
        (relaunch = .detached → elevated = proc.elevated) ∧
        (s.goto p proc (.returned (.ok code))).start parse name (relaunch.args proc.args) elevated
          proc.launch proc.given = some t := by
  unfold LaunchSt.prepare at h
  rcases prepareLaunch_cases o proc with ⟨hboot, htoken⟩ | ⟨result, hne, hresult⟩
    | ⟨relaunch, hexit, hrelaunch⟩
  · rw [hboot] at h
    cases hbootstrap : o.bootstrap with
    | error message =>
      simp only [hbootstrap] at h
      cases h
      exact .inl ⟨_, .leaves rfl (.inl rfl), rfl⟩
    | ok u =>
      simp only [hbootstrap] at h
      obtain ⟨options, hoptions, rfl⟩ := Option.map_eq_some_iff.1 h
      exact .inl ⟨_, .runs hpc hoptions htoken, rfl⟩
  · rw [hresult] at h
    cases result with
    | error message =>
      cases h
      exact .inl ⟨_, .leaves rfl (.inl rfl), rfl⟩
    | ok disposition =>
      cases disposition with
      | bootstrap => exact absurd rfl hne
      | exit code =>
        cases h
        exact .inl ⟨_, .leaves rfl (.inl rfl), rfl⟩
  · rw [hexit] at h
    refine .inr ⟨relaunch, 0, _, hrelaunch, ?_, h⟩
    rintro rfl
    rfl

theorem launchStep_cases {a : LaunchAct} (h : launchStep parse name s a = some t) :
    LaunchStep parse name s a t := by
  cases a with
  | user args elevated => exact .launches h
  | claim p call =>
    simp only [launchStep] at h
    split at h
    · rename_i hp
      split at h
      · obtain ⟨mutex, hmutex, rfl⟩ := Option.map_eq_some_iff.1 h
        exact .calls hp rfl hmutex
      · cases h
    · cases h
  | claimed p =>
    simp only [launchStep] at h
    split at h
    · rename_i proc hp
      split at h
      · rename_i hpc
        obtain ⟨pc, mutex, hmoves, rfl⟩ := afterClaim_moves hpc h
        exact .moves hp hmoves
      · cases h
    · cases h
  | answered p result =>
    simp only [launchStep] at h
    split at h
    · rename_i proc hp
      split at h
      · rename_i hpc
        split at h
        · cases h
          exact .moves hp (.leaves rfl (.inl rfl))
        · obtain ⟨mutex, hmutex, rfl⟩ := Option.map_eq_some_iff.1 h
          exact .moves hp (.claimsAgain hpc hmutex)
        · cases h
      · cases h
    · cases h
  | prepare p o granted =>
    simp only [launchStep] at h
    split at h
    · rename_i proc hp
      split at h
      · rename_i hpc
        rcases prepare_cases hpc h with
          ⟨pc, hmoves, rfl⟩ | ⟨relaunch, code, elevated, hrelaunch, htoken, hstart⟩
        · exact .moves hp hmoves
        · exact .relaunches hp hpc hrelaunch htoken hstart
      · cases h
    · cases h
  | finish p result =>
    simp only [launchStep] at h
    split at h
    · rename_i proc hp
      split at h
      · cases h
        exact .moves hp (.leaves rfl (.inl rfl))
      · cases h
        exact .moves hp (.leaves rfl (.inl rfl))
      · cases h
        exact .moves hp (.leaves rfl (.inl rfl))
      · cases h
        exact .moves hp (.leaves rfl (.inl rfl))
      · cases h
    · cases h
  | exit p =>
    simp only [launchStep] at h
    split at h
    · rename_i proc hp
      split at h
      · cases h
      · obtain ⟨mutex, hmutex, rfl⟩ := Option.map_eq_some_iff.1 h
        exact .moves hp (.leaves rfl (.inr ⟨_, hmutex⟩))
    · cases h

/-! ## New processes -/

/-- A process that has just been started. -/
inductive Fresh (parse : Parser) (args : List String) (elevated : Bool) (launch : Nat)
    (given : List String) : Process → Prop
  | rejected {code : Int} (hparse : parse args = .error code) :
      Fresh parse args elevated launch given
        { args, cli := {}, elevated, pc := .returned (.ok code), launch, given }
  | reads {cli : WardoffCli} (hparse : parse args = .ok cli) :
      Fresh parse args elevated launch given
        { args, cli, elevated, pc := .readingLog, launch, given }
  | claims {cli : WardoffCli} (hparse : parse args = .ok cli) :
      Fresh parse args elevated launch given
        { args, cli, elevated, pc := .claiming false, launch, given }

theorem Fresh.launch_eq {args given : List String} {elevated : Bool} {launch : Nat}
    (h : Fresh parse args elevated launch given proc) : proc.launch = launch := by
  cases h <;> rfl

theorem start_cases {args given : List String} {elevated : Bool} {launch : Nat}
    (h : s.start parse name args elevated launch given = some t) :
    ∃ proc mutex, Fresh parse args elevated launch given proc ∧
      t = { s with mutex, procs := s.procs ++ [proc] } ∧
      (mutex = s.mutex ∨ ∃ call, Instance.step name s.mutex (s.procs.length, call) =
        some mutex) := by
  unfold LaunchSt.start at h
  split at h
  · rename_i code hparse
    cases h
    exact ⟨_, s.mutex, .rejected hparse, rfl, .inl rfl⟩
  · rename_i cli hparse
    dsimp only at h
    split at h
    · cases h
      exact ⟨_, s.mutex, .reads hparse, rfl, .inl rfl⟩
    · obtain ⟨mutex, hmutex, rfl⟩ := Option.map_eq_some_iff.1 h
      exact ⟨_, mutex, .claims hparse, rfl, .inr ⟨_, hmutex⟩⟩

end Launch

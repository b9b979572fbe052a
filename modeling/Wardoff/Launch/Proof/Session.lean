import Mathlib.Algebra.Ring.Nat
import Wardoff.Launch.Proof.System

/-!
# Any number of launches in one session

* `one_runtime`: at most one process is the runtime, and it holds the mutex.
* `runtime_as_requested`: a runtime has the options that its launch asks for, and a default one is
  elevated.
* `relaunch_understood`: a process that Wardoff starts itself asks for the same as the one it stands
  in for.
* `processes_bounded`: Wardoff starts at most two processes for each launch.
-/

namespace Launch

open Machine

variable {parse : Parser} {name : String} {s t : LaunchSt} {p q : Nat} {proc : Process}

/-! ## The table of processes -/

/-- Where one process moves, the others are as they were. -/
theorem goto_cases {mutex : Instance.St} {pc : LaunchPc} {proc' : Process}
    (h : ({ s with mutex }.goto p proc pc).procs[q]? = some proc') :
    (q = p ∧ proc' = { proc with pc }) ∨ (q ≠ p ∧ s.procs[q]? = some proc') := by
  change (s.procs.set p _)[q]? = some proc' at h
  by_cases heq : q = p
  · subst heq
    rw [List.getElem?_set_self'] at h
    obtain ⟨old, -, rfl⟩ := Option.map_eq_some_iff.1 h
    exact .inl ⟨rfl, rfl⟩
  · rw [List.getElem?_set_ne (fun h => heq h.symm)] at h
    exact .inr ⟨heq, h⟩

/-- A new process comes last. -/
theorem append_cases {procs : List Process} {new proc' : Process}
    (h : (procs ++ [new])[q]? = some proc') :
    (q < procs.length ∧ procs[q]? = some proc') ∨ (q = procs.length ∧ proc' = new) := by
  by_cases hlt : q < procs.length
  · rw [List.getElem?_append_left hlt] at h
    exact .inl ⟨hlt, h⟩
  · obtain ⟨hq, -⟩ := List.getElem?_eq_some_iff.1 h
    obtain rfl : q = procs.length := by
      rw [List.length_append, List.length_singleton] at hq
      omega
    rw [List.getElem?_append_right (Nat.le_refl _)] at h
    exact .inr ⟨rfl, by simpa using h.symm⟩

/-! ## The mutex -/

/-- A call of the process `p` does not change what another process is doing. -/
theorem mutex_of_ne {m m' : Instance.St} {call : Instance.ProcAct}
    (h : Instance.step name m (p, call) = some m') (hq : q ≠ p) : m'.procs q = m.procs q := by
  cases Instance.step_cases h <;>
    simp only [Instance.St.goto, Instance.St.opened, Function.update_of_ne hq]

/-- The process needs the mutex. -/
def LaunchPc.owns : LaunchPc → Bool
  | .preparing => true
  | .running _ => true
  | _ => false

theorem LaunchPc.owns_of_left {pc : LaunchPc} (h : pc.left = true) : pc.owns = false := by
  cases pc <;> first | rfl | cases h

/-- The mutex is sound, and the processes that need it have it. -/
structure Owned (s : LaunchSt) : Prop where
  held : Instance.Held s.mutex
  owns : ∀ p proc, s.procs[p]? = some proc → proc.pc.owns = true → s.mutex.procs p = .primary

theorem owned_init : Owned {} where
  held := Instance.held_init
  owns := by
    intro p proc hp
    simp at hp

theorem held_of_call {m m' : Instance.St} (hs : Instance.Held m)
    (h : m' = m ∨ ∃ call, Instance.step name m (p, call) = some m') : Instance.Held m' := by
  rcases h with rfl | ⟨call, hcall⟩
  · exact hs
  · exact hs.step hcall

theorem procs_of_call {m m' : Instance.St}
    (h : m' = m ∨ ∃ call, Instance.step name m (p, call) = some m') (hq : q ≠ p) :
    m'.procs q = m.procs q := by
  rcases h with rfl | ⟨call, hcall⟩
  · rfl
  · exact mutex_of_ne hcall hq

/-- One process moves. -/
theorem Owned.goto (hs : Owned s) {mutex : Instance.St} {pc : LaunchPc}
    (hmutex : mutex = s.mutex ∨ ∃ call, Instance.step name s.mutex (p, call) = some mutex)
    (hpc : pc.owns = true → mutex.procs p = .primary) :
    Owned ({ s with mutex }.goto p proc pc) where
  held := held_of_call hs.held hmutex
  owns := by
    intro q proc' hq howns
    rcases goto_cases hq with ⟨rfl, rfl⟩ | ⟨hne, hq⟩
    · exact hpc howns
    · exact (procs_of_call hmutex hne).trans (hs.owns q proc' hq howns)

theorem Owned.start (hs : Owned s) {args given : List String} {elevated : Bool} {launch : Nat}
    (h : s.start parse name args elevated launch given = some t) : Owned t := by
  obtain ⟨proc, mutex, hfresh, rfl, hmutex⟩ := start_cases h
  refine ⟨held_of_call hs.held hmutex, fun q proc' hq howns => ?_⟩
  rcases append_cases hq with ⟨hlt, hq⟩ | ⟨-, rfl⟩
  · exact (procs_of_call hmutex (by omega)).trans (hs.owns q proc' hq howns)
  · cases hfresh <;> cases howns

theorem Moves.mutex {pc : LaunchPc} {mutex : Instance.St} (h : Moves name s p proc pc mutex) :
    mutex = s.mutex ∨ ∃ call, Instance.step name s.mutex (p, call) = some mutex := by
  cases h with
  | wins | forwards | runs => exact .inl rfl
  | claimsAgain hpc hmutex => exact .inr ⟨_, hmutex⟩
  | leaves hpc hmutex => exact hmutex

theorem Owned.step {a : LaunchAct} (hs : Owned s) (h : launchStep parse name s a = some t) :
    Owned t := by
  cases launchStep_cases h with
  | launches hstart => exact hs.start hstart
  | @calls p proc again call mutex hp hpc hmutex =>
    refine ⟨hs.held.step hmutex, fun q proc' hq howns => ?_⟩
    have hne : q ≠ p := by
      rintro rfl
      cases hp.symm.trans hq
      rw [hpc] at howns
      cases howns
    exact (mutex_of_ne hmutex hne).trans (hs.owns q proc' hq howns)
  | @moves _ p proc pc mutex hp hmoves =>
    refine hs.goto hmoves.mutex fun howns => ?_
    cases hmoves with
    | wins hpc hprimary haction => exact hprimary
    | forwards hpc => cases howns
    | claimsAgain hpc hmutex => cases howns
    | runs hpc hoptions helevated => exact hs.owns p proc hp (by rw [hpc]; rfl)
    | leaves hpc hmutex =>
      rw [LaunchPc.owns_of_left hpc] at howns
      cases howns
  | @relaunches p proc o granted elevated code relaunch _ hp hpc hrelaunch htoken hstart =>
    have hreturned : Owned (s.goto p proc (.returned (.ok code))) :=
      @Owned.goto name s p proc hs s.mutex _ (.inl rfl) fun howns => (by cases howns)
    exact hreturned.start hstart

/-- **One runtime.** However many processes are started, and however their calls interleave, fail
and end, at most one process is the runtime at a time, and it holds the mutex of the session. -/
theorem one_runtime {as : List LaunchAct} (h : exec (launchStep parse name) {} as = some t)
    {proc' : Process} {options options' : Runtime.RuntimeOptions} (hp : t.procs[p]? = some proc)
    (hpc : proc.pc = .running options) (hq : t.procs[q]? = some proc')
    (hqc : proc'.pc = .running options') :
    p = q ∧ t.mutex.procs p = .primary := by
  have howned : Owned t := inv_of_exec (fun _ _ _ hs h => hs.step h) owned_init h
  have hprimary := howned.owns p proc hp (by rw [hpc]; rfl)
  exact ⟨howned.held.unique p q hprimary (howned.owns q proc' hq (by rw [hqc]; rfl)), hprimary⟩

/-! ## Requests -/

/-- What the process `p` is asked for, in the words of a user. -/
structure Sound (parse : Parser) (users : List String → Prop) (p : Nat) (proc : Process) :
    Prop where
  user : users proc.given
  launch : proc.launch ≤ p
  parsed : parse proc.args = .ok proc.cli ∨ (∃ code, parse proc.args = .error code) ∧
    proc.pc.left = true
  same : ∀ cli, parse proc.args = .ok cli →
    ∃ asked, parse proc.given = .ok asked ∧ cli.requestedAction = asked.requestedAction
  understood : "--" ∉ proc.given →
    "--" ∉ proc.args ∧ ∀ asked, parse proc.given = .ok asked → ∃ cli, parse proc.args = .ok cli
  own : proc.launch = p → proc.args = proc.given
  runtime : proc.launch ≠ p →
    ∃ asked, parse proc.given = .ok asked ∧ (runtimeOptionsFor asked.requestedAction).isSome
  preparing : proc.pc = .preparing → (runtimeOptionsFor proc.cli.requestedAction).isSome
  running : ∀ options, proc.pc = .running options →
    runtimeOptionsFor proc.cli.requestedAction = some options ∧
      (proc.cli.requestedAction = .default → proc.elevated = true)

variable {users : List String → Prop}

/-- A process whose arguments were not understood is not on its way anywhere. -/
theorem Sound.parse_eq (hs : Sound parse users p proc) (hpc : proc.pc.left = false) :
    parse proc.args = .ok proc.cli := by
  rcases hs.parsed with hok | ⟨-, hleft⟩
  · exact hok
  · rw [hpc] at hleft
    cases hleft

theorem Sound.moves (hs : Sound parse users p proc) {pc : LaunchPc} {mutex : Instance.St}
    (h : Moves name s p proc pc mutex) : Sound parse users p { proc with pc } := by
  have hparsed : parse proc.args = .ok proc.cli ∨ (∃ code, parse proc.args = .error code) ∧
    pc.left = true := by
    cases h with
    | wins hpc _ _ => exact .inl (hs.parse_eq (by rw [hpc]; rfl))
    | forwards hpc => exact .inl (hs.parse_eq (by rw [hpc]; rfl))
    | claimsAgain hpc _ => exact .inl (hs.parse_eq (by rw [hpc]; rfl))
    | runs hpc _ _ => exact .inl (hs.parse_eq (by rw [hpc]; rfl))
    | leaves hpc _ => exact hs.parsed.imp id fun herror => ⟨herror.1, hpc⟩
  refine ⟨hs.user, hs.launch, hparsed, hs.same, hs.understood, hs.own, hs.runtime,
    fun hpreparing => ?_, fun options hrunning => ?_⟩
  · change pc = .preparing at hpreparing
    subst hpreparing
    cases h with
    | wins hpc hprimary haction => exact haction
    | leaves hpc hmutex => cases hpc
  · change pc = .running options at hrunning
    subst hrunning
    cases h with
    | runs hpc hoptions helevated => exact ⟨hoptions, helevated⟩
    | leaves hpc hmutex => cases hpc

/-- A new process is sound if its arguments say what the user has asked for. -/
theorem Fresh.sound {args given : List String} {elevated : Bool} {launch : Nat}
    (h : Fresh parse args elevated launch given proc) (huser : users given) (hlaunch : launch ≤ p)
    (hsame : ∀ cli, parse args = .ok cli →
      ∃ asked, parse given = .ok asked ∧ cli.requestedAction = asked.requestedAction)
    (hunderstood : "--" ∉ given →
      "--" ∉ args ∧ ∀ asked, parse given = .ok asked → ∃ cli, parse args = .ok cli)
    (hown : launch = p → args = given)
    (hruntime : launch ≠ p →
      ∃ asked, parse given = .ok asked ∧ (runtimeOptionsFor asked.requestedAction).isSome) :
    Sound parse users p proc := by
  cases h with
  | rejected hparse =>
    exact ⟨huser, hlaunch, .inr ⟨⟨_, hparse⟩, rfl⟩, hsame, hunderstood, hown, hruntime,
      fun h => (by cases h), fun _ h => (by cases h)⟩
  | reads hparse =>
    exact ⟨huser, hlaunch, .inl hparse, hsame, hunderstood, hown, hruntime,
      fun h => (by cases h), fun _ h => (by cases h)⟩
  | claims hparse =>
    exact ⟨huser, hlaunch, .inl hparse, hsame, hunderstood, hown, hruntime,
      fun h => (by cases h), fun _ h => (by cases h)⟩

theorem Sound.relaunched (hlaws : LawfulParser parse) (hs : Sound parse users p proc)
    (hpc : proc.pc = .preparing) {relaunch : Relaunch} (hrelaunch : Relaunches proc relaunch)
    {elevated : Bool} {new : Process} (hlater : p < q)
    (hfresh : Fresh parse (relaunch.args proc.args) elevated proc.launch proc.given new) :
    Sound parse users q new := by
  have hparse := hs.parse_eq (by rw [hpc]; rfl)
  obtain ⟨asked, hasked, haction⟩ := hs.same proc.cli hparse
  have hruntime : (runtimeOptionsFor asked.requestedAction).isSome := haction ▸ hs.preparing hpc
  have hearlier : proc.launch < q := Nat.lt_of_le_of_lt hs.launch hlater
  refine hfresh.sound hs.user (Nat.le_of_lt hearlier) (fun cli hcli => ⟨asked, hasked, ?_⟩)
    (fun hgiven => ?_)
    (fun hlaunch => absurd hlaunch (Nat.ne_of_lt hearlier)) (fun _ => ⟨asked, hasked, hruntime⟩)
  · cases hrelaunch with
    | elevated hdefault hflag htoken =>
      cases hcli.symm.trans hlaws.relaunched
      rw [← haction, hdefault]
      rfl
    | detached hflag htoken =>
      have hnew : internalDetachedRuntimeArg ∉ proc.args := by
        intro hmem
        rw [(hlaws.detached hparse).2 hmem] at hflag
        cases hflag
      simp only [Relaunch.args, detachedArgs, if_neg hnew] at hcli
      by_cases hescape : "--" ∈ proc.args
      · obtain ⟨code, herror⟩ := hlaws.escaped hescape
        cases hcli.symm.trans herror
      · cases hcli.symm.trans (hlaws.append hparse hnew hescape)
        exact haction
  · obtain ⟨hargs, -⟩ := hs.understood hgiven
    cases hrelaunch with
    | elevated hdefault hflag htoken =>
      have hescape : "--" ∉ [internalElevatedRelaunchArg] := by decide
      exact ⟨hescape, fun _ _ => ⟨_, hlaws.relaunched⟩⟩
    | detached hflag htoken =>
      have hnew : internalDetachedRuntimeArg ∉ proc.args := by
        intro hmem
        rw [(hlaws.detached hparse).2 hmem] at hflag
        cases hflag
      have hescape : "--" ∉ [internalDetachedRuntimeArg] := by decide
      simp only [Relaunch.args, detachedArgs, if_neg hnew, List.mem_append, not_or]
      exact ⟨⟨hargs, hescape⟩, fun _ _ => ⟨_, hlaws.append hparse hnew hargs⟩⟩

def AllSound (parse : Parser) (users : List String → Prop) (s : LaunchSt) : Prop :=
  ∀ p proc, s.procs[p]? = some proc → Sound parse users p proc

theorem AllSound.goto (hs : AllSound parse users s) {pc : LaunchPc} {mutex : Instance.St}
    (hproc : Sound parse users p { proc with pc }) :
    AllSound parse users ({ s with mutex }.goto p proc pc) := by
  intro q proc' hq
  rcases goto_cases hq with ⟨rfl, rfl⟩ | ⟨-, hq⟩
  · exact hproc
  · exact hs q proc' hq

theorem AllSound.start (hs : AllSound parse users s) {mutex : Instance.St}
    (hproc : Sound parse users s.procs.length proc) :
    AllSound parse users { s with mutex, procs := s.procs ++ [proc] } := by
  intro q proc' hq
  rcases append_cases hq with ⟨-, hq⟩ | ⟨rfl, rfl⟩
  · exact hs q proc' hq
  · exact hproc

theorem AllSound.step (hlaws : LawfulParser parse) {a : LaunchAct} (hs : AllSound parse users s)
    (huser : ∀ args elevated, a = .user args elevated → users args)
    (h : launchStep parse name s a = some t) : AllSound parse users t := by
  cases launchStep_cases h with
  | @launches args elevated _ hstart =>
    obtain ⟨proc, mutex, hfresh, rfl, -⟩ := start_cases hstart
    exact hs.start (hfresh.sound (huser args elevated rfl) (Nat.le_refl _)
      (fun cli hcli => ⟨cli, hcli, rfl⟩)
      (fun hgiven => ⟨hgiven, fun asked hasked => ⟨asked, hasked⟩⟩) (fun _ => rfl)
      (fun hne => absurd rfl hne))
  | calls hp hpc hmutex => exact hs
  | moves hp hmoves => exact hs.goto ((hs _ _ hp).moves hmoves)
  | @relaunches p proc o granted elevated code relaunch _ hp hpc hrelaunch htoken hstart =>
    have hproc := hs p proc hp
    obtain ⟨new, mutex, hfresh, rfl, -⟩ := start_cases hstart
    have hreturned : AllSound parse users (s.goto p proc (.returned (.ok code))) :=
      hs.goto (hproc.moves
        (@Moves.leaves name s p proc (.returned (.ok code)) s.mutex rfl (.inl rfl)))
    have hlater : p < (s.goto p proc (.returned (.ok code))).procs.length := by
      simp only [LaunchSt.goto, List.length_set]
      exact (List.getElem?_eq_some_iff.1 hp).1
    exact hreturned.start (hproc.relaunched hlaws hpc hrelaunch hlater hfresh)

/-- Someone has started Wardoff with these arguments. -/
def Launched (as : List LaunchAct) (args : List String) : Prop :=
  ∃ elevated, .user args elevated ∈ as

theorem allSound_of_exec (hlaws : LawfulParser parse) {as : List LaunchAct}
    (h : exec (launchStep parse name) {} as = some t) : AllSound parse (Launched as) t := by
  have hinit : AllSound parse (Launched as) {} := by
    intro p proc hp
    simp at hp
  have husers : Along (launchStep parse name)
      (fun _ a => ∀ args elevated, a = .user args elevated → Launched as args) {} as :=
    along_of_mem fun a ha _ args elevated heq => ⟨elevated, heq ▸ ha⟩
  exact inv_of_along (fun _ _ _ hs huser h => hs.step hlaws huser h) hinit husers h

/-- **A runtime is what a user has asked for.** In every run, every runtime stems from a launch, has
the options that the arguments of this launch ask for, whatever relaunches lie between the two, and
is elevated if they ask for nothing. -/
theorem runtime_as_requested (hlaws : LawfulParser parse) {as : List LaunchAct}
    (h : exec (launchStep parse name) {} as = some t) {options : Runtime.RuntimeOptions}
    (hproc : proc ∈ t.procs) (hpc : proc.pc = .running options) :
    ∃ elevated asked, .user proc.given elevated ∈ as ∧ parse proc.given = .ok asked ∧
      runtimeOptionsFor asked.requestedAction = some options ∧
      (asked.requestedAction = .default → proc.elevated = true) := by
  obtain ⟨p, hp⟩ := List.mem_iff_getElem?.1 hproc
  have hsound := allSound_of_exec hlaws h p proc hp
  obtain ⟨elevated, hmem⟩ := hsound.user
  obtain ⟨asked, hasked, haction⟩ := hsound.same proc.cli (hsound.parse_eq (by rw [hpc]; rfl))
  obtain ⟨hoptions, helevated⟩ := hsound.running options hpc
  rw [haction] at hoptions helevated
  exact ⟨elevated, asked, hmem, hasked, hoptions, helevated⟩

/-- **Relaunches are understood.** A launch that is understood, and does not escape its arguments
with `--`, leads only to processes that are understood and ask for the same action. A process is the
one that was launched, with the arguments of the launch, or it was started in place of another one,
and then the launch asks for a runtime. -/
theorem relaunch_understood (hlaws : LawfulParser parse) {as : List LaunchAct}
    (h : exec (launchStep parse name) {} as = some t) (hp : t.procs[p]? = some proc)
    (hescape : "--" ∉ proc.given) {asked : WardoffCli} (hasked : parse proc.given = .ok asked) :
    (∃ elevated, .user proc.given elevated ∈ as) ∧
      (∃ cli, parse proc.args = .ok cli ∧ cli.requestedAction = asked.requestedAction) ∧
      (proc.launch = p → proc.args = proc.given) ∧
      (proc.launch ≠ p → (runtimeOptionsFor asked.requestedAction).isSome) := by
  have hsound := allSound_of_exec hlaws h p proc hp
  obtain ⟨cli, hcli⟩ := (hsound.understood hescape).2 asked hasked
  obtain ⟨asked', hasked', haction⟩ := hsound.same cli hcli
  cases hasked.symm.trans hasked'
  refine ⟨hsound.user, ⟨cli, hcli, haction⟩, hsound.own, fun hne => ?_⟩
  obtain ⟨asked', hasked', hruntime⟩ := hsound.runtime hne
  cases hasked.symm.trans hasked'
  exact hruntime

/-! ## How many processes -/

/-- How many processes may still stem from this one. -/
def Process.fuel (proc : Process) : Nat :=
  if proc.pc.left then 0
  else if proc.cli.requestedAction = .default ∧ proc.cli.elevatedRelaunch = false ∧
    proc.elevated = false then 2
  else if proc.cli.detachedRuntime then 0 else 1

theorem Process.fuel_of_left {proc : Process} (h : proc.pc.left = true) : proc.fuel = 0 := by
  simp [Process.fuel, h]

theorem Process.fuel_le (proc : Process) : proc.fuel ≤ 2 := by
  unfold Process.fuel
  split_ifs <;> omega

/-- A process gains nothing by going on. -/
theorem Moves.fuel_le {pc : LaunchPc} {mutex : Instance.St} (h : Moves name s p proc pc mutex) :
    Process.fuel { proc with pc } ≤ proc.fuel := by
  cases h with
  | wins hpc _ _ => simp [Process.fuel, hpc, LaunchPc.left]
  | forwards hpc => simp [Process.fuel, hpc, LaunchPc.left]
  | claimsAgain hpc _ => simp [Process.fuel, hpc, LaunchPc.left]
  | runs hpc _ _ => simp [Process.fuel, hpc, LaunchPc.left]
  | leaves hpc _ =>
    rw [Process.fuel_of_left hpc]
    exact Nat.zero_le _

/-- A process that is started in place of another one has less to start itself. -/
theorem Sound.fuel_lt (hlaws : LawfulParser parse) (hs : Sound parse users p proc)
    (hpc : proc.pc = .preparing) {relaunch : Relaunch} (hrelaunch : Relaunches proc relaunch)
    {elevated : Bool} {new : Process} (htoken : relaunch = .detached → elevated = proc.elevated)
    (hfresh : Fresh parse (relaunch.args proc.args) elevated proc.launch proc.given new) :
    new.fuel < proc.fuel := by
  have hparse := hs.parse_eq (by rw [hpc]; rfl)
  cases hrelaunch with
  | elevated haction hflag helevated =>
    have hold : proc.fuel = 2 := by
      simp [Process.fuel, hpc, LaunchPc.left, haction, hflag, helevated]
    rw [hold]
    cases hfresh with
    | rejected hrejected =>
      rw [Process.fuel_of_left rfl]
      omega
    | reads hreads =>
      rw [Process.fuel_of_left rfl]
      omega
    | claims hclaims =>
      cases hclaims.symm.trans hlaws.relaunched
      simp [Process.fuel, LaunchPc.left]
  | detached hflag helevated =>
    have hold : 0 < proc.fuel := by
      unfold Process.fuel
      rw [hpc, hflag]
      split_ifs <;> simp_all [LaunchPc.left]
    suffices hnew : new.fuel = 0 by omega
    cases hfresh with
    | rejected hrejected => exact Process.fuel_of_left rfl
    | reads hreads => exact Process.fuel_of_left rfl
    | claims hclaims =>
      obtain rfl := htoken rfl
      have hnotIn : internalDetachedRuntimeArg ∉ proc.args := by
        intro hmem
        rw [(hlaws.detached hparse).2 hmem] at hflag
        cases hflag
      simp only [Relaunch.args, detachedArgs, if_neg hnotIn] at hclaims
      by_cases hescape : "--" ∈ proc.args
      · obtain ⟨code, herror⟩ := hlaws.escaped hescape
        cases hclaims.symm.trans herror
      · cases hclaims.symm.trans (hlaws.append hparse hnotIn hescape)
        have hnot : ¬ (proc.cli.requestedAction = .default ∧ proc.cli.elevatedRelaunch = false ∧
            proc.elevated = false) := by
          rintro ⟨haction, -, htoken⟩
          rw [helevated haction] at htoken
          cases htoken
        exact (if_neg (by simp [LaunchPc.left])).trans ((if_neg hnot).trans (if_pos rfl))

/-- A process, and those that may still stem from it, if its launch is one of `mine`. -/
def Process.share (mine : Nat → Bool) (proc : Process) : Nat :=
  if mine proc.launch then 1 + proc.fuel else 0

/-- The processes that stem from the launches `mine`, and those that may still be started in place
of them. -/
def LaunchSt.weight (mine : Nat → Bool) (s : LaunchSt) : Nat :=
  (s.procs.map (Process.share mine)).sum

theorem sum_map_set {α : Type} (f : α → Nat) (y : α) {l : List α} {i : Nat} {x : α}
    (h : l[i]? = some x) :
    ((l.set i y).map f).sum + f x = (l.map f).sum + f y := by
  induction l generalizing i with
  | nil => simp at h
  | cons z l ih =>
    cases i with
    | zero =>
      obtain rfl : z = x := by simpa using h
      simp
      omega
    | succ i =>
      have hrest := ih (i := i) (by simpa using h)
      simp only [List.set_cons_succ, List.map_cons, List.sum_cons]
      omega

variable {mine : Nat → Bool}

theorem weight_goto {pc : LaunchPc} {mutex : Instance.St} (hp : s.procs[p]? = some proc) :
    ({ s with mutex }.goto p proc pc).weight mine + proc.share mine =
      s.weight mine + Process.share mine { proc with pc } :=
  sum_map_set (Process.share mine) { proc with pc } hp

theorem weight_append {mutex : Instance.St} (proc : Process) :
    ({ s with mutex, procs := s.procs ++ [proc] } : LaunchSt).weight mine =
      s.weight mine + proc.share mine := by
  simp [LaunchSt.weight]

/-- Every process counts for itself. -/
theorem countP_le_weight (mine : Nat → Bool) (s : LaunchSt) :
    s.procs.countP (fun proc => mine proc.launch) ≤ s.weight mine := by
  unfold LaunchSt.weight
  induction s.procs with
  | nil => exact Nat.le_refl 0
  | cons proc procs ih =>
    rw [List.countP_cons, List.map_cons, List.sum_cons, Process.share]
    split_ifs <;> omega

def LaunchAct.isUser : LaunchAct → Bool
  | .user _ _ => true
  | _ => false

/-- Only a user's launch adds to the weight, and only to that of its own launch; the table of
processes does not shrink. -/
theorem weight_step (mine : Nat → Bool) (hlaws : LawfulParser parse) {a : LaunchAct}
    (hs : AllSound parse users s) (h : launchStep parse name s a = some t) :
    (t.weight mine ≤ s.weight mine ∧ s.procs.length ≤ t.procs.length) ∨
      (a.isUser = true ∧ t.procs.length = s.procs.length + 1 ∧
        t.weight mine ≤ s.weight mine + if mine s.procs.length then 3 else 0) := by
  cases launchStep_cases h with
  | launches hstart =>
    obtain ⟨proc, mutex, hfresh, rfl, -⟩ := start_cases hstart
    have hfuel := proc.fuel_le
    refine .inr ⟨rfl, by simp, ?_⟩
    rw [weight_append, Process.share, hfresh.launch_eq]
    split_ifs <;> omega
  | calls hp hpc hmutex => exact .inl ⟨Nat.le_refl _, Nat.le_refl _⟩
  | @moves _ p proc pc mutex hp hmoves =>
    have hweight := @weight_goto s p proc mine pc mutex hp
    have hfuel := hmoves.fuel_le
    refine .inl ⟨?_, by simp [LaunchSt.goto]⟩
    simp only [Process.share] at hweight
    split_ifs at hweight <;> omega
  | @relaunches p proc o granted elevated code relaunch _ hp hpc hrelaunch htoken hstart =>
    obtain ⟨new, mutex, hfresh, rfl, -⟩ := start_cases hstart
    have hless := (hs p proc hp).fuel_lt hlaws hpc hrelaunch htoken hfresh
    have hweight := @weight_goto s p proc mine (.returned (.ok code)) s.mutex hp
    have hleft : Process.fuel { proc with pc := .returned (.ok code) } = 0 :=
      Process.fuel_of_left rfl
    refine .inl ⟨?_, by simp [LaunchSt.goto]⟩
    change ({ s.goto p proc (.returned (.ok code)) with
      mutex, procs := (s.goto p proc (.returned (.ok code))).procs ++ [new] } :
        LaunchSt).weight mine ≤ _
    rw [weight_append]
    change (s.goto p proc (.returned (.ok code))).weight mine + _ = _ at hweight
    simp only [Process.share, hfresh.launch_eq, hleft] at hweight ⊢
    split_ifs at hweight ⊢ <;> omega

/-- **No relaunch loops.** Each launch leads to at most three processes: the one that was launched,
an elevated one, and one without a console. -/
theorem processes_bounded (hlaws : LawfulParser parse) {as : List LaunchAct}
    (h : exec (launchStep parse name) {} as = some t) :
    (∀ launch, t.procs.countP (fun proc => proc.launch == launch) ≤ 3) ∧
      t.procs.length ≤ 3 * as.countP LaunchAct.isUser := by
  have hsound : Along (launchStep parse name) (fun s _ => AllSound parse (fun _ => True) s)
    {} as := by
    refine Along.imp (P := fun _ _ => True) (I := AllSound parse fun _ => True)
      (fun s a t hs _ h => hs.step hlaws (fun _ _ _ => trivial) h) (fun _ _ hs _ => hs) ?_
      (along_of_mem fun _ _ _ => trivial)
    intro p proc hp
    simp at hp
  constructor
  · intro launch
    have hweight : t.weight (· == launch) ≤ if launch < t.procs.length then 3 else 0 := by
      refine inv_of_along (I := fun s : LaunchSt => s.weight (· == launch) ≤
        if launch < s.procs.length then 3 else 0) (fun s a t hle hs h => ?_)
          (Nat.zero_le _) hsound h
      rcases weight_step (· == launch) hlaws hs h with ⟨hw, hl⟩ | ⟨-, hl, hw⟩
      · split_ifs at hle ⊢ <;> omega
      · -- the launch is new, or it is another one
        simp only [beq_iff_eq] at hw
        split_ifs at hle hw ⊢ <;> omega
    have hcount := countP_le_weight (· == launch) t
    split_ifs at hweight <;> omega
  · have hweight : t.weight (fun _ => true) ≤ LaunchSt.weight (fun _ => true) {} +
        3 * as.countP LaunchAct.isUser := by
      refine weight_le (fun s a t hs h => ?_) hsound h
      rcases weight_step (fun _ => true) hlaws hs h with ⟨hw, -⟩ | ⟨ha, -, hw⟩
      · exact Nat.le_add_right_of_le hw
      · rw [ha]
        exact hw
    have hlength := countP_le_weight (fun _ => true) t
    have hinit : LaunchSt.weight (fun _ => true) {} = 0 := rfl
    rw [List.countP_true] at hlength
    omega

/-! ## A default launch from a shell -/

/-- `clap` for command lines of the two internal switches. -/
def switchParser : Parser := fun args =>
  if args.all (fun arg => arg == internalElevatedRelaunchArg || arg == internalDetachedRuntimeArg)
    && args.Nodup then
    .ok { elevatedRelaunch := args.contains internalElevatedRelaunchArg
          detachedRuntime := args.contains internalDetachedRuntimeArg }
  else .error 2

theorem switchParser_eq_ok {args : List String} {cli : WardoffCli}
    (h : switchParser args = .ok cli) :
    (∀ arg ∈ args, arg = internalElevatedRelaunchArg ∨ arg = internalDetachedRuntimeArg) ∧
    args.Nodup ∧
      cli = { elevatedRelaunch := args.contains internalElevatedRelaunchArg
              detachedRuntime := args.contains internalDetachedRuntimeArg } := by
  unfold switchParser at h
  split at h
  · rename_i hargs
    simp only [Bool.and_eq_true, List.all_eq_true, Bool.or_eq_true, beq_iff_eq,
      decide_eq_true_eq] at hargs
    exact ⟨hargs.1, hargs.2, (Except.ok.inj h).symm⟩
  · cases h

theorem switchParser_lawful : LawfulParser switchParser where
  elevated := by
    intro args cli h
    obtain ⟨-, -, rfl⟩ := switchParser_eq_ok h
    simp
  detached := by
    intro args cli h
    obtain ⟨-, -, rfl⟩ := switchParser_eq_ok h
    simp
  relaunched := by decide
  append := by
    intro args cli h hnew hescape
    obtain ⟨hargs, hnodup, rfl⟩ := switchParser_eq_ok h
    have hne : ¬ internalElevatedRelaunchArg = internalDetachedRuntimeArg := by decide
    have hall : ((args ++ [internalDetachedRuntimeArg]).all fun arg =>
        arg == internalElevatedRelaunchArg || arg == internalDetachedRuntimeArg) = true := by
      simpa using hargs
    have hnodup' : (args ++ [internalDetachedRuntimeArg]).Nodup := by
      rw [List.nodup_append]
      refine ⟨hnodup, by simp, fun arg harg new hmem => ?_⟩
      rw [List.mem_singleton.1 hmem]
      rintro rfl
      exact hnew harg
    simp [switchParser, hall, hnodup', hne]
  escaped := by
    intro args hescape
    have hnot : ((args ++ [internalDetachedRuntimeArg]).all fun arg =>
        arg == internalElevatedRelaunchArg || arg == internalDetachedRuntimeArg) = false := by
      rw [List.all_eq_false]
      exact ⟨"--", List.mem_append_left _ hescape, by decide⟩
    exact ⟨2, by simp [switchParser, hnot]⟩

/-- Wardoff is started without arguments from a shell that is not elevated. It starts itself
elevated and ends; the elevated process finds the mutex at first, and then starts itself without the
console. -/
def shellLaunch : List LaunchAct :=
  [.user [] false, .claim 0 (.create .handle), .claimed 0, .prepare 0 {} true,
    .claim 1 (.create .handle), .exit 0, .claim 1 .close, .claim 1 .wake,
    .claim 1 (.create .handle), .claimed 1,
    .prepare 1 { consoleLaunchContext := .ok .inherited } false, .exit 1,
    .claim 2 (.create .handle), .claimed 2,
    .prepare 2 { consoleLaunchContext := .ok .inherited } false]

theorem shellLaunch_runs :
    ∃ t proc, exec (launchStep switchParser "WardoffInstance") {} shellLaunch = some t ∧
      t.procs[2]? = some proc ∧
      proc.pc = .running ⟨.block, .visible⟩ ∧ proc.launch = 0 ∧ proc.given = [] ∧
      t.procs.length = 3 ∧ t.procs.countP (fun proc => proc.launch == 0) = 3 :=
  ⟨_, _, rfl, rfl, rfl, rfl, rfl, rfl, rfl⟩

theorem shellLaunch_one_runtime :
    ∃ t proc, exec (launchStep switchParser "WardoffInstance") {} shellLaunch = some t ∧
      t.procs[2]? = some proc ∧
      ∀ q proc' options, t.procs[q]? = some proc' → proc'.pc = .running options → 2 = q := by
  obtain ⟨t, proc, h, hp, hpc, -⟩ := shellLaunch_runs
  exact ⟨t, proc, h, hp, fun q proc' options hq hqc => (one_runtime h hp hpc hq hqc).1⟩

theorem shellLaunch_as_requested :
    ∃ t proc, exec (launchStep switchParser "WardoffInstance") {} shellLaunch = some t ∧
      proc ∈ t.procs ∧
      ∃ elevated asked, .user proc.given elevated ∈ shellLaunch ∧
        switchParser proc.given = .ok asked ∧
        runtimeOptionsFor asked.requestedAction = some ⟨.block, .visible⟩ ∧
        (asked.requestedAction = .default → proc.elevated = true) := by
  obtain ⟨t, proc, h, hp, hpc, -⟩ := shellLaunch_runs
  have hproc := List.mem_of_getElem? hp
  exact ⟨t, proc, h, hproc, runtime_as_requested switchParser_lawful h hproc hpc⟩

theorem shellLaunch_understood :
    ∃ t proc, exec (launchStep switchParser "WardoffInstance") {} shellLaunch = some t ∧
      t.procs[2]? = some proc ∧ proc.launch ≠ 2 ∧
      (∃ cli, switchParser proc.args = .ok cli ∧ cli.requestedAction = .default) ∧
      (runtimeOptionsFor .default).isSome := by
  obtain ⟨t, proc, h, hp, -, hlaunch, hgiven, -⟩ := shellLaunch_runs
  have hescape : "--" ∉ proc.given := by
    rw [hgiven]
    decide
  have hasked : switchParser proc.given = .ok {} := by
    rw [hgiven]
    rfl
  have hrelaunched : proc.launch ≠ 2 := by
    rw [hlaunch]
    decide
  obtain ⟨-, hcli, -, hruntime⟩ := relaunch_understood switchParser_lawful h hp hescape hasked
  exact ⟨t, proc, h, hp, hrelaunched, hcli, hruntime hrelaunched⟩

theorem shellLaunch_bounded :
    ∃ t, exec (launchStep switchParser "WardoffInstance") {} shellLaunch = some t ∧
      t.procs.countP (fun proc => proc.launch == 0) = 3 ∧
      (∀ launch, t.procs.countP (fun proc => proc.launch == launch) ≤ 3) ∧
      t.procs.length ≤ 3 * shellLaunch.countP LaunchAct.isUser := by
  obtain ⟨t, proc, h, -, -, -, -, -, hcount⟩ := shellLaunch_runs
  exact ⟨t, h, hcount, processes_bounded switchParser_lawful h⟩

end Launch

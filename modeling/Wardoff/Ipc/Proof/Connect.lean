import Mathlib.Algebra.Ring.Nat
import Wardoff.Instance.Proof.Claim
import Wardoff.Ipc.Connect
import Wardoff.Ipc.Proof.Client

/-!
# The loops around the pipes are exact

* `connectLoop_decided`: a connect loop makes at least one and at most `pipeConnectAttempts` opens,
  and returns what the last one comes to; `connectLoop_paid`: it keeps its delays within what is
  left of the budget.
* `status_discovery_budget`: so the two connect loops of `wardoff --status` share one budget.
* `retry_loops_exact`: the loops at startup stop at the first outcome that settles the matter, and
  sleep between two attempts only.
-/

namespace Ipc

open Instance (ClaimDisposition)
open Machine

/-! ## Connecting -/

theorem pipeRetryDelay_eq_some {attempt delay : Nat} {remaining : Option Nat}
    (h : pipeRetryDelay attempt remaining = some delay) :
    attempt + 1 < pipeConnectAttempts ∧ 0 < delay ∧ ∀ r, remaining = some r → delay ≤ r := by
  unfold pipeRetryDelay at h
  dsimp only at h
  split_ifs at h with hlast hzero
  cases h
  refine ⟨by omega, by omega, ?_⟩
  rintro r rfl
  exact Nat.min_le_left _ _

theorem mapConnectError_eq_unavailable (path error : String) (isControlPipe : Bool)
    (rawCode : Option Int) :
    mapConnectError path isControlPipe error rawCode = .unavailable ↔
      rawCode = some errorFileNotFound ∨ rawCode = some errorPathNotFound := by
  unfold mapConnectError
  split_ifs with hmissing hdenied hbusy <;> simp [hmissing]

theorem mapConnectError_eq_transport (path error : String) (isControlPipe : Bool)
    (rawCode : Option Int) :
    (∃ message, mapConnectError path isControlPipe error rawCode = .transport message) ↔
      ¬ (rawCode = some errorFileNotFound ∨ rawCode = some errorPathNotFound) := by
  rw [← mapConnectError_eq_unavailable path error isControlPipe]
  cases mapConnectError path isControlPipe error rawCode <;> simp

/-- The last open decides how the loop ends. -/
structure Decided (opens : Nat → OpenAttempt) (result : Except ClientError Unit) (c : Connecting) :
    Prop where
  tried : c.tried = (List.range c.tried.length).map fun i => (opens i).result
  atLeastOnce : 1 ≤ c.tried.length
  atMost : c.tried.length ≤ pipeConnectAttempts
  connected : result = .ok () ↔ c.tried.getLast? = some (.ok ())
  /-- Unavailable: there is no such pipe. -/
  unavailable : result = .error .unavailable ↔ ∃ error, c.tried.getLast? = some (.error error) ∧
    (error.rawCode = some errorFileNotFound ∨ error.rawCode = some errorPathNotFound)
  /-- Transport: it is busy, or anything else. -/
  transport : (∃ message, result = .error (.transport message)) ↔
    ∃ error, c.tried.getLast? = some (.error error) ∧
      ¬ (error.rawCode = some errorFileNotFound ∨ error.rawCode = some errorPathNotFound)

/-- The delays so far, with those that were `spent` before, fit into the time that has passed and
into the budget. -/
structure Paid (start budget spent : Nat) (c : Connecting) : Prop where
  past : start + spent + c.delays.sum ≤ c.now
  within : spent + c.delays.sum ≤ budget

section
variable {isControlPipe : Bool} {path : String} {connectDeadline : Option Nat}
  {opens : Nat → OpenAttempt} {attempt : Nat} {c c' : Connecting} {start budget spent : Nat}

/-- The loop goes on: the clock still allowed a delay. -/
theorem connectAttempt_eq_none
    (h : connectAttempt isControlPipe path connectDeadline opens attempt c = (none, c')) :
    ∃ delay, pipeRetryDelay attempt (connectDeadline.map fun deadline =>
        deadline - (c.opened (opens attempt)).now) = some delay ∧
      c' = (c.opened (opens attempt)).slept delay := by
  unfold connectAttempt at h
  dsimp only at h
  split at h
  · cases h
  · split at h <;> cases h
    rename_i delay hdelay
    split_ifs at hdelay
    exact ⟨delay, hdelay, rfl⟩

/-- The loop returns, with what this attempt comes to. -/
theorem connectAttempt_eq_some {result : Except ClientError Unit}
    (h : connectAttempt isControlPipe path connectDeadline opens attempt c = (some result, c')) :
    c' = c.opened (opens attempt) ∧
      ((opens attempt).result = .ok () ∧ result = .ok () ∨
        ∃ error, (opens attempt).result = .error error ∧
          result = .error (mapConnectError path isControlPipe error.text error.rawCode)) := by
  unfold connectAttempt at h
  dsimp only at h
  split at h
  · rename_i hopen
    cases h
    exact ⟨rfl, .inl ⟨hopen, rfl⟩⟩
  · rename_i error hopen
    split at h <;> cases h
    exact ⟨rfl, .inr ⟨error, hopen, rfl⟩⟩

/-- The opens before this attempt. -/
def TriedBefore (opens : Nat → OpenAttempt) (attempt : Nat) (c : Connecting) : Prop :=
  c.tried = (List.range attempt).map fun i => (opens i).result

theorem TriedBefore.opened (h : TriedBefore opens attempt c) :
    TriedBefore opens (attempt + 1) (c.opened (opens attempt)) := by
  unfold TriedBefore at h ⊢
  simp only [Connecting.opened, h, List.range_succ, List.map_append, List.map_cons, List.map_nil]

theorem TriedBefore.length (h : TriedBefore opens attempt c) : c.tried.length = attempt := by
  rw [h, List.length_map, List.length_range]

/-- A loop that returns at this attempt. -/
theorem TriedBefore.decided (h : TriedBefore opens attempt c) (hlt : attempt < pipeConnectAttempts)
    {result : Except ClientError Unit}
    (hresult : (opens attempt).result = .ok () ∧ result = .ok () ∨
      ∃ error, (opens attempt).result = .error error ∧
        result = .error (mapConnectError path isControlPipe error.text error.rawCode)) :
    Decided opens result (c.opened (opens attempt)) := by
  have hlength := h.opened.length
  have hlast : (c.opened (opens attempt)).tried.getLast? = some (opens attempt).result := by
    simp [Connecting.opened]
  refine ⟨by rw [hlength]; exact h.opened, by omega, by omega, ?_, ?_, ?_⟩
  all_goals rw [hlast]
  all_goals rcases hresult with ⟨hopen, rfl⟩ | ⟨error, hopen, rfl⟩
  all_goals rw [hopen]
  all_goals simp [mapConnectError_eq_unavailable, mapConnectError_eq_transport]

theorem Paid.opened (h : Paid start budget spent c) (o : OpenAttempt) :
    Paid start budget spent (c.opened o) where
  past := Nat.le_add_right_of_le h.past
  within := h.within

/-- A delay that ends before the deadline. -/
theorem Paid.slept (h : Paid start budget spent c) {delay : Nat}
    (hdelay : delay ≤ start + budget - c.now) : Paid start budget spent (c.slept delay) := by
  have hpast := h.past
  have hwithin := h.within
  constructor
  all_goals simp only [Connecting.slept, List.sum_append, List.sum_cons, List.sum_nil]
  all_goals omega

/-- **A connect loop.** It returns, and does not run out. -/
theorem connectLoop_decided (isControlPipe : Bool) (path : String) (connectDeadline : Option Nat)
    (opens : Nat → OpenAttempt) (now : Nat) :
    ∃ result c, connectLoop isControlPipe path connectDeadline opens now = (some result, c) ∧
      Decided opens result c := by
  have hrun := forAttempts_inv (connectAttempt isControlPipe path connectDeadline opens)
    (fun i c => i < pipeConnectAttempts ∧ TriedBefore opens i c)
      (Decided opens) 0 pipeConnectAttempts
    ?_ ?_ (s := { now }) ⟨by decide, rfl⟩
  · rcases hrun with ⟨c, -, hlt, -⟩ | hrun
    · omega
    · exact hrun
  · rintro i c c' - - ⟨-, htried⟩ hbody
    obtain ⟨delay, hdelay, rfl⟩ := connectAttempt_eq_none hbody
    exact ⟨(pipeRetryDelay_eq_some hdelay).1, htried.opened⟩
  · rintro i c result c' - - ⟨hlt, htried⟩ hbody
    obtain ⟨rfl, hresult⟩ := connectAttempt_eq_some hbody
    exact htried.decided hlt hresult

theorem connectLoop_ne_none (isControlPipe : Bool) (path : String) (connectDeadline : Option Nat)
    (opens : Nat → OpenAttempt) (now : Nat) :
    (connectLoop isControlPipe path connectDeadline opens now).1 ≠ none := by
  obtain ⟨result, c, hloop, -⟩ := connectLoop_decided isControlPipe path connectDeadline opens now
  simp [hloop]

/-- It keeps to what is left of the budget, however the time goes by. -/
theorem connectLoop_paid {now : Nat} (hnow : start + spent ≤ now) (hspent : spent ≤ budget) :
    Paid start budget spent
      (connectLoop isControlPipe path (some (start + budget)) opens now).2 := by
  have hrun := forAttempts_inv (connectAttempt isControlPipe path (some (start + budget)) opens)
    (fun _ c => Paid start budget spent c) (fun _ c => Paid start budget spent c) 0
      pipeConnectAttempts
    ?_ ?_ (s := { now }) ⟨by simpa using hnow, by simpa using hspent⟩
  · unfold connectLoop
    rcases hrun with ⟨c, hrun, hpaid⟩ | ⟨result, c, hrun, hpaid⟩
    all_goals rw [hrun]
    all_goals exact hpaid
  · intro i c c' _ _ hpaid hbody
    obtain ⟨delay, hdelay, rfl⟩ := connectAttempt_eq_none hbody
    exact (hpaid.opened _).slept ((pipeRetryDelay_eq_some hdelay).2.2 _ rfl)
  · intro i c result c' _ _ hpaid hbody
    obtain ⟨rfl, -⟩ := connectAttempt_eq_some hbody
    exact hpaid.opened _

/-- What follows the loop is not reached. -/
theorem connectPipe_decided (isControlPipe : Bool) (path : String) (connectDeadline : Option Nat)
    (opens : Nat → OpenAttempt) (now : Nat) :
    Decided opens (connectPipe isControlPipe path connectDeadline opens now).1
      (connectPipe isControlPipe path connectDeadline opens now).2 := by
  obtain ⟨result, c, hloop, hdecided⟩ :=
    connectLoop_decided isControlPipe path connectDeadline opens now
  unfold connectPipe
  rw [hloop]
  exact hdecided

theorem connectPipe_snd (isControlPipe : Bool) (path : String) (connectDeadline : Option Nat)
    (opens : Nat → OpenAttempt) (now : Nat) :
    (connectPipe isControlPipe path connectDeadline opens now).2 =
      (connectLoop isControlPipe path connectDeadline opens now).2 := by
  unfold connectPipe
  split <;> simp [*]

end

/-- An attempt of the process that forwards a command, which has no deadline. -/
theorem afterOpenError_eq {path : String} {opens : Nat → OpenAttempt} {attempt : Nat}
    {c : Connecting} {error : OpenError} (hopen : (opens attempt).result = .error error) :
    (connectAttempt true path none opens attempt c).1 =
      match afterOpenError path error.text error.rawCode attempt none with
      | .ok _ => none
      | .error failure => some (.error failure) := by
  have hretried : isRetriedConnectError error.rawCode = true ↔
    error.rawCode = some errorFileNotFound ∨
      error.rawCode = some errorPathNotFound ∨ error.rawCode = some errorPipeBusy := by
    simp [isRetriedConnectError, or_assoc]
  simp only [connectAttempt, hopen, Option.map_none, afterOpenError, waitBeforePipeRetry,
    ← hretried]
  cases hdelay : pipeRetryDelay attempt none with
  | none => simp
  | some delay =>
    have hlt := (pipeRetryDelay_eq_some hdelay).1
    by_cases hr : isRetriedConnectError error.rawCode = true <;> simp [hr, hlt]

/-! ## Status discovery -/

section
variable (replies : Replies) (o : DiscoveryCalls)

/-- The connection to the status pipe. -/
def DiscoveryCalls.statusPhase (path : String) : Except ClientError Unit × Connecting :=
  connectStatusPipe path (some o.deadline) o.statusOpens o.start

/-- The connection to the control pipe, where it follows. -/
def DiscoveryCalls.controlPhase (path : String) (now : Nat) :
    Except ClientError Unit × Connecting :=
  connectControlPipe path (some o.deadline) o.controlOpens now

theorem readStatus_snd {path : String} (hpath : o.statusPath = .ok path) :
    (o.readStatus replies).2 = some (o.statusPhase path) := by
  simp only [DiscoveryCalls.readStatus, DiscoveryCalls.statusPhase, hpath]
  split <;> simp [*]

/-- `read_status` is unavailable exactly where its connection was. -/
theorem readStatus_fst {path : String} (hpath : o.statusPath = .ok path) :
    (o.readStatus replies).1 = .error .unavailable ↔
    (o.statusPhase path).1 = .error .unavailable := by
  simp only [DiscoveryCalls.readStatus, DiscoveryCalls.statusPhase, hpath]
  split
  · simp [*]
  · simp [*, readStatus, readReply_ne_unavailable]

theorem sendStatusRequest_snd {path : String} (hpath : o.controlPath = .ok path) (now : Nat) :
    (o.sendStatusRequest replies now).2 = some (o.controlPhase path now) := by
  simp only [DiscoveryCalls.sendStatusRequest, DiscoveryCalls.controlPhase, hpath]
  split
  · simp [*]
  · split <;> simp [*]

theorem sendStatusRequest_snd_none {message : String} (hpath : o.controlPath = .error message)
    (now : Nat) :
    (o.sendStatusRequest replies now).2 = none := by
  simp only [DiscoveryCalls.sendStatusRequest, hpath]

/-- The second phase starts where the first one ended unavailable, and nowhere else. -/
theorem discoverStatus_eq {path : String} (hpath : o.statusPath = .ok path) :
    (discoverStatus replies o).status = some (o.statusPhase path) ∧
      (discoverStatus replies o).control =
        if (o.statusPhase path).1 = .error .unavailable then
          (o.sendStatusRequest replies (o.statusPhase path).2.now).2
        else none := by
  have hfst := readStatus_fst replies o hpath
  have hsnd := readStatus_snd replies o hpath
  unfold discoverStatus
  cases hread : o.readStatus replies with
  | mk reply status =>
    rw [hread] at hfst hsnd
    dsimp only at hfst hsnd
    subst hsnd
    split
    · rename_i hreply
      cases hreply
      rw [if_pos (hfst.1 rfl)]
      exact ⟨rfl, rfl⟩
    · rename_i status' hne hreply
      cases hreply
      rw [if_neg fun hphase => hne (hfst.2 hphase)]
      exact ⟨rfl, rfl⟩

theorem discoverStatus_eq_none {message : String} (hpath : o.statusPath = .error message) :
    (discoverStatus replies o).status = none ∧ (discoverStatus replies o).control = none := by
  simp [discoverStatus, DiscoveryCalls.readStatus, hpath]

/-- The phases: none where the status pipe has no name, both where the first one ended unavailable
and the control pipe has a name, and otherwise the first one. -/
theorem discoverStatus_cases :
    (o.statusPath.isOk = false ∧ (discoverStatus replies o).status = none ∧
        (discoverStatus replies o).control = none) ∨
      (∃ path, o.statusPath = .ok path ∧
        ¬ ((o.statusPhase path).1 = .error .unavailable ∧ o.controlPath.isOk = true) ∧
        (discoverStatus replies o).status = some (o.statusPhase path) ∧
        (discoverStatus replies o).control = none) ∨
      ∃ path controlPath, o.statusPath = .ok path ∧ o.controlPath = .ok controlPath ∧
        (o.statusPhase path).1 = .error .unavailable ∧
        (discoverStatus replies o).status = some (o.statusPhase path) ∧
        (discoverStatus replies o).control =
          some (o.controlPhase controlPath (o.statusPhase path).2.now) := by
  cases hpath : o.statusPath with
  | error message => exact .inl ⟨rfl, discoverStatus_eq_none replies o hpath⟩
  | ok path =>
    obtain ⟨hstatus, hcontrol⟩ := discoverStatus_eq replies o hpath
    by_cases hphase : (o.statusPhase path).1 = .error .unavailable
    · rw [if_pos hphase] at hcontrol
      cases hcontrolPath : o.controlPath with
      | error message =>
        rw [sendStatusRequest_snd_none replies o hcontrolPath] at hcontrol
        exact .inr (.inl ⟨path, rfl, by simp [Except.isOk, Except.toBool], hstatus, hcontrol⟩)
      | ok controlPath =>
        rw [sendStatusRequest_snd replies o hcontrolPath] at hcontrol
        exact .inr (.inr ⟨path, controlPath, rfl, rfl, hphase, hstatus, hcontrol⟩)
    · rw [if_neg hphase] at hcontrol
      exact .inr (.inl ⟨path, rfl, fun h => hphase h.1, hstatus, hcontrol⟩)

/-- The first phase leaves the second one what is left of the budget. -/
theorem statusPhase_paid (path : String) :
    Paid o.start statusPipeDiscoveryTimeout 0 (o.statusPhase path).2 := by
  unfold DiscoveryCalls.statusPhase connectStatusPipe
  rw [connectPipe_snd]
  exact connectLoop_paid (Nat.le_refl _) (Nat.zero_le _)

theorem controlPhase_paid (path controlPath : String) :
    Paid o.start statusPipeDiscoveryTimeout (o.statusPhase path).2.delays.sum
      (o.controlPhase controlPath (o.statusPhase path).2.now).2 := by
  have hstatus := statusPhase_paid o path
  unfold DiscoveryCalls.controlPhase connectControlPipe
  rw [connectPipe_snd]
  exact connectLoop_paid (by simpa using hstatus.past) (by simpa using hstatus.within)

theorem statusPhase_decided (path : String) :
    Decided o.statusOpens (o.statusPhase path).1 (o.statusPhase path).2 :=
  connectPipe_decided false path (some o.deadline) o.statusOpens o.start

theorem controlPhase_decided (path : String) (now : Nat) :
    Decided o.controlOpens (o.controlPhase path now).1 (o.controlPhase path now).2 :=
  connectPipe_decided true path (some o.deadline) o.controlOpens now

theorem discoverStatus_delays :
    (discoverStatus replies o).delays.sum ≤ statusPipeDiscoveryTimeout := by
  unfold Discovery.delays Discovery.phases
  rcases discoverStatus_cases replies o with
    ⟨-, hstatus, hcontrol⟩ | ⟨path, -, -, hstatus, hcontrol⟩ |
    ⟨path, controlPath, -, -, -, hstatus, hcontrol⟩
  all_goals rw [hstatus, hcontrol]
  · exact Nat.zero_le _
  · simpa using (statusPhase_paid o path).within
  · simpa using (controlPhase_paid o path controlPath).within

/-- **Status discovery.** The status pipe is opened at least once and at most `pipeConnectAttempts`
times, and the control pipe as well where the first phase ended unavailable, and nowhere else; the
last open of a phase decides how it ends, and all the delays together fit into the budget. No
connect loop runs out. -/
theorem status_discovery_budget :
    ((discoverStatus replies o).status.isSome ↔ o.statusPath.isOk) ∧
      ((discoverStatus replies o).control.isSome ↔
        (∃ c, (discoverStatus replies o).status = some (.error .unavailable, c)) ∧
        o.controlPath.isOk) ∧
      (∀ phase ∈ (discoverStatus replies o).status, Decided o.statusOpens phase.1 phase.2) ∧
      (∀ phase ∈ (discoverStatus replies o).control, Decided o.controlOpens phase.1 phase.2) ∧
      (discoverStatus replies o).delays.sum ≤ statusPipeDiscoveryTimeout ∧
      ∀ isControlPipe path connectDeadline opens now,
        (connectLoop isControlPipe path connectDeadline opens now).1 ≠ none := by
  have hdelays := discoverStatus_delays replies o
  rcases discoverStatus_cases replies o with ⟨hpath, hstatus, hcontrol⟩ |
    ⟨path, hpath, hno, hstatus, hcontrol⟩ |
    ⟨path, controlPath, hpath, hcontrolPath, hphase, hstatus, hcontrol⟩
  all_goals rw [hstatus, hcontrol]
  · exact ⟨by simp [hpath], by simp, by simp, by simp, hdelays, connectLoop_ne_none⟩
  · refine ⟨by simp [hpath, Except.isOk, Except.toBool], ?_, ?_, by simp, hdelays,
      connectLoop_ne_none⟩
    · constructor
      · intro hnone
        cases hnone
      · rintro ⟨⟨c, hc⟩, hok⟩
        exact absurd ⟨congrArg Prod.fst (Option.some.inj hc), hok⟩ hno
    · rintro phase ⟨⟩
      exact statusPhase_decided o path
  · refine ⟨by simp [hpath, Except.isOk, Except.toBool], ?_, ?_, ?_, hdelays, connectLoop_ne_none⟩
    · have hunavailable : o.statusPhase path = (.error .unavailable, (o.statusPhase path).2) :=
        Prod.ext hphase rfl
      simp only [Option.isSome_some, true_iff, hcontrolPath]
      exact ⟨⟨_, congrArg some hunavailable⟩, rfl⟩
    · rintro phase ⟨⟩
      exact statusPhase_decided o path
    · rintro phase ⟨⟩
      exact controlPhase_decided o controlPath _

end

-- the first open takes three seconds: the deadline has passed, and each pipe is opened once
example : (discoverStatus .sample
      { start := 0
        statusPath := .ok "status"
        statusOpens := fun _ => { result := .error { text := "", rawCode := some 2 },
                                  elapsed := 3000000000 }
        statusReply := .ok []
        controlPath := .ok "control"
        controlOpens := fun _ => { result := .error { text := "", rawCode := some 231 },
                                   elapsed := 0 }
        exchange := .ok ()
        controlReply := .ok [] }).phases.map (fun phase => (phase.2.tried.length, phase.2.delays)) =
    [(1, []), (1, [])] := by
  decide

/-! ## The loops at startup -/

section
variable {Pipe : Type}

/-- `CreateNamedPipeW` was denied. -/
def IsDenied (create : Except (String × Nat) Pipe) : Prop :=
  ∃ error errorCode, create = .error (error, errorCode) ∧ (errorCode : Int) = errorAccessDenied

/-- What the last attempt of `claim_initial_pipe_instance` comes to. -/
def lastCreate (pipePath : String) : Except (String × Nat) Pipe → Except String Pipe
  | .ok pipe => .ok pipe
  | .error (error, errorCode) =>
    if (errorCode : Int) = errorAccessDenied then (PipeClaim.retryWindow error).toResult pipePath
    else .error error

/-- `claim_initial_pipe_instance` stops with attempt number `last`. -/
structure CreatedAt (pipePath : String) (creates : Nat → Except (String × Nat) Pipe) (last : Nat) :
    Prop where
  lt : last < initialPipeClaimAttempts
  before : ∀ i < last, IsDenied (creates i)
  stops : ¬ IsDenied (creates last) ∨ last + 1 = initialPipeClaimAttempts
  /-- It sleeps after each attempt but the last one. -/
  trace : (initialClaimLoop creates).2 = pausedTrials creates last ++ [.tried (creates last)]
  result : claimInitialPipeInstance pipePath creates = lastCreate pipePath (creates last)

theorem initialClaimSettles_eq_none {attempt : Nat} {create : Except (String × Nat) Pipe}
    (h : initialClaimSettles attempt create = none) : IsDenied create := by
  unfold initialClaimSettles at h
  split at h
  · cases h
  · rename_i error errorCode
    split_ifs at h with hdenied
    simp only [isRetryableInitialPipeClaimError, Bool.and_eq_true, beq_iff_eq] at hdenied
    exact ⟨error, errorCode, rfl, hdenied.1⟩

theorem initialClaimSettles_eq_some {attempt : Nat} {create : Except (String × Nat) Pipe}
    {claim : PipeClaim Pipe} (h : initialClaimSettles attempt create = some claim)
    (pipePath : String) :
    claim.toResult pipePath = lastCreate pipePath create ∧
      ((∃ error, claim = .retryWindow error) ↔ IsDenied create) ∧
      (¬ IsDenied create ∨ initialPipeClaimAttempts ≤ attempt + 1) := by
  unfold initialClaimSettles at h
  split at h
  · cases h
    simp [PipeClaim.toResult, lastCreate, IsDenied]
  · rename_i error errorCode
    simp only [isRetryableInitialPipeClaimError, beq_iff_eq, Bool.and_eq_true,
      decide_eq_true_eq] at h
    split_ifs at h with hmore hdenied
    · cases h
      simp [PipeClaim.toResult, lastCreate, IsDenied, hdenied]
      omega
    · cases h
      simp [PipeClaim.toResult, lastCreate, IsDenied, hdenied]

theorem initialClaimSettles_last (create : Except (String × Nat) Pipe) :
    (initialClaimSettles (initialPipeClaimAttempts - 1) create).isSome = true := by
  unfold initialClaimSettles
  split
  · rfl
  · rw [if_neg (by simp [initialPipeClaimAttempts])]
    split_ifs <;> rfl

/-- The window has passed exactly if every attempt was denied. -/
theorem initialClaimLoop_exact (pipePath : String) (creates : Nat → Except (String × Nat) Pipe) :
    (∃ last, CreatedAt pipePath creates last) ∧
      ((∃ error, (initialClaimLoop creates).1 = some (.retryWindow error)) ↔
        ∀ i < initialPipeClaimAttempts, IsDenied (creates i)) ∧
      (initialClaimLoop creates).1 ≠ none := by
  obtain ⟨last, hlt, hbefore, claim, hclaim, hrun⟩ :=
    retry_settled creates initialPipeClaimAttempts (by decide) initialClaimSettles_last
  obtain ⟨hresult, hwindow, hstops⟩ := initialClaimSettles_eq_some hclaim pipePath
  have hdenied : ∀ i < last, IsDenied (creates i) :=
    fun i hi => initialClaimSettles_eq_none (hbefore i hi)
  have hloop : initialClaimLoop creates =
    (some claim, pausedTrials creates last ++ [.tried (creates last)]) :=
    hrun
  refine ⟨⟨last, hlt, hdenied, hstops.imp_right (by omega), by rw [hloop], ?_⟩, ?_, by simp [hloop]⟩
  · simp only [claimInitialPipeInstance, hloop, hresult]
  · simp only [hloop, Option.some.injEq, hwindow]
    constructor
    · intro hlast i hi
      rcases hstops with hstops | hstops
      · exact absurd hlast hstops
      · rcases Nat.lt_or_ge i last with hi' | hi'
        · exact hdenied i hi'
        · rwa [show i = last by omega]
    · intro hall
      exact hall last hlt

end

/-- **The startup retry loops.** Each stops at the first outcome that settles the matter or with its
last attempt, returns what this attempt comes to, and sleeps once between two attempts; the code
after it is not reached. -/
theorem retry_loops_exact (attempts : UInt64) (claims : Nat → Except String ClaimDisposition)
    (Pipe : Type) (pipePath : String) (creates : Nat → Except (String × Nat) Pipe) :
    (∃ last, Instance.ClaimedAt attempts claims last) ∧
      (∃ last, CreatedAt pipePath creates last) ∧
      ((∃ error, (initialClaimLoop creates).1 = some (.retryWindow error)) ↔
        ∀ i < initialPipeClaimAttempts, IsDenied (creates i)) ∧
      (initialClaimLoop creates).1 ≠ none :=
  ⟨Instance.claimPrimaryInstanceWithRetry_exact attempts claims,
    initialClaimLoop_exact pipePath creates⟩

end Ipc

import Mathlib.Order.Monotone.Basic
import Wardoff.Machine.History
import Wardoff.Machine.Run
import Wardoff.Tray.Proof.Convergence
import Wardoff.Tray.Retry

/-!
# How often the tray thread tries, and what it says of it

* `retryStep_tray`: with its timers the tray thread does what it does without, for some choice of
  the times.
* `retry_discipline`: between two restarts of Explorer, attempts are two seconds apart, a failure is
  reported once, and a tray that was created ends the attempts and the warnings.
* `warnings_spaced`: warnings are half a minute apart, whatever else happens.
-/

namespace Tray

open Blocker (BlockerMode)
open Machine

variable {clock : Nat → Nat} {s t : RetryState}

/-- An update neither makes a tray nor drops it. -/
theorem TrayThreadState.applyCurrentTrayState_isSome (o : UpdateCalls) (s : TrayThreadState) :
    (s.applyCurrentTrayState o).2.controller.isSome = s.controller.isSome := by
  unfold TrayThreadState.applyCurrentTrayState
  split
  · rfl
  · rename_i controller hc
    rw [hc]
    rfl

namespace RetryState

/-! ## What each function changes -/

theorem resetTrayController_eq (clock : Nat → Nat) (s : RetryState) :
    ∃ waitingSince lastWarningAt reads, s.resetTrayController clock = { s with
        tray := s.tray.resetTrayController, creationFailureReported := false, waitingSince,
        nextRetryAt := clock reads, lastWarningAt, reads := reads + 1 } ∧
      s.reads ≤ reads ∧ (lastWarningAt = s.lastWarningAt ∨ ∃ k, s.reads ≤ k ∧ k < reads ∧
        lastWarningAt = some (clock k)) := by
  unfold resetTrayController startWaiting startWarning RetryState.now
  cases s.waitingSince <;> cases s.lastWarningAt
  · exact ⟨_, _, s.reads + 2, rfl, by omega, .inr ⟨s.reads + 1, by omega, by omega, rfl⟩⟩
  · exact ⟨_, _, s.reads + 1, rfl, by omega, .inl rfl⟩
  · exact ⟨_, _, s.reads + 1, rfl, by omega, .inr ⟨s.reads, by omega, by omega, rfl⟩⟩
  · exact ⟨_, _, s.reads, rfl, by omega, .inl rfl⟩

theorem finishWaiting_eq (clock : Nat → Nat) (s : RetryState) :
    ∃ waitingSince reads logged, (logged = [] ∨ logged = [TrayRecord.initialized]) ∧
      s.reads ≤ reads ∧
      s.finishWaiting clock = { s with waitingSince, reads, history := s.history ++ logged } := by
  unfold finishWaiting RetryState.now
  split
  · exact ⟨s.waitingSince, s.reads, [], .inl rfl, Nat.le_refl _, by simp⟩
  · dsimp only
    split
    · exact ⟨none, s.reads + 1, [.initialized], .inr rfl, by omega, rfl⟩
    · exact ⟨none, s.reads + 1, [], .inl rfl, by omega, by simp⟩

theorem warnIfDue_cases (clock : Nat → Nat) (s : RetryState) :
    (∃ reads, s.reads ≤ reads ∧ s.warnIfDue clock = { s with reads }) ∨
      ∃ lastWarningAt, s.lastWarningAt = some lastWarningAt ∧
        lastWarningAt + trayUnavailableWarningInterval ≤ clock s.reads ∧
        s.warnIfDue clock = { s with
          history := s.history ++ [.retrying (clock s.reads)]
          lastWarningAt := some (clock (s.reads + 1))
          reads := s.reads + 2 } := by
  unfold warnIfDue RetryState.now
  split
  · exact .inl ⟨s.reads, Nat.le_refl _, rfl⟩
  · rename_i lastWarningAt hlast
    dsimp only
    split
    · rename_i hdue
      refine .inr ⟨lastWarningAt, hlast, ?_, rfl⟩
      simp only [trayUnavailableWarningInterval] at hdue ⊢
      omega
    · exact .inl ⟨s.reads + 1, by omega, rfl⟩

/-- A failed creation is logged unless it was before. -/
theorem logTrayCreationFailure_cases (s : RetryState) :
    (s.creationFailureReported = true ∧ s.logTrayCreationFailure = s) ∨
      (s.creationFailureReported = false ∧
        s.logTrayCreationFailure = { s.log .creationFailed with
          creationFailureReported := true }) := by
  unfold logTrayCreationFailure
  cases h : s.creationFailureReported with
  | true => exact .inl ⟨rfl, if_pos rfl⟩
  | false => exact .inr ⟨rfl, if_neg (by simp)⟩

/-- An attempt, as the thread logs it. -/
def attempting (clock : Nat → Nat) (s : RetryState) : RetryState :=
  { s with
    nextRetryAt := clock s.reads + trayRetryInterval
    reads := s.reads + 1
    history := s.history ++ [.attempted (clock s.reads)] }

/-- An attempt fails, or the thread has a tray and waits no more. -/
theorem tryCreateTrayController_cases (clock : Nat → Nat) (create : CreateCalls)
    (update : UpdateCalls) (s : RetryState) :
    (s.tryCreateTrayController clock create update = (s.attempting clock).logTrayCreationFailure ∧
        s.tray.tryCreateTrayController create update = s.tray) ∨
      ∃ controller waitingSince reads logged, (logged = [] ∨ logged = [TrayRecord.initialized]) ∧
        s.reads + 1 ≤ reads ∧
        s.tray.tryCreateTrayController create update =
          { s.tray with controller := some controller } ∧
        s.tryCreateTrayController clock create update = { s.attempting clock with
          tray := { s.tray with controller := some controller }
          waitingSince
          lastWarningAt := none
          reads
          history := (s.attempting clock).history ++ [.created] ++ logged } := by
  cases hnew : TrayController.new create s.tray.visibility with
  | error error =>
    refine .inl ⟨?_, by simp only [TrayThreadState.tryCreateTrayController, hnew]⟩
    simp only [RetryState.tryCreateTrayController, RetryState.now, log, hnew]
    rfl
  | ok fresh =>
    cases hset : (fresh.setAutostartEnabled s.tray.autostartEnabled).setMode update s.tray.mode with
    | mk result controller =>
      cases result with
      | error error =>
        refine .inl ⟨?_, by simp only [TrayThreadState.tryCreateTrayController, hnew, hset]⟩
        simp only [RetryState.tryCreateTrayController, RetryState.now, log, hnew, hset]
        rfl
      | ok u =>
        obtain ⟨waitingSince, reads, logged, hlogged, hreads, hfinish⟩ :=
          finishWaiting_eq clock ((s.attempting clock).log .created)
        refine .inr ⟨controller, waitingSince, reads, logged, hlogged, hreads,
          by simp only [TrayThreadState.tryCreateTrayController, hnew, hset], ?_⟩
        simp only [RetryState.tryCreateTrayController, RetryState.now, hnew, hset, log]
        change { finishWaiting clock ((s.attempting clock).log .created) with
          lastWarningAt := none
          tray := { (finishWaiting clock ((s.attempting clock).log .created)).tray with
            controller := some controller } } = _
        rw [hfinish]
        rfl

/-- After an attempt there is no tray, or nothing to warn of. -/
theorem tryCreateTrayController_waits (clock : Nat → Nat) (create : CreateCalls)
    (update : UpdateCalls) (hnone : s.tray.controller = none) :
    (s.tryCreateTrayController clock create update).tray.controller = none ∨
      (s.tryCreateTrayController clock create update).lastWarningAt = none := by
  rcases s.tryCreateTrayController_cases clock create update with
    ⟨heq, -⟩ | ⟨controller, waitingSince, reads, logged, -, -, -, heq⟩
  · refine .inl ?_
    rcases (s.attempting clock).logTrayCreationFailure_cases with ⟨-, hsame⟩ | ⟨-, hlogged⟩
    · rw [heq, hsame]
      exact hnone
    · rw [heq, hlogged]
      exact hnone
  · rw [heq]
    exact .inr rfl

theorem attemptTrayCreation_eq (clock : Nat → Nat) (create : CreateCalls) (update : UpdateCalls)
    (s : RetryState) :
    ∃ waitingSince lastWarningAt reads, s.reads ≤ reads ∧
      (lastWarningAt = s.lastWarningAt ∨ ∃ k, s.reads ≤ k ∧ lastWarningAt = some (clock k)) ∧
      s.attemptTrayCreation clock create update =
        (if s.nextRetryAt ≤ clock reads then
          RetryState.tryCreateTrayController clock create update
            { s with waitingSince, lastWarningAt, reads := reads + 1 }
        else { s with waitingSince, lastWarningAt, reads := reads + 1 }).warnIfDue clock := by
  cases hwaiting : s.waitingSince with
  | some since =>
    refine ⟨some since, s.lastWarningAt, s.reads, Nat.le_refl _, .inl rfl, ?_⟩
    simp only [RetryState.attemptTrayCreation, RetryState.now, hwaiting]
  | none =>
    refine ⟨some (clock s.reads), some (clock (s.reads + 1)), s.reads + 2, Nat.le_add_right _ 2,
      .inr ⟨s.reads + 1, Nat.le_succ _, rfl⟩, ?_⟩
    simp only [RetryState.attemptTrayCreation, RetryState.now, hwaiting]

end RetryState

/-! ## Attempts -/

/-- After these the thread begins anew. -/
def IsReset : TrayRecord → Prop
  | .reinitializeRequested => True
  | .updateFailed => True
  | _ => False

/-- What may come after what, if the thread does not begin anew between them. -/
def Follows : TrayRecord → TrayRecord → Prop
  | .attempted a, .attempted b => a + trayRetryInterval ≤ b
  | .creationFailed, .creationFailed => False
  | .created, .attempted _ => False
  | .created, .creationFailed => False
  | .created, .created => False
  | .created, .retrying _ => False
  | _, _ => True

/-- What the thread remembers of a record. -/
def Owes (s : RetryState) : TrayRecord → Prop
  | .attempted now => now + trayRetryInterval ≤ s.nextRetryAt
  | .creationFailed => s.creationFailureReported = true
  | .created => s.tray.controller.isSome = true
  | _ => True

structure Disciplined (s : RetryState) : Prop where
  apart : Separated Follows IsReset s.history
  owes : Until IsReset (Owes s) s.history

namespace Disciplined

theorem frame (hs : Disciplined s) (hhistory : t.history = s.history)
    (hnext : t.nextRetryAt = s.nextRetryAt)
    (hreported : t.creationFailureReported = s.creationFailureReported)
    (htray : t.tray.controller.isSome = s.tray.controller.isSome) : Disciplined t where
  apart := hhistory ▸ hs.apart
  owes := by
    rw [hhistory]
    refine hs.owes.mono fun record ho => ?_
    cases record <;> simp_all [Owes]

/-- A record that nothing stands against. -/
theorem log (hs : Disciplined s) (record : TrayRecord) (hfollows : ∀ a, Owes s a → Follows a record)
    (howes : Owes s record) : Disciplined (s.log record) where
  apart := hs.apart.append hs.owes hfollows
  owes := hs.owes.append (fun record ho => by cases record <;> exact ho) howes

theorem reset (hs : Disciplined s) {record : TrayRecord} (hreset : IsReset record) :
    Disciplined ((s.log record).resetTrayController clock) := by
  obtain ⟨waitingSince, lastWarningAt, reads, heq, -, -⟩ :=
    RetryState.resetTrayController_eq clock (s.log record)
  rw [heq]
  constructor
  · refine hs.apart.append hs.owes fun a _ => ?_
    cases record <;> first | exact hreset.elim | cases a <;> trivial
  · refine until_of_separator hreset ?_
    cases record <;> first | exact hreset.elim | trivial

/-- An attempt that is due. -/
theorem attempting (hs : Disciplined s) (hnone : s.tray.controller = none)
    (hdue : s.nextRetryAt ≤ clock s.reads) :
    Disciplined (s.attempting clock) where
  apart := by
    refine hs.apart.append hs.owes fun a ho => ?_
    cases a with
    | attempted now => exact Nat.le_trans ho hdue
    | created => simp [Owes, hnone] at ho
    | _ => trivial
  owes := by
    refine hs.owes.append (fun a ho => ?_) (Nat.le_refl _)
    cases a with
    | attempted now =>
      have hnow : now + trayRetryInterval ≤ s.nextRetryAt := ho
      show now + trayRetryInterval ≤ clock s.reads + trayRetryInterval
      omega
    | _ => exact ho

theorem failed (hs : Disciplined s) (hnone : s.tray.controller = none) :
    Disciplined s.logTrayCreationFailure := by
  rcases s.logTrayCreationFailure_cases with ⟨-, heq⟩ | ⟨hreported, heq⟩
  · rw [heq]
    exact hs
  · rw [heq]
    constructor
    · refine hs.apart.append hs.owes fun a ho => ?_
      cases a with
      | creationFailed => simp [Owes, hreported] at ho
      | created => simp [Owes, hnone] at ho
      | _ => trivial
    · refine hs.owes.append (fun a ho => ?_) rfl
      cases a with
      | creationFailed => rfl
      | _ => exact ho

theorem tryCreate (hs : Disciplined s) (hnone : s.tray.controller = none)
    (hdue : s.nextRetryAt ≤ clock s.reads) (create : CreateCalls) (update : UpdateCalls) :
    Disciplined (s.tryCreateTrayController clock create update) := by
  have hattempt := hs.attempting hnone hdue
  rcases s.tryCreateTrayController_cases clock create update with
    ⟨heq, -⟩ | ⟨controller, waitingSince, reads, logged, hlogged, -, -, heq⟩
  · rw [heq]
    exact hattempt.failed hnone
  · rw [heq]
    have hcreated : Disciplined { s.attempting clock with
        tray := { s.tray with controller := some controller }
        history := (s.attempting clock).history ++ [.created] } := by
      constructor
      · refine hattempt.apart.append hattempt.owes fun a ho => ?_
        cases a with
        | created => simp [Owes, RetryState.attempting, hnone] at ho
        | _ => trivial
      · refine hattempt.owes.append (fun a ho => ?_) rfl
        cases a with
        | created => rfl
        | _ => exact ho
    rcases hlogged with rfl | rfl
    · exact hcreated.frame (List.append_nil _) rfl rfl rfl
    · refine (hcreated.log .initialized (fun a _ => ?_) trivial).frame rfl rfl rfl rfl
      cases a <;> trivial

/-- A warning is given only while there is no tray. -/
theorem warn (hs : Disciplined s) (hwaits : s.tray.controller = none ∨ s.lastWarningAt = none) :
    Disciplined (s.warnIfDue clock) := by
  rcases s.warnIfDue_cases clock with ⟨reads, -, heq⟩ | ⟨lastWarningAt, hlast, -, heq⟩
  · rw [heq]
    exact hs.frame rfl rfl rfl rfl
  · rw [heq]
    have hnone : s.tray.controller = none := by
      rcases hwaits with hnone | hnone
      · exact hnone
      · rw [hlast] at hnone
        cases hnone
    refine (hs.log (.retrying (clock s.reads)) (fun a ho => ?_) trivial).frame rfl rfl rfl rfl
    cases a with
    | created => simp [Owes, hnone] at ho
    | _ => trivial

end Disciplined

/-! ## Warnings -/

/-- Warnings are apart. -/
def WarnedApart : TrayRecord → TrayRecord → Prop
  | .retrying a, .retrying b => a + trayUnavailableWarningInterval ≤ b
  | _, _ => True

/-- A warning is older than the clock, and than the timer of the next one. -/
def Remembered (clock : Nat → Nat) (s : RetryState) : TrayRecord → Prop
  | .retrying now => now ≤ clock s.reads ∧ ∀ last, s.lastWarningAt = some last → now ≤ last
  | _ => True

/-- Nothing makes the thread forget a warning. -/
structure Warned (clock : Nat → Nat) (s : RetryState) : Prop where
  apart : Separated WarnedApart (fun _ => False) s.history
  before : Until (fun _ => False) (Remembered clock s) s.history

/-- The timer of the warnings is left, stopped, or set to a new reading. -/
def TimerKept (clock : Nat → Nat) (s t : RetryState) : Prop :=
  s.reads ≤ t.reads ∧ (t.lastWarningAt = s.lastWarningAt ∨ t.lastWarningAt = none ∨
    ∃ k, s.reads ≤ k ∧ t.lastWarningAt = some (clock k))

theorem remembered_of_timerKept (hclock : Monotone clock) (h : TimerKept clock s t)
    {record : TrayRecord} (hr : Remembered clock s record) : Remembered clock t record := by
  cases record with
  | retrying now =>
    obtain ⟨hreads, htimer⟩ := h
    refine ⟨Nat.le_trans hr.1 (hclock hreads), fun last hlast => ?_⟩
    rcases htimer with heq | heq | ⟨k, hk, heq⟩
    · exact hr.2 last (heq.symm.trans hlast)
    · rw [heq] at hlast
      cases hlast
    · obtain rfl := Option.some.inj (heq.symm.trans hlast)
      exact Nat.le_trans hr.1 (hclock hk)
  | _ => trivial

namespace Warned

theorem frame (hclock : Monotone clock) (hs : Warned clock s) (hhistory : t.history = s.history)
    (htimer : TimerKept clock s t) : Warned clock t where
  apart := hhistory ▸ hs.apart
  before := by
    rw [hhistory]
    exact hs.before.mono fun _ hr => remembered_of_timerKept hclock htimer hr

/-- A record that is no warning. -/
theorem log (hs : Warned clock s) (record : TrayRecord) (hrecord : ∀ now, record ≠ .retrying now) :
    Warned clock (s.log record) where
  apart := by
    refine hs.apart.append hs.before fun a _ => ?_
    cases record <;> first | exact absurd rfl (hrecord _) | cases a <;> trivial
  before := by
    refine hs.before.append (fun a hr => hr) ?_
    cases record <;> first | exact absurd rfl (hrecord _) | trivial

theorem reset (hclock : Monotone clock) (hs : Warned clock s) {record : TrayRecord}
    (hrecord : ∀ now, record ≠ .retrying now) :
    Warned clock ((s.log record).resetTrayController clock) := by
  obtain ⟨waitingSince, lastWarningAt, reads, heq, hreads, htimer⟩ :=
    RetryState.resetTrayController_eq clock (s.log record)
  rw [heq]
  refine (hs.log record hrecord).frame hclock rfl ⟨Nat.le_succ_of_le hreads, ?_⟩
  rcases htimer with hsame | ⟨k, hk, -, hset⟩
  · exact .inl hsame
  · exact .inr (.inr ⟨k, hk, hset⟩)

theorem tryCreate (hclock : Monotone clock) (hs : Warned clock s) (create : CreateCalls)
    (update : UpdateCalls) :
    Warned clock (s.tryCreateTrayController clock create update) := by
  have hattempt : Warned clock (s.attempting clock) :=
    (hs.log (.attempted (clock s.reads)) fun _ h => (by cases h)).frame hclock rfl
      ⟨Nat.le_succ _, .inl rfl⟩
  rcases s.tryCreateTrayController_cases clock create update with
    ⟨heq, -⟩ | ⟨controller, waitingSince, reads, logged, hlogged, hreads, -, heq⟩
  · rw [heq]
    rcases (s.attempting clock).logTrayCreationFailure_cases with ⟨-, hsame⟩ | ⟨-, hlogged⟩
    · rw [hsame]
      exact hattempt
    · rw [hlogged]
      exact (hattempt.log .creationFailed fun _ h => (by cases h)).frame hclock rfl
        ⟨Nat.le_refl _, .inl rfl⟩
  · rw [heq]
    have hcreated : Warned clock ((s.attempting clock).log .created) :=
      hattempt.log .created fun _ h => (by cases h)
    rcases hlogged with rfl | rfl
    · exact hcreated.frame hclock (List.append_nil _) ⟨hreads, .inr (.inl rfl)⟩
    · exact (hcreated.log .initialized fun _ h => (by cases h)).frame hclock rfl
        ⟨hreads, .inr (.inl rfl)⟩

theorem warn (hclock : Monotone clock) (hs : Warned clock s) :
    Warned clock (s.warnIfDue clock) := by
  rcases s.warnIfDue_cases clock with ⟨reads, hreads, heq⟩ | ⟨lastWarningAt, hlast, hdue, heq⟩
  · rw [heq]
    exact hs.frame hclock rfl ⟨hreads, .inl rfl⟩
  · rw [heq]
    constructor
    · refine hs.apart.append hs.before fun a hr => ?_
      cases a with
      | retrying now => exact Nat.le_trans (Nat.add_le_add_right (hr.2 lastWarningAt hlast) _) hdue
      | _ => trivial
    · have hlater : clock s.reads ≤ clock (s.reads + 1) := hclock (Nat.le_succ _)
      refine hs.before.append (fun a hr => ?_) ⟨hclock (Nat.le_add_right _ 2), ?_⟩
      · exact remembered_of_timerKept hclock
          ⟨Nat.le_add_right _ 2, .inr (.inr ⟨s.reads + 1, Nat.le_succ _, rfl⟩)⟩ hr
      · rintro last hlast'
        obtain rfl := Option.some.inj hlast'
        exact hlater

end Warned

/-! ## Runs -/

/-- What holds of the thread between its steps. -/
structure Kept (clock : Nat → Nat) (s : RetryState) : Prop where
  disciplined : Disciplined s
  warned : Warned clock s

theorem kept_start (clock : Nat → Nat) (visibility : TrayVisibility) (initialMode : BlockerMode) :
    Kept clock (.start clock visibility initialMode) :=
  ⟨⟨separated_nil, until_nil⟩, ⟨separated_nil, until_nil⟩⟩

namespace Kept

theorem reset (hclock : Monotone clock) (hs : Kept clock s) (record : TrayRecord)
    (hreset : IsReset record) :
    Kept clock ((s.log record).resetTrayController clock) := by
  refine ⟨hs.disciplined.reset hreset, hs.warned.reset hclock fun now h => ?_⟩
  subst h
  exact hreset

theorem frame (hclock : Monotone clock) (hs : Kept clock s) (hhistory : t.history = s.history)
    (hnext : t.nextRetryAt = s.nextRetryAt)
    (hreported : t.creationFailureReported = s.creationFailureReported)
    (htray : t.tray.controller.isSome = s.tray.controller.isSome) (htimer : TimerKept clock s t) :
    Kept clock t :=
  ⟨hs.disciplined.frame hhistory hnext hreported htray, hs.warned.frame hclock hhistory htimer⟩

theorem applyOrReset (hclock : Monotone clock) (hs : Kept clock s) (o : UpdateCalls) :
    Kept clock (s.applyOrReset clock o).2 := by
  unfold RetryState.applyOrReset
  have happly := TrayThreadState.applyCurrentTrayState_isSome o s.tray
  split
  · rename_i error tray htray
    rw [htray] at happly
    have hframe : Kept clock { s with tray } :=
      hs.frame hclock rfl rfl rfl happly ⟨Nat.le_refl _, .inl rfl⟩
    exact hframe.reset hclock .updateFailed trivial
  · rename_i tray htray
    rw [htray] at happly
    exact hs.frame hclock rfl rfl rfl happly ⟨Nat.le_refl _, .inl rfl⟩

theorem attempt (hclock : Monotone clock) (hs : Kept clock s) (hnone : s.tray.controller = none)
    (create : CreateCalls) (update : UpdateCalls) :
    Kept clock (s.attemptTrayCreation clock create update) := by
  obtain ⟨waitingSince, lastWarningAt, reads, hreads, htimer, heq⟩ :=
    s.attemptTrayCreation_eq clock create update
  have hframe : Kept clock { s with waitingSince, lastWarningAt, reads := reads + 1 } := by
    refine hs.frame hclock rfl rfl rfl rfl ⟨Nat.le_succ_of_le hreads, ?_⟩
    exact htimer.imp_right fun ⟨k, hk, hset⟩ => .inr ⟨k, hk, hset⟩
  rw [heq]
  split
  · rename_i hdue
    have hlater : s.nextRetryAt ≤ clock (reads + 1) := Nat.le_trans hdue (hclock (Nat.le_succ _))
    exact ⟨(hframe.disciplined.tryCreate hnone hlater create update).warn
      (RetryState.tryCreateTrayController_waits clock create update hnone),
      (hframe.warned.tryCreate hclock create update).warn hclock⟩
  · exact ⟨hframe.disciplined.warn (.inl hnone), hframe.warned.warn hclock⟩

theorem step (hclock : Monotone clock) (hs : Kept clock s) (a : RetryAct) :
    Kept clock (retryStep clock s a) := by
  cases a with
  | pump pending =>
    simp only [retryStep, RetryState.handleTaskbarCreated]
    split
    · exact hs.reset hclock .reinitializeRequested trivial
    · exact hs
  | command o command =>
    cases command with
    | setMode mode ticket =>
      have hmode : Kept clock { s with tray := { s.tray with mode } } :=
        hs.frame hclock rfl rfl rfl rfl ⟨Nat.le_refl _, .inl rfl⟩
      exact hmode.applyOrReset hclock o
    | setAutostart enabled =>
      have henabled : Kept clock { s with tray := { s.tray with autostartEnabled := enabled } } :=
        hs.frame hclock rfl rfl rfl rfl ⟨Nat.le_refl _, .inl rfl⟩
      exact henabled.applyOrReset hclock o
    | shutdown => exact hs
  | attempt create update =>
    simp only [retryStep]
    split
    · rename_i hnone
      exact hs.attempt hclock (Option.isNone_iff_eq_none.1 hnone) create update
    · exact hs

end Kept

/-! ## The thread without its timers -/

/-- What `RetryAct` does to the thread without its timers, which tries again when it is `due`. -/
def TrayThreadState.threadStep (due : Bool) (s : TrayThreadState) : RetryAct → TrayThreadState
  | .pump pending => s.handleTaskbarCreated pending
  | .command o command => (s.handleTrayCommand o command).2.2
  | .attempt create update =>
    if s.controller.isNone && due then s.tryCreateTrayController create update else s

theorem applyOrReset_tray (o : UpdateCalls) (s : RetryState) :
    (s.applyOrReset clock o).2.tray = (s.tray.applyOrReset o).2 := by
  unfold RetryState.applyOrReset TrayThreadState.applyOrReset
  generalize s.tray.applyCurrentTrayState o = applied
  obtain ⟨result, tray⟩ := applied
  cases result with
  | error error =>
    obtain ⟨waitingSince, lastWarningAt, reads, heq, -, -⟩ :=
      RetryState.resetTrayController_eq clock ({ s with tray }.log .updateFailed)
    dsimp only
    rw [heq]
    rfl
  | ok _ => rfl

theorem warnIfDue_tray (s : RetryState) : (s.warnIfDue clock).tray = s.tray := by
  rcases s.warnIfDue_cases clock with ⟨reads, -, heq⟩ | ⟨lastWarningAt, -, -, heq⟩ <;> rw [heq]

/-- The timers only decide when the thread tries again. -/
theorem retryStep_tray (s : RetryState) (a : RetryAct) :
    ∃ due, (retryStep clock s a).tray = s.tray.threadStep due a := by
  cases a with
  | pump pending =>
    refine ⟨true, ?_⟩
    cases pending with
    | false => rfl
    | true =>
      obtain ⟨waitingSince, lastWarningAt, reads, heq, -, -⟩ :=
        RetryState.resetTrayController_eq clock (s.log .reinitializeRequested)
      simp only [retryStep, RetryState.handleTaskbarCreated, if_true]
      rw [heq]
      rfl
  | command o command =>
    refine ⟨true, ?_⟩
    cases command with
    | setMode mode ticket => exact applyOrReset_tray o _
    | setAutostart enabled => exact applyOrReset_tray o _
    | shutdown => rfl
  | attempt create update =>
    cases hnone : s.tray.controller.isNone with
    | false => exact ⟨true, by simp [retryStep, TrayThreadState.threadStep, hnone]⟩
    | true =>
      obtain ⟨waitingSince, lastWarningAt, reads, -, -, heq⟩ :=
        s.attemptTrayCreation_eq clock create update
      refine ⟨decide (s.nextRetryAt ≤ clock reads), ?_⟩
      simp only [retryStep, hnone, if_true, heq, warnIfDue_tray, TrayThreadState.threadStep,
        Bool.true_and, decide_eq_true_eq]
      split
      · rcases RetryState.tryCreateTrayController_cases clock create update
          { s with waitingSince, lastWarningAt, reads := reads + 1 } with
          ⟨hfails, hsame⟩ | ⟨controller, waiting, reads', logged, -, -, hcreated, hcreates⟩
        · rw [hfails]
          refine Eq.trans ?_ hsame.symm
          rcases (RetryState.attempting clock
            { s with waitingSince, lastWarningAt, reads := reads + 1 }
            ).logTrayCreationFailure_cases with ⟨-, hlog⟩ | ⟨-, hlog⟩ <;> rw [hlog] <;> rfl
        · rw [hcreates]
          exact hcreated.symm
      · rfl

/-! ## Results -/

/-- **The thread does not hammer Explorer.** In every run, whatever fails: if the thread does not
begin anew between them, two attempts are two seconds apart, and no two failures are reported; and
after a tray was created there is neither an attempt nor a report nor a warning until it begins
anew. -/
theorem retry_discipline (hclock : Monotone clock) (visibility : TrayVisibility)
    (initialMode : BlockerMode) (as : List RetryAct) :
    Separated Follows IsReset
      (as.foldl (retryStep clock) (.start clock visibility initialMode)).history :=
  (inv_of_foldl (I := Kept clock) (fun _ a hs => hs.step hclock a)
    (kept_start clock visibility initialMode)).disciplined.apart

/-- Explorer is not there, then restarts, and takes the icon. -/
def lateExplorer : List RetryAct :=
  let refused : RetryAct :=
    .attempt { CreateCalls.succeed with build := .error "Shell_NotifyIcon" } .succeed
  [.pump false, refused, refused, refused, .pump true, .attempt .succeed .succeed,
    .attempt .succeed .succeed]

/-- A clock that stands still for 20 seconds after each reading. -/
def slowClock (k : Nat) : Nat := k * 20000000000

theorem slowClock_mono : Monotone slowClock := fun _ _ h => Nat.mul_le_mul_right _ h

theorem lateExplorer_disciplined :
    ∃ history,
      (lateExplorer.foldl (retryStep slowClock) (.start slowClock .visible .block)).history =
        history ∧
      history.length = 11 ∧ Separated Follows IsReset history :=
  ⟨_, rfl, by decide, retry_discipline slowClock_mono .visible .block lateExplorer⟩

/-- **Warnings are rare.** In every run the thread says at most every half minute that it waits for
Explorer, even if Explorer restarts or a tray is created and lost meanwhile. -/
theorem warnings_spaced (hclock : Monotone clock) (visibility : TrayVisibility)
    (initialMode : BlockerMode) {as : List RetryAct} {pre mid post : List TrayRecord} {a b : Nat}
    (h : (as.foldl (retryStep clock) (.start clock visibility initialMode)).history = pre ++
      .retrying a :: mid ++ .retrying b :: post) :
    a + trayUnavailableWarningInterval ≤ b := by
  have hkept : Kept clock (as.foldl (retryStep clock) (.start clock visibility initialMode)) :=
    inv_of_foldl (fun _ a hs => hs.step hclock a) (kept_start clock visibility initialMode)
  rcases hkept.warned.apart pre _ mid _ post h with ⟨-, -, hfalse⟩ | happart
  · exact hfalse.elim
  · exact happart

theorem lateExplorer_warned :
    ∃ pre a mid b post,
      (lateExplorer.foldl (retryStep slowClock) (.start slowClock .visible .block)).history =
        pre ++ .retrying a :: mid ++ .retrying b :: post ∧
          a + trayUnavailableWarningInterval ≤ b := by
  have h : (lateExplorer.foldl (retryStep slowClock) (.start slowClock .visible .block)).history =
      [.attempted 80000000000, .creationFailed] ++ .retrying 100000000000 ::
        [.attempted 160000000000] ++
        .retrying 180000000000 :: [.attempted 240000000000, .retrying 260000000000,
          .reinitializeRequested, .attempted 340000000000, .created, .initialized] := by decide
  exact ⟨_, _, _, _, _, h, warnings_spaced slowClock_mono .visible .block h⟩

end Tray

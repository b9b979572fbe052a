import Mathlib.Logic.Function.Basic
import Wardoff.Machine.Attempts
import Wardoff.Machine.Run

/-!
# The single-instance mutex (`src/instance.rs`)

Any number of processes claim the named mutex of their session. The mutex exists as long as some
process has a handle to it. `CreateMutexExW` opens the mutex or creates it, and says which; a claim
whose call created it keeps the handle (`InstanceGuard`), any other claim closes its handle again
and ends as Secondary. Where the call is denied, `OpenMutexW` tells whether the mutex exists.

`step` is one call of one process, with what follows it up to the process's next call. A process may
end at any time; Windows then closes its handles. `claimPrimaryInstanceWithRetry` is the loop of a
claim by itself, given the outcomes of its probes.
-/

namespace Instance

inductive ClaimDisposition where
  | primary
  | secondary
  deriving DecidableEq, Repr

def classifyCreateClaim (alreadyExists : Bool) : ClaimDisposition :=
  if alreadyExists then .secondary else .primary

def classifyAccessDeniedProbe (mutexName createError : String) (openResult : Except String Unit) :
    Except String ClaimDisposition :=
  match openResult with
  | .ok () => .ok .secondary
  | .error openError =>
    .error s!"Wardoff could not create or open its single-instance mutex ({mutexName}). The environment or an existing owner may be restricting access. CreateMutexExW: {createError}; OpenMutexW probe: {openError}"

/-- What a process is doing about the mutex. -/
inductive Pc where
  /-- Has made no claim, or has dropped its guard. -/
  | idle
  /-- About to call `CreateMutexExW`, with so many attempts left after this one. -/
  | creating (left : Nat)
  /-- The call was denied; about to call `OpenMutexW`. -/
  | probing (left : Nat) (createError : String)
  /-- Has found the mutex, and is about to close the handle it got. -/
  | closing (left : Nat)
  /-- Between two attempts. -/
  | sleeping (left : Nat)
  /-- The claim has returned a guard, which is alive. -/
  | primary
  /-- The claim has returned Secondary. -/
  | secondary
  /-- The claim has returned an error. -/
  | failed (message : String)
  deriving DecidableEq, Repr

/-- What `claim_primary_instance_with_retry` does when an attempt was Secondary. -/
def Pc.afterSecondary : (left : Nat) → Pc
  | 0 => .secondary
  | left + 1 => .sleeping left

structure St where
  /-- The owners of the open handles to the mutex. -/
  handles : List Nat := []
  procs : Nat → Pc := fun _ => .idle
  /-- The owners of those temporary handles that were open when a guard was last dropped and still
  are (a ghost field). -/
  stale : List Nat := []

/-- The mutex exists. -/
def St.mutexExists (s : St) : Bool := !s.handles.isEmpty

/-- The outcome of `CreateMutexExW`, apart from whether the mutex existed. -/
inductive CreateResult where
  | handle
  | denied (error : String)
  | failed (error : String)
  deriving DecidableEq, Repr

inductive ProcAct where
  /-- `claim_primary_instance_with_retry`; `claim_primary_instance` is a claim of one attempt. -/
  | start (attempts : Nat)
  /-- `current_mutex_name` fails. -/
  | nameFails (error : String)
  | create (result : CreateResult)
  | openProbe (result : Except String Unit)
  | close
  /-- The end of the sleep between two attempts. -/
  | wake
  | dropGuard
  /-- The process ends. -/
  | exit

/-- The process `p` opens a handle and goes on as `pc`. -/
def St.opened (s : St) (p : Nat) (pc : Pc) : St :=
  { s with handles := s.handles ++ [p], procs := Function.update s.procs p pc }

/-- The process `p` goes on as `pc`. -/
def St.goto (s : St) (p : Nat) (pc : Pc) : St := { s with procs := Function.update s.procs p pc }

def step (mutexName : String) (s : St) : Nat × ProcAct → Option St
  | (p, .start attempts) =>
    match s.procs p with
    | .idle => some (s.goto p (.creating (max attempts 1 - 1)))
    | .secondary => some (s.goto p (.creating (max attempts 1 - 1)))
    | .failed _ => some (s.goto p (.creating (max attempts 1 - 1)))
    | _ => none
  | (p, .nameFails error) =>
    match s.procs p with
    | .creating _ => some (s.goto p (.failed error))
    | _ => none
  | (p, .create result) =>
    match s.procs p with
    | .creating left =>
      match result with
      | .handle =>
        match classifyCreateClaim s.mutexExists with
        | .primary => some (s.opened p .primary)
        | .secondary => some (s.opened p (.closing left))
      | .denied error => some (s.goto p (.probing left error))
      | .failed error =>
        some (s.goto p (.failed
          s!"Wardoff could not create or open its single-instance mutex ({mutexName}): {error}"))
    | _ => none
  | (p, .openProbe result) =>
    match s.procs p with
    | .probing left createError =>
      -- a mutex that does not exist cannot be opened
      if result.isOk && !s.mutexExists then none
      else match classifyAccessDeniedProbe mutexName createError result with
        | .ok .secondary => some (s.opened p (.closing left))
        | .ok .primary => none
        | .error message => some (s.goto p (.failed message))
    | _ => none
  | (p, .close) =>
    match s.procs p with
    | .closing left =>
      some { s with
        handles := s.handles.erase p
        procs := Function.update s.procs p (.afterSecondary left)
        stale := s.stale.filter (· != p) }
    | _ => none
  | (p, .wake) =>
    match s.procs p with
    | .sleeping left => some (s.goto p (.creating left))
    | _ => none
  | (p, .dropGuard) =>
    match s.procs p with
    | .primary =>
      some { handles := s.handles.erase p
             procs := Function.update s.procs p .idle
             stale := s.handles.filter (· != p) }
    | _ => none
  | (p, .exit) =>
    some { handles := s.handles.filter (· != p)
           procs := Function.update s.procs p .idle
           stale := (if s.procs p = .primary then s.handles else s.stale).filter (· != p) }

/-! ## The loop of a claim -/

/-- The sum of two `usize`, if it is one; `usize` has 64 bits. -/
def usizeAdd (a b : Nat) : Option Nat := if a + b < UInt64.size then some (a + b) else none

/-- How `claim_primary_instance_with_retry` ends. -/
inductive RetryExit where
  | returned (claim : Except String ClaimDisposition)
  /-- `attempt + 1` overflows. -/
  | overflowed

/-- Whether the loop returns after this claim; otherwise it sleeps. -/
def claimSettles (attempts attempt : Nat) : Except String ClaimDisposition → Option RetryExit
  | .error message => some (.returned (.error message))
  | .ok .primary => some (.returned (.ok .primary))
  | .ok .secondary =>
    match usizeAdd attempt 1 with
    | none => some .overflowed
    | some next => if next = attempts then some (.returned (.ok .secondary)) else none

/-- The result is `none` where the loop runs out, and the `unreachable!` after it is reached. -/
def claimPrimaryInstanceWithRetry (attempts : UInt64)
    (claims : Nat → Except String ClaimDisposition) :
    Option RetryExit × List (Machine.Trial (Except String ClaimDisposition)) :=
  let attempts := max attempts.toNat 1
  Machine.retry (claimSettles attempts) claims attempts

end Instance

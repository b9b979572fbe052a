import Wardoff.Ipc.System

/-!
# The deadline of a request's read (`read_request_until_deadline` of `src/ipc.rs`)

The control worker polls its pipe: it sleeps after a `ReadFile` that finds no data, and asks before
each one whether the deadline has passed. `step` leaves the time open. `timedStep` counts what the
worker has slept since it set the deadline: a client that sends nothing keeps it only until its
sleeps add up to the timeout. Time passes elsewhere too, so that the deadline may have passed in any
iteration.
-/

namespace Ipc

/-- `REQUEST_READ_TIMEOUT`, in milliseconds. -/
def requestReadTimeout : Nat := 1000

/-- `REQUEST_READ_POLL_DELAY`. -/
def requestReadPollDelay : Nat := 10

structure TimedSt (Handle : Type) where
  sys : St Handle
  /-- How long the control worker has slept, at least, since it set the deadline. -/
  slept : Nat := 0

/-- The outcome may be met: but for `.timedOut` it takes `Instant::now() < deadline`. -/
def ReadOutcome.inTime (slept : Nat) : ReadOutcome → Bool
  | .timedOut => true
  | _ => slept < requestReadTimeout

variable {Handle : Type}

def Act.inTime (slept : Nat) : Act Handle → Bool
  | .control (.read outcome _) => outcome.inTime slept
  | _ => true

/-- What the worker has slept after the step. The deadline is set right after its reads are
bounded. -/
def Act.sleeps (slept : Nat) : Act Handle → Nat
  | .control (.bound _) => 0
  | .control (.read .noData _) => slept + min requestReadPollDelay (requestReadTimeout - slept)
  | _ => slept

def timedStep (J : Json) (s : TimedSt Handle) (a : Act Handle) : Option (TimedSt Handle) :=
  if a.inTime s.slept then (step J s.sys a).map fun sys => { sys, slept := a.sleeps s.slept }
  else none

end Ipc

import Wardoff.Machine.Ledger

/-!
# The idle-power requests (`src/blocker/sleep.rs`)

`PowerRequests` owns one power-request object and two requests on it; `SleepBlocker` is the layer
the coordinator sees. The Win32 boundary is the source's `trait PowerApi`: a value of `PowerApi` is
what each call answers during one operation. An operation makes no call twice with the same
arguments, so a value per operation covers every pattern of successes and failures.

The calls made through the boundary are kept in `PowerRequests.calls`, in order. Log records are
left out.
-/

namespace Blocker

open Machine.Ledger (Call)

/-- The kinds of power request Wardoff holds (`POWER_REQUEST_TYPE`). -/
inductive PowerRequestType where
  | systemRequired
  | displayRequired
  deriving DecidableEq, Repr

/-- `REQUEST_TYPES`. -/
def requestTypes : List PowerRequestType := [.systemRequired, .displayRequired]

/-- What each call of the Win32 boundary answers during one operation (`trait PowerApi`). -/
structure PowerApi (Handle : Type) where
  create : Except String Handle
  set : Handle → PowerRequestType → Except String Unit
  clear : Handle → PowerRequestType → Except String Unit
  close : Handle → Except String Unit

/-- The owned request object and which of `requestTypes` were acquired on it. -/
structure PowerRequests (Handle : Type) where
  calls : List (Call Handle PowerRequestType) := []
  handle : Option Handle := none
  acquired : List Bool := [false, false]

namespace PowerRequests

variable {Handle : Type}

def isActive (r : PowerRequests Handle) : Bool := r.handle.isSome && r.acquired.all id

/-- A call was made. -/
def record (r : PowerRequests Handle) (c : Call Handle PowerRequestType) : PowerRequests Handle :=
  { r with calls := r.calls ++ [c] }

/-- Gives the handle up without clearing its requests. -/
def close (api : PowerApi Handle) (r : PowerRequests Handle) :
    Except String Unit × PowerRequests Handle :=
  let r := { r with acquired := [false, false] }
  match r.handle with
  | some handle =>
    (api.close handle, { r with handle := none }.record (.close handle (api.close handle).isOk))
  | none => (.ok (), r)

/-- The loop of `release`: clears the acquired requests and collects the errors. -/
def clearAcquired (api : PowerApi Handle) (handle : Handle) :
    List (PowerRequestType × Bool) → PowerRequests Handle → List String × PowerRequests Handle
  | [], r => ([], r)
  | (kind, acquired) :: rest, r =>
    if acquired then
      let (errors, r') :=
        clearAcquired api handle rest (r.record (.clear handle kind (api.clear handle kind).isOk))
      match api.clear handle kind with
      | .ok () => (errors, r')
      | .error error => (error :: errors, r')
    else clearAcquired api handle rest r

/-- Clears what was acquired and closes the handle, whatever fails on the way. -/
def release (api : PowerApi Handle) (r : PowerRequests Handle) :
    Except String Unit × PowerRequests Handle :=
  let (errors, r) := match r.handle with
    | some handle => clearAcquired api handle (requestTypes.zip r.acquired) r
    | none => ([], r)
  let (closed, r) := r.close api
  let errors := match closed with
    | .ok () => errors
    | .error error => errors ++ [error]
  if errors.isEmpty then (.ok (), r) else (.error ("; ".intercalate errors), r)

/-- The loop of `activate`: sets each request, and releases what was acquired when one fails. -/
def setRequests (api : PowerApi Handle) (handle : Handle) :
    List (PowerRequestType × Nat) → PowerRequests Handle →
      Except String Unit × PowerRequests Handle
  | [], r => (.ok (), r)
  | (kind, index) :: rest, r =>
    let r := r.record (.set handle kind (api.set handle kind).isOk)
    match api.set handle kind with
    | .error error =>
      match r.release api with
      | (.ok (), r) => (.error error, r)
      | (.error cleanupError, r) => (.error s!"{error}; cleanup: {cleanupError}", r)
    | .ok () => setRequests api handle rest { r with acquired := r.acquired.set index true }

def activate (api : PowerApi Handle) (r : PowerRequests Handle) :
    Except String Unit × PowerRequests Handle :=
  if r.isActive then (.ok (), r)
  else
    let r := r.record (.create api.create.toOption)
    match api.create with
    | .error error => (.error error, r)
    | .ok handle => setRequests api handle requestTypes.zipIdx { r with handle := some handle }

end PowerRequests

/-- The sleep layer: the owner of the idle-sleep and display-timeout requests. -/
structure SleepBlocker (Handle : Type) where
  requests : PowerRequests Handle := {}

namespace SleepBlocker

variable {Handle : Type}

def isActive (b : SleepBlocker Handle) : Bool := b.requests.isActive

def activate (api : PowerApi Handle) (b : SleepBlocker Handle) :
    Except String Unit × SleepBlocker Handle :=
  if b.isActive then (.ok (), b)
  else
    let (result, requests) := b.requests.activate api
    (result, { b with requests })

def deactivate (api : PowerApi Handle) (b : SleepBlocker Handle) : SleepBlocker Handle :=
  if b.requests.handle.isNone then b
  else { b with requests := (b.requests.release api).2 }

def beginForcedShutdownCleanup (api : PowerApi Handle) (b : SleepBlocker Handle) :
    SleepBlocker Handle :=
  b.deactivate api

/-- Replaces the request object after a resume: the old one is closed, not cleared. -/
def renewAfterResume (api : PowerApi Handle) (b : SleepBlocker Handle) :
    Except String Unit × SleepBlocker Handle :=
  match b.requests.close api with
  | (.error error, requests) => (.error error, { b with requests })
  | (.ok (), requests) => activate api { b with requests }

/-- The two nested `Drop` implementations: `SleepBlocker`'s, then its field's. -/
def drop (api : PowerApi Handle) (b : SleepBlocker Handle) : SleepBlocker Handle :=
  let b := b.deactivate api
  { b with requests := (b.requests.release api).2 }

end SleepBlocker

/-! ## Runs of the layer -/

/-- The operations the coordinator performs on the layer. -/
inductive SleepOp where
  | activate
  | deactivate
  | renewAfterResume
  | beginForcedShutdownCleanup
  deriving DecidableEq, Repr

/-- The outcomes of the Win32 calls of one operation. -/
structure PowerAnswers where
  create : Except String Unit
  set : Nat → PowerRequestType → Except String Unit
  clear : Nat → PowerRequestType → Except String Unit
  close : Nat → Except String Unit

/-- Every call succeeds. -/
def PowerAnswers.succeed : PowerAnswers :=
  ⟨.ok (), fun _ _ => .ok (), fun _ _ => .ok (), fun _ => .ok ()⟩

/-- The boundary during one operation. Objects are told apart by the order of their creation: a
create that succeeds returns the number of objects created before it. -/
def PowerAnswers.api (o : PowerAnswers) (b : SleepBlocker Nat) : PowerApi Nat where
  create := o.create.map fun _ => (Machine.Ledger.createdBy b.requests.calls).length
  set := o.set
  clear := o.clear
  close := o.close

/-- One operation: its result and the layer after it. -/
def SleepOp.run (b : SleepBlocker Nat) (op : SleepOp) (o : PowerAnswers) :
    Except String Unit × SleepBlocker Nat :=
  match op with
  | .activate => b.activate (o.api b)
  | .deactivate => (.ok (), b.deactivate (o.api b))
  | .renewAfterResume => b.renewAfterResume (o.api b)
  | .beginForcedShutdownCleanup => (.ok (), b.beginForcedShutdownCleanup (o.api b))

/-- The layer after a sequence of operations on a new one. -/
def runSleepOps (ops : List (SleepOp × PowerAnswers)) : SleepBlocker Nat :=
  ops.foldl (fun b p => (p.1.run b p.2).2) {}

end Blocker

import Wardoff.Machine.Ledger

/-!
# Holding one object at a time

An operating system gives out a handle again once the object is closed, so that the handles of two
objects may be equal. `holding` is the protocol of a program that holds at most one object at a
time, without a condition on the handles: an object is created only while none is held, and every
other call names the one that is held.

* `held_record`: one more call.
* `created_eq_closed`: an accepted list of calls has closed what it has created, but the object it
  still holds.
-/

namespace Machine.Ledger

variable {H K : Type}

/-- The object that was created, if the call is a successful create. -/
def Call.creates : Call H K → Bool
  | .create (some _) => true
  | _ => false

def Call.closes : Call H K → Bool
  | .close _ _ => true
  | _ => false

variable [DecidableEq H]

/-- The protocol of a program that holds at most one object. -/
def holding (held : Option H) : Call H K → Option (Option H)
  | .create handle => if held.isNone then some handle else none
  | .set handle _ _ => if held = some handle then some held else none
  | .clear handle _ _ => if held = some handle then some held else none
  | .close handle _ => if held = some handle then some none else none

variable {held held' : Option H} {calls : List (Call H K)}

theorem held_record {c : Call H K} {held'' : Option H} (h : exec holding held calls = some held')
    (hc : holding held' c = some held'') : exec holding held (calls ++ [c]) = some held'' := by
  rw [exec_append, h]
  simp [exec, hc]

/-- What was created was closed once, or is still held. -/
theorem created_eq_closed (h : exec holding held calls = some held') :
    calls.countP Call.creates + held.toList.length =
      calls.countP Call.closes + held'.toList.length := by
  induction calls generalizing held with
  | nil =>
    cases h
    rfl
  | cons c calls ih =>
    obtain ⟨mid, hmid, hr⟩ := exec_cons_eq_some h
    have hrest := ih hr
    rw [List.countP_cons, List.countP_cons]
    cases c with
    | create handle =>
      simp only [holding, Option.ite_none_right_eq_some, Option.some.injEq,
        Option.isNone_iff_eq_none] at hmid
      obtain ⟨rfl, rfl⟩ := hmid
      cases handle <;> simp [Call.creates, Call.closes] at hrest ⊢ <;> omega
    | set handle kind ok | clear handle kind ok =>
      simp only [holding, Option.ite_none_right_eq_some, Option.some.injEq] at hmid
      obtain ⟨rfl, rfl⟩ := hmid
      simp [Call.creates, Call.closes] at hrest ⊢
      omega
    | close handle ok =>
      simp only [holding, Option.ite_none_right_eq_some, Option.some.injEq] at hmid
      obtain ⟨rfl, rfl⟩ := hmid
      simp [Call.creates, Call.closes] at hrest ⊢
      omega

end Machine.Ledger

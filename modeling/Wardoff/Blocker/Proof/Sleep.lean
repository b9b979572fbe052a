import Wardoff.Blocker.Sleep

/-!
# Ownership of the power requests

The calls `PowerRequests` makes follow the protocol of an owner of at most one object
(`Machine.Ledger.accept`). `Idle r created` and `Holds r created h a b` relate the fields of the
code to the state of that protocol: nothing is owned, or `h` is owned with the requests `a`, `b`
acquired. Between operations a blocker is `Settled`: idle, or holding a handle with both requests.

* `Holds.release`, `Holds.close`: giving a handle up leaves nothing owned, whatever fails.
* `Idle.activate`: acquisition is all or nothing.
* `settled_run`: every sequence of operations leaves the blocker settled; the ledger's results about
  accepted calls then apply to everything it ever did.
-/

namespace Blocker

open Machine Machine.Ledger

/-! ## Handle and flags -/

section
variable {Handle : Type}

/-- No handle and no request. -/
def Released (r : PowerRequests Handle) : Prop := r.handle = none ∧ r.acquired = [false, false]

/-- Both requests on a handle, or nothing. -/
def Whole (b : SleepBlocker Handle) : Prop := b.isActive = true ∨ Released b.requests

variable {r : PowerRequests Handle} {b : SleepBlocker Handle} (api : PowerApi Handle)

theorem close_released : Released (r.close api).2 := by
  simp only [PowerRequests.close]
  split
  · exact ⟨rfl, rfl⟩
  · exact ⟨‹_›, rfl⟩

/-- The state `release` leaves: that of its loop, closed. -/
theorem release_snd : (r.release api).2 =
    ((match r.handle with
      | some h => (PowerRequests.clearAcquired api h (requestTypes.zip r.acquired) r).2
      | none => r).close api).2 := by
  cases hh : r.handle <;> simp only [PowerRequests.release, hh] <;> split <;> split <;> rfl

/-- Releasing leaves no handle, whichever calls fail. -/
theorem release_released : Released (r.release api).2 := by
  rw [release_snd]
  exact close_released api

section
variable {h : Handle} {kind : PowerRequestType} {index : Nat} {rest : List (PowerRequestType × Nat)}

theorem setRequests_ok (hs : api.set h kind = .ok ()) :
    PowerRequests.setRequests api h ((kind, index) :: rest) r =
      PowerRequests.setRequests api h rest
        { r.record (.set h kind true) with acquired := r.acquired.set index true } := by
  simp [PowerRequests.setRequests, hs, Except.isOk, Except.toBool, PowerRequests.record]

/-- A failed request gives everything up. -/
theorem setRequests_error (r : PowerRequests Handle) (index : Nat)
    (rest : List (PowerRequestType × Nat)) {error : String}
    (hs : api.set h kind = .error error) :
    (PowerRequests.setRequests api h ((kind, index) :: rest) r).1 ≠ .ok () ∧
      (PowerRequests.setRequests api h ((kind, index) :: rest) r).2 =
        ((r.record (.set h kind false)).release api).2 := by
  simp only [PowerRequests.setRequests, hs, Except.isOk, Except.toBool]
  split <;> simp_all

end

theorem setRequests_whole {h : Handle} (hh : r.handle = some h) (ha : r.acquired = [false, false]) :
    ((PowerRequests.setRequests api h requestTypes.zipIdx r).1 = .ok () ∧
      (PowerRequests.setRequests api h requestTypes.zipIdx r).2.isActive = true) ∨
    ((PowerRequests.setRequests api h requestTypes.zipIdx r).1 ≠ .ok () ∧
      Released (PowerRequests.setRequests api h requestTypes.zipIdx r).2) := by
  simp only [requestTypes, List.zipIdx_cons, List.zipIdx_nil]
  cases hs₁ : api.set h .systemRequired with
  | error e =>
    obtain ⟨hne, hrel⟩ := setRequests_error api r 0 [(.displayRequired, 0 + 1)] hs₁
    exact .inr ⟨hne, hrel ▸ release_released api⟩
  | ok u =>
    rw [setRequests_ok api hs₁]
    cases hs₂ : api.set h .displayRequired with
    | error e =>
      obtain ⟨hne, hrel⟩ := setRequests_error api _ (0 + 1) [] hs₂
      exact .inr ⟨hne, hrel ▸ release_released api⟩
    | ok u =>
      rw [setRequests_ok api hs₂]
      exact .inl ⟨rfl, by simp [PowerRequests.setRequests, PowerRequests.isActive,
        PowerRequests.record, hh, ha]⟩

/-- Acquisition from nothing: both requests, or nothing. -/
theorem activate_released (hr : Released b.requests) :
    ((b.activate api).1 = .ok () ∧ (b.activate api).2.isActive = true) ∨
    ((b.activate api).1 ≠ .ok () ∧ Released (b.activate api).2.requests) := by
  have hna : b.requests.isActive = false := by simp [PowerRequests.isActive, hr.1]
  simp only [SleepBlocker.activate, SleepBlocker.isActive, hna, PowerRequests.activate,
    Bool.false_eq_true, if_false]
  cases api.create with
  | error e => exact .inr ⟨by simp, hr⟩
  | ok h => exact setRequests_whole api rfl hr.2

theorem activate_whole (hb : Whole b) :
    ((b.activate api).1 = .ok () ∧ (b.activate api).2.isActive = true) ∨
    ((b.activate api).1 ≠ .ok () ∧ Released (b.activate api).2.requests) := by
  rcases hb with ha | hr
  · exact .inl (by simp [SleepBlocker.activate, ha])
  · exact activate_released api hr

theorem deactivate_released (hb : Whole b) : Released (b.deactivate api).requests := by
  unfold SleepBlocker.deactivate
  split
  · rcases hb with ha | hr
    · simp_all [SleepBlocker.isActive, PowerRequests.isActive]
    · exact hr
  · exact release_released api

/-- A renewal reacquires both requests on a new object, or leaves nothing. -/
theorem renewAfterResume_whole :
    ((b.renewAfterResume api).1 = .ok () ∧ (b.renewAfterResume api).2.isActive = true) ∨
    ((b.renewAfterResume api).1 ≠ .ok () ∧ Released (b.renewAfterResume api).2.requests) := by
  have hcl := close_released (r := b.requests) api
  unfold SleepBlocker.renewAfterResume
  split
  · rename_i hc
    rw [hc] at hcl
    exact .inr ⟨by simp, hcl⟩
  · rename_i hc
    rw [hc] at hcl
    exact activate_released api (b := { b with requests := _ }) hcl

/-- A renewal none of whose calls fails reacquires both requests. -/
theorem renewAfterResume_active
    (hclose : ∀ handle, b.requests.handle = some handle → api.close handle = .ok ())
    (hnew : ∃ handle, api.create = .ok handle ∧ ∀ kind, api.set handle kind = .ok ()) :
    (b.renewAfterResume api).2.isActive = true := by
  obtain ⟨handle, hcreate, hset⟩ := hnew
  have hcl : (b.requests.close api).1 = .ok () := by
    cases hh : b.requests.handle with
    | none => simp [PowerRequests.close, hh]
    | some old => simp [PowerRequests.close, hh, hclose old hh]
  rcases renewAfterResume_whole (b := b) api with h | ⟨hne, -⟩
  · exact h.2
  · refine absurd ?_ hne
    have hrel := close_released (r := b.requests) api
    generalize hq : b.requests.close api = q at hcl hrel
    obtain ⟨result, requests⟩ := q
    obtain rfl : result = .ok () := hcl
    have hhandle : requests.handle = none := hrel.1
    have hna : requests.isActive = false := by simp [PowerRequests.isActive, hhandle]
    simp [SleepBlocker.renewAfterResume, hq, SleepBlocker.activate, SleepBlocker.isActive, hna,
      PowerRequests.activate, hcreate, requestTypes, setRequests_ok, hset,
      PowerRequests.setRequests]

end

variable {Handle : Type} [DecidableEq Handle]

/-- The requests set on an object whose system and display requests are `a` and `b`. -/
def setOf (a b : Bool) : PowerRequestType → Bool
  | .systemRequired => a
  | .displayRequired => b

theorem setOf_system (a b ok : Bool) :
    (fun k => if k = .systemRequired then ok else setOf a b k) = setOf ok b := by
  funext k
  cases k <;> rfl

theorem setOf_display (a b ok : Bool) :
    (fun k => if k = .displayRequired then ok else setOf a b k) = setOf a ok := by
  funext k
  cases k <;> rfl

/-- Nothing is owned. -/
structure Idle (r : PowerRequests Handle) (created : List Handle) : Prop where
  handle : r.handle = none
  acquired : r.acquired = [false, false]
  calls : exec accept State.init r.calls = some ⟨created, none⟩

/-- `h` is owned, with the system and display requests `a` and `b` acquired on it. -/
structure Holds (r : PowerRequests Handle) (created : List Handle) (h : Handle) (a b : Bool) :
    Prop where
  handle : r.handle = some h
  acquired : r.acquired = [a, b]
  calls : exec accept State.init r.calls = some ⟨created, some ⟨h, setOf a b, fun _ => false⟩⟩

/-- The protocol's state after one more call. -/
theorem exec_record {r : PowerRequests Handle} {c : Call Handle PowerRequestType}
    {s : State Handle PowerRequestType} (h : exec accept State.init r.calls = some s) :
    exec accept State.init (r.record c).calls = accept s c := by
  simp only [PowerRequests.record, exec_append, h, Option.bind_some]
  cases hc : accept s c <;> simp [exec, hc]

/-! ## Giving a handle up -/

section
variable {r : PowerRequests Handle} {created : List Handle} {h : Handle} {a b : Bool}
  (api : PowerApi Handle)

/-- Closing the owned object, whatever was cleared on it before. -/
theorem close_of_owned {o : Owned Handle PowerRequestType} (hh : r.handle = some o.handle)
    (hc : exec accept State.init r.calls = some ⟨created, some o⟩) :
    Idle (r.close api).2 created := by
  refine ⟨by simp [PowerRequests.close, hh, PowerRequests.record],
    by simp [PowerRequests.close, hh, PowerRequests.record], ?_⟩
  simp only [PowerRequests.close, hh]
  show exec accept State.init (r.record (.close o.handle (api.close o.handle).isOk)).calls = _
  rw [exec_record hc]
  simp [accept]

theorem Holds.close (hr : Holds r created h a b) : Idle (r.close api).2 created :=
  close_of_owned api (o := ⟨h, setOf a b, fun _ => false⟩) hr.handle hr.calls

/-- The loop of `release` over requests that are set and not yet cleared keeps the object owned. -/
theorem clearAcquired_owned :
    ∀ (kinds : List (PowerRequestType × Bool)) {r : PowerRequests Handle}
      {o : Owned Handle PowerRequestType},
      (kinds.map (·.1)).Nodup → r.handle = some o.handle →
      exec accept State.init r.calls = some ⟨created, some o⟩ →
      (∀ p ∈ kinds, o.isSet p.1 = p.2 ∧ o.cleared p.1 = false) →
      ∃ o' : Owned Handle PowerRequestType, o'.handle = o.handle ∧
        (PowerRequests.clearAcquired api o.handle kinds r).2.handle = some o'.handle ∧
        exec accept State.init (PowerRequests.clearAcquired api o.handle kinds r).2.calls =
          some ⟨created, some o'⟩
  | [], _, o, _, hh, hc, _ => ⟨o, rfl, hh, hc⟩
  | (kind, acquired) :: rest, r, o, hnd, hh, hc, hk => by
    obtain ⟨hs, hcl⟩ := hk (kind, acquired) (by simp)
    simp only [List.map_cons, List.nodup_cons] at hnd
    cases acquired with
    | false => exact clearAcquired_owned rest hnd.2 hh hc fun p hp => hk p (by simp [hp])
    | true =>
      let o₁ : Owned Handle PowerRequestType :=
        { o with cleared := fun k => if k = kind then true else o.cleared k }
      have hc₁ : exec accept State.init
          (r.record (.clear o.handle kind (api.clear o.handle kind).isOk)).calls =
            some ⟨created, some o₁⟩ := by
        rw [exec_record hc]
        simp_all [accept, o₁]
      have hk₁ : ∀ p ∈ rest, o₁.isSet p.1 = p.2 ∧ o₁.cleared p.1 = false := by
        intro p hp
        have hne : p.1 ≠ kind := fun he => hnd.1 (he ▸ List.mem_map_of_mem hp)
        simpa [o₁, hne] using hk p (by simp [hp])
      obtain ⟨o', ho', hh', hc'⟩ := clearAcquired_owned rest
        (r := r.record (.clear o.handle kind (api.clear o.handle kind).isOk)) (o := o₁) hnd.2 hh
        hc₁ hk₁
      refine ⟨o', ho', ?_⟩
      simp only [PowerRequests.clearAcquired, if_true]
      split <;> exact ⟨hh', hc'⟩

/-- **Releasing a handle leaves nothing owned**, whichever clears and closes fail. -/
theorem Holds.release (hr : Holds r created h a b) : Idle (r.release api).2 created := by
  obtain ⟨o', -, hh', hc'⟩ := clearAcquired_owned api (requestTypes.zip r.acquired) (r := r)
    (o := ⟨h, setOf a b, fun _ => false⟩) (by simp [hr.acquired, requestTypes]) hr.handle hr.calls
    (by simp [hr.acquired, requestTypes, setOf])
  rw [release_snd, hr.handle]
  exact close_of_owned api hh' hc'

theorem Idle.release (hr : Idle r created) : (r.release api).2 = r := by
  obtain ⟨calls, handle, acquired⟩ := r
  obtain ⟨rfl, rfl, -⟩ := hr
  rfl

/-! ## Acquiring both requests -/

/-- **Acquisition is all or nothing.** -/
theorem Idle.activate (hr : Idle r created)
    (hfresh : ∀ h, api.create = .ok h → h ∉ created) :
    ((r.activate api).1 = .ok () ∧
      ∃ h, api.create = .ok h ∧ Holds (r.activate api).2 (h :: created) h true true) ∨
    ((r.activate api).1 ≠ .ok () ∧ (Idle (r.activate api).2 created ∨
      ∃ h, api.create = .ok h ∧ Idle (r.activate api).2 (h :: created))) := by
  have hna : r.isActive = false := by simp [PowerRequests.isActive, hr.handle]
  cases hcr : api.create with
  | error error =>
    refine .inr ⟨by simp [PowerRequests.activate, hna, hcr], .inl ?_⟩
    simp only [PowerRequests.activate, hna, hcr, Bool.false_eq_true, if_false]
    refine ⟨hr.handle, hr.acquired, ?_⟩
    rw [exec_record hr.calls]
    simp [accept, Except.toOption]
  | ok h =>
    have hx := hfresh h hcr
    -- the object right after its creation
    let r₀ := { r.record (.create (some h)) with handle := some h }
    have h₀ : Holds r₀ (h :: created) h false false := by
      refine ⟨rfl, hr.acquired, ?_⟩
      show exec accept State.init (r.record (.create (some h))).calls = _
      rw [exec_record hr.calls]
      have hset : (fun _ => false) = setOf false false := by funext k; cases k <;> rfl
      simp [accept, hx, ← hset]
    have hact : r.activate api = PowerRequests.setRequests api h requestTypes.zipIdx r₀ := by
      simp [PowerRequests.activate, hna, hcr, Except.toOption, r₀]
    have hset : ∀ {r : PowerRequests Handle} {a b : Bool} (k : PowerRequestType) (ok : Bool),
        Holds r (h :: created) h a b → setOf a b k = false →
        exec accept State.init (r.record (.set h k ok)).calls = some ⟨h :: created,
          some ⟨h, fun k' => if k' = k then ok else setOf a b k', fun _ => false⟩⟩ := by
      intro r a b k ok hr hk
      rw [exec_record hr.calls]
      simp [accept, hk]
    rw [hact]
    cases hs₁ : api.set h .systemRequired with
    | error error =>
      have hh : Holds (r₀.record (.set h .systemRequired false)) (h :: created) h false false :=
        ⟨rfl, h₀.acquired, by rw [hset _ _ h₀ rfl, setOf_system]⟩
      obtain ⟨he, hrel⟩ := setRequests_error api r₀ 0 [(.displayRequired, 1)] hs₁
      exact .inr ⟨he, .inr ⟨h, rfl, hrel ▸ hh.release api⟩⟩
    | ok u =>
      -- the system request is held, the display request is next
      let r₁ := { r₀.record (.set h .systemRequired true) with acquired := [true, false] }
      have h₁ : Holds r₁ (h :: created) h true false := by
        refine ⟨rfl, rfl, ?_⟩
        show exec accept State.init (r₀.record (.set h .systemRequired true)).calls = _
        rw [hset _ _ h₀ rfl, setOf_system]
      have hstep : PowerRequests.setRequests api h requestTypes.zipIdx r₀ =
          PowerRequests.setRequests api h [(.displayRequired, 1)] r₁ := by
        have hacq : r₀.acquired = [false, false] := hr.acquired
        simp [requestTypes, setRequests_ok api hs₁, r₁, hacq]
      rw [hstep]
      cases hs₂ : api.set h .displayRequired with
      | error error =>
        have hh : Holds (r₁.record (.set h .displayRequired false)) (h :: created) h true false :=
          ⟨rfl, rfl, by rw [hset _ _ h₁ rfl, setOf_display]⟩
        obtain ⟨he, hrel⟩ := setRequests_error api r₁ 1 [] hs₂
        exact .inr ⟨he, .inr ⟨h, rfl, hrel ▸ hh.release api⟩⟩
      | ok u =>
        rw [setRequests_ok api hs₂]
        refine .inl ⟨rfl, h, rfl, rfl, rfl, ?_⟩
        show exec accept State.init (r₁.record (.set h .displayRequired true)).calls = _
        rw [hset _ _ h₁ rfl, setOf_display]

end

/-! ## Operations of the layer -/

/-- Between operations: nothing is owned, or one object with both requests; objects are numbered. -/
def Settled (b : SleepBlocker Nat) : Prop :=
  ∃ created, (∀ x ∈ created, x < created.length) ∧
    (Idle b.requests created ∨ ∃ h, Holds b.requests created h true true)

theorem settled_init : Settled {} := ⟨[], by simp, .inl ⟨rfl, rfl, rfl⟩⟩

section
variable {b : SleepBlocker Nat} {created : List Nat} {o : PowerAnswers} {api : PowerApi Nat}

/-- The number of objects created so far is the length of the protocol's list. -/
theorem createdBy_length {s : State Nat PowerRequestType}
    (h : exec accept State.init b.requests.calls = some s) :
    (createdBy b.requests.calls).length = s.created.length := by
  rw [(account_of_accept h).created, List.length_reverse]

/-- Acquisition from nothing: all or nothing, and the new object has the next number. -/
theorem Idle.settled_activate (hi : Idle b.requests created)
    (hlt : ∀ x ∈ created, x < created.length) (hcr : ∀ h, api.create = .ok h → h = created.length) :
    Settled (b.activate api).2 ∧ ((b.activate api).1 = .ok () →
      ∃ created h, Holds (b.activate api).2.requests created h true true) := by
  have hfresh : ∀ h, api.create = .ok h → h ∉ created := by
    intro h hc hm
    have := hlt h hm
    have := hcr h hc
    omega
  have hnum : ∀ h, api.create = .ok h → ∀ x ∈ h :: created, x < (h :: created).length := by
    intro h hc x hx
    have := hcr h hc
    rcases List.mem_cons.1 hx with rfl | hx
    · simp [this]
    · have := hlt x hx
      simp only [List.length_cons]
      omega
  have hna : b.isActive = false := by
    simp [SleepBlocker.isActive, PowerRequests.isActive, hi.handle]
  simp only [SleepBlocker.activate, hna, Bool.false_eq_true, if_false]
  rcases hi.activate api hfresh with ⟨-, h, hc, hh⟩ | ⟨hne, hi' | ⟨h, hc, hi'⟩⟩
  · exact ⟨⟨_, hnum h hc, .inr ⟨h, hh⟩⟩, fun _ => ⟨_, h, hh⟩⟩
  · exact ⟨⟨_, hlt, .inl hi'⟩, fun he => absurd he hne⟩
  · exact ⟨⟨_, hnum h hc, .inl hi'⟩, fun he => absurd he hne⟩

theorem Idle.deactivate (hi : Idle b.requests created) : b.deactivate api = b := by
  simp [SleepBlocker.deactivate, hi.handle]

theorem Holds.deactivate {h : Nat} {a c : Bool} (hh : Holds b.requests created h a c) :
    Idle (b.deactivate api).requests created := by
  simpa [SleepBlocker.deactivate, hh.handle] using hh.release api

/-- A settled layer is idle after `deactivate`. -/
theorem Settled.deactivate (hb : Settled b) (api : PowerApi Nat) :
    ∃ created, (∀ x ∈ created, x < created.length) ∧ Idle (b.deactivate api).requests created := by
  obtain ⟨created, hlt, hi | ⟨h, hh⟩⟩ := hb
  · exact ⟨created, hlt, by rwa [hi.deactivate]⟩
  · exact ⟨created, hlt, hh.deactivate⟩

/-- What one operation leaves, and what a successful acquisition holds. -/
theorem settled_run (hb : Settled b) (op : SleepOp) (o : PowerAnswers) :
    Settled (op.run b o).2 ∧ ((op = .activate ∨ op = .renewAfterResume) →
      (op.run b o).1 = .ok () → ∃ created h,
        Holds (op.run b o).2.requests created h true true) := by
  have hcr : ∀ {s : State Nat PowerRequestType},
      exec accept State.init b.requests.calls = some s →
      ∀ h, (o.api b).create = .ok h → h = s.created.length := by
    intro s hs h hc
    rw [← createdBy_length hs]
    cases ho : o.create with
    | error e => simp [PowerAnswers.api, ho, Except.map] at hc
    | ok u => simpa [PowerAnswers.api, ho, Except.map, eq_comm] using hc
  have hdown : Settled (b.deactivate (o.api b)) := by
    obtain ⟨created, hlt, hi⟩ := hb.deactivate (o.api b)
    exact ⟨created, hlt, .inl hi⟩
  cases op with
  | deactivate => exact ⟨hdown, by simp⟩
  | beginForcedShutdownCleanup => exact ⟨hdown, by simp⟩
  | activate =>
    obtain ⟨created, hlt, hi | ⟨h, hh⟩⟩ := hb
    · obtain ⟨h1, h2⟩ := hi.settled_activate hlt (hcr hi.calls)
      exact ⟨h1, fun _ => h2⟩
    · have hact : b.isActive = true := by
        simp [SleepBlocker.isActive, PowerRequests.isActive, hh.handle, hh.acquired]
      simp only [SleepOp.run, SleepBlocker.activate, hact, if_true]
      exact ⟨⟨created, hlt, .inr ⟨h, hh⟩⟩, fun _ _ => ⟨created, h, hh⟩⟩
  | renewAfterResume =>
    -- the old object is closed in either case
    obtain ⟨created, hlt, hi, hcr⟩ : ∃ created, (∀ x ∈ created, x < created.length) ∧
        Idle (b.requests.close (o.api b)).2 created ∧
        ∀ h, (o.api b).create = .ok h → h = created.length := by
      obtain ⟨created, hlt, hi | ⟨h, hh⟩⟩ := hb
      · refine ⟨created, hlt, ?_, hcr hi.calls⟩
        have hclose : (b.requests.close (o.api b)).2 = b.requests := by
          obtain ⟨⟨calls, handle, acquired⟩⟩ := b
          obtain ⟨rfl, rfl, -⟩ := hi
          rfl
        rwa [hclose]
      · exact ⟨created, hlt, hh.close _, hcr hh.calls⟩
    cases hcl : (b.requests.close (o.api b)) with
    | mk result requests =>
      rw [hcl] at hi
      cases result with
      | error error =>
        simp only [SleepOp.run, SleepBlocker.renewAfterResume, hcl]
        exact ⟨⟨created, hlt, .inl hi⟩, by simp⟩
      | ok u =>
        simp only [SleepOp.run, SleepBlocker.renewAfterResume, hcl]
        obtain ⟨h1, h2⟩ := Idle.settled_activate (b := { b with requests := requests }) hi hlt hcr
        exact ⟨h1, fun _ => h2⟩

end

theorem settled_runSleepOps (ops : List (SleepOp × PowerAnswers)) : Settled (runSleepOps ops) := by
  unfold runSleepOps
  exact inv_of_foldl (fun _ p hb => (settled_run hb p.1 p.2).1) settled_init

/-! ## Balance -/

/-- The ledger of everything a blocker has done is balanced. -/
structure Balanced (r : PowerRequests Nat) : Prop where
  /-- The handle is present exactly when both requests are marked acquired. -/
  present : r.handle.isSome = true ↔ r.acquired.all id = true
  /-- Every object but the held one was closed exactly once. -/
  closed : ∀ h ∈ createdBy r.calls,
    r.calls.countP (isClose h) = if r.handle = some h then 0 else 1
  /-- A closed object is passed to no further call. -/
  unused : ∀ pre h ok post, r.calls = pre ++ .close h ok :: post → ∀ c ∈ post, c.names h = false
  setOnce : ∀ h k, r.calls.countP (isSetOk h k) ≤ 1
  clearOnce : ∀ h k, r.calls.countP (isClear h k) ≤ 1
  /-- A request is cleared only after it was set on the same object. -/
  clearAfterSet : ∀ pre h k ok post, r.calls = pre ++ .clear h k ok :: post →
    Call.set h k true ∈ pre
  /-- If closes succeed, at most one object is open at any point. -/
  oneOpen : (∀ h, Call.close h false ∉ r.calls) → ∀ pre, pre <+: r.calls → (opened pre).length ≤ 1

/-- Calls of the protocol whose owned object is the code's handle are balanced. -/
theorem balanced_of_accept {r : PowerRequests Nat} {s : State Nat PowerRequestType}
    (h : exec accept State.init r.calls = some s) (hs : s.owned.map (·.handle) = r.handle)
    (hp : r.handle.isSome = true ↔ r.acquired.all id = true) : Balanced r where
  present := hp
  closed := fun x hx => by rw [close_count_of_accept h hx, hs]
  unused := fun _ _ _ _ he => not_names_after_close h he
  setOnce := (account_of_accept h).sets
  clearOnce := (account_of_accept h).clears
  clearAfterSet := fun _ _ _ _ _ he => set_before_clear h he
  oneOpen := by
    intro hok pre hpre
    obtain ⟨post, he⟩ := hpre
    rw [← he, exec_append, Option.bind_eq_some_iff] at h
    obtain ⟨u, hu, -⟩ := h
    exact opened_length_le_one hu fun x hx => hok x (he ▸ List.mem_append_left _ hx)

theorem Idle.balanced {r : PowerRequests Nat} {created : List Nat} (h : Idle r created) :
    Balanced r :=
  balanced_of_accept h.calls h.handle.symm (by simp [h.handle, h.acquired])

theorem Settled.balanced {b : SleepBlocker Nat} (hb : Settled b) : Balanced b.requests := by
  obtain ⟨created, -, hi | ⟨h, hh⟩⟩ := hb
  · exact hi.balanced
  · exact balanced_of_accept hh.calls hh.handle.symm (by simp [hh.handle, hh.acquired])

/-- Dropping a settled layer gives its object up. -/
theorem Settled.drop {b : SleepBlocker Nat} (hb : Settled b) (api : PowerApi Nat) :
    ∃ created, Idle (b.drop api).requests created := by
  obtain ⟨created, -, hi⟩ := hb.deactivate api
  refine ⟨created, ?_⟩
  simp only [SleepBlocker.drop]
  rwa [hi.release]

/-- **Power-request ownership is balanced**: after every sequence of operations, after the final
drop (when no object is left), and with the counts a successful acquisition leaves. -/
theorem sleepBlocker_ownership_balanced (ops : List (SleepOp × PowerAnswers))
    (last : PowerAnswers) :
    Balanced (runSleepOps ops).requests ∧
    (Balanced ((runSleepOps ops).drop (last.api (runSleepOps ops))).requests ∧
      ((runSleepOps ops).drop (last.api (runSleepOps ops))).requests.handle = none) ∧
    (∀ op, op = .activate ∨ op = .renewAfterResume → ∀ o,
      (SleepOp.run (runSleepOps ops) op o).1 = .ok () →
      ∃ h, (SleepOp.run (runSleepOps ops) op o).2.requests.handle = some h ∧
        (∀ k, marks (SleepOp.run (runSleepOps ops) op o).2.requests.calls h k = 1) ∧
        ((∀ x, Call.close x false ∉ (SleepOp.run (runSleepOps ops) op o).2.requests.calls) →
          opened (SleepOp.run (runSleepOps ops) op o).2.requests.calls = [h])) := by
  have hb := settled_runSleepOps ops
  refine ⟨hb.balanced, ?_, ?_⟩
  · obtain ⟨created, hi⟩ := hb.drop (last.api (runSleepOps ops))
    exact ⟨hi.balanced, hi.handle⟩
  · intro op hop o hok
    obtain ⟨created, h, hh⟩ := (settled_run hb op o).2 hop hok
    refine ⟨h, hh.handle, fun k => ?_, fun hcl => opened_eq_owned hh.calls hcl rfl⟩
    exact marks_owned (o := ⟨h, setOf true true, fun _ => false⟩) hh.calls rfl
      (by cases k <;> rfl) rfl

end Blocker

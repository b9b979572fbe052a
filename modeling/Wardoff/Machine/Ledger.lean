import Wardoff.Machine.Run

/-!
# Ledgers of owned objects

A program creates objects, sets and clears marks of several kinds on the object it owns, and closes
it. The calls it makes, with their outcomes, are a list of `Call`s. `accept` is the protocol of an
owner that holds at most one object at a time: a new object is created only while none is owned, a
mark is set on the owned object while it is not set, cleared at most once and only after it was set,
and a close gives the object up whether or not the call succeeds.

`Account` collects what an accepted list of calls has done to each object; it is kept by each call
(`Account.step`) and so holds of every accepted list (`account_of_accept`). The results read off it:

* `close_count_of_accept`: an object that is not owned any more was closed exactly once, the owned
  one not at all.
* `not_names_after_close`: no call names an object after its close.
* `set_before_clear`: a mark is cleared only after it was set.
* `opened_length_le_one`, `marks_owned`: if closes succeed, at most one object is open, and its
  marks count what was set on it.
-/

namespace Machine.Ledger

/-- A call on objects of type `H` with marks of kind `K`, and its outcome. -/
inductive Call (H K : Type) where
  | create (handle : Option H)
  | set (handle : H) (kind : K) (ok : Bool)
  | clear (handle : H) (kind : K) (ok : Bool)
  | close (handle : H) (ok : Bool)
  deriving DecidableEq, Repr

/-- The object a program owns, with the marks it has set and cleared on it. -/
structure Owned (H K : Type) where
  handle : H
  isSet : K → Bool
  cleared : K → Bool

/-- The objects created so far and the one that is owned. -/
structure State (H K : Type) where
  created : List H
  owned : Option (Owned H K)

def State.init {H K : Type} : State H K := ⟨[], none⟩

variable {H K : Type} [DecidableEq H] [DecidableEq K]

/-- The protocol of an owner of at most one object. -/
def accept (s : State H K) : Call H K → Option (State H K)
  | .create none => if s.owned.isNone then some s else none
  | .create (some h) =>
    if s.owned.isNone ∧ h ∉ s.created then
      some ⟨h :: s.created, some ⟨h, fun _ => false, fun _ => false⟩⟩
    else none
  | .set h k ok => s.owned.bind fun o =>
    if o.handle = h ∧ o.isSet k = false then
      some ⟨s.created, some { o with isSet := fun k' => if k' = k then ok else o.isSet k' }⟩
    else none
  | .clear h k _ => s.owned.bind fun o =>
    if o.handle = h ∧ o.isSet k = true ∧ o.cleared k = false then
      some ⟨s.created, some { o with cleared := fun k' => if k' = k then true else o.cleared k' }⟩
    else none
  | .close h _ => s.owned.bind fun o =>
    if o.handle = h then some ⟨s.created, none⟩ else none

/-- The call is made on the object `h`. -/
def Call.names (h : H) : Call H K → Bool
  | .create _ => false
  | .set h' _ _ => h' = h
  | .clear h' _ _ => h' = h
  | .close h' _ => h' = h

def isClose (h : H) : Call H K → Bool
  | .close h' _ => h' = h
  | _ => false

def isSetOk (h : H) (k : K) : Call H K → Bool
  | .set h' k' ok => h' = h ∧ k' = k ∧ ok
  | _ => false

def isClear (h : H) (k : K) : Call H K → Bool
  | .clear h' k' _ => h' = h ∧ k' = k
  | _ => false

def isClearOk (h : H) (k : K) : Call H K → Bool
  | .clear h' k' ok => h' = h ∧ k' = k ∧ ok
  | _ => false

/-- The objects a list of calls has created, oldest first. -/
def createdBy : List (Call H K) → List H
  | [] => []
  | .create (some h) :: cs => h :: createdBy cs
  | _ :: cs => createdBy cs

/-- The objects a list of calls has created and not closed successfully. -/
def opened (cs : List (Call H K)) : List H :=
  (createdBy cs).filter fun h => decide (Call.close h true ∉ cs)

/-- How often a mark of an object was set, less how often it was cleared, successfully. -/
def marks (cs : List (Call H K)) (h : H) (k : K) : Int :=
  cs.countP (isSetOk h k) - cs.countP (isClearOk h k)

omit [DecidableEq H] [DecidableEq K] in
@[simp] theorem createdBy_append (cs ds : List (Call H K)) :
    createdBy (cs ++ ds) = createdBy cs ++ createdBy ds := by
  induction cs with
  | nil => rfl
  | cons c cs ih =>
    cases c with
    | create h => cases h <;> simp [createdBy, ih]
    | _ => simpa [createdBy] using ih

/-! ## One call -/

/-- What one accepted call can do. -/
theorem accept_cases {s t : State H K} {c : Call H K} (h : accept s c = some t) :
    (c = .create none ∧ s.owned = none ∧ t = s) ∨
    (∃ x, c = .create (some x) ∧ s.owned = none ∧ x ∉ s.created ∧
      t = ⟨x :: s.created, some ⟨x, fun _ => false, fun _ => false⟩⟩) ∨
    (∃ o k ok, c = .set o.handle k ok ∧ s.owned = some o ∧ o.isSet k = false ∧
      t = ⟨s.created, some { o with isSet := fun k' => if k' = k then ok else o.isSet k' }⟩) ∨
    (∃ o k ok, c = .clear o.handle k ok ∧ s.owned = some o ∧ o.isSet k = true ∧
      o.cleared k = false ∧
      t = ⟨s.created, some { o with cleared := fun k' => if k' = k then true else o.cleared k' }⟩) ∨
    (∃ o ok, c = .close o.handle ok ∧ s.owned = some o ∧ t = ⟨s.created, none⟩) := by
  cases c with
  | create x =>
    cases x with
    | none =>
      simp only [accept, Option.ite_none_right_eq_some, Option.some.injEq,
        Option.isNone_iff_eq_none]
        at h
      exact .inl ⟨rfl, h.1, h.2.symm⟩
    | some x =>
      simp only [accept, Option.ite_none_right_eq_some, Option.some.injEq,
        Option.isNone_iff_eq_none]
        at h
      exact .inr (.inl ⟨x, rfl, h.1.1, h.1.2, h.2.symm⟩)
  | set x k ok =>
    simp only [accept, Option.bind_eq_some_iff, Option.ite_none_right_eq_some, Option.some.injEq]
      at h
    obtain ⟨o, ho, ⟨rfl, hs⟩, rfl⟩ := h
    exact .inr (.inr (.inl ⟨o, k, ok, rfl, ho, hs, rfl⟩))
  | clear x k ok =>
    simp only [accept, Option.bind_eq_some_iff, Option.ite_none_right_eq_some, Option.some.injEq]
      at h
    obtain ⟨o, ho, ⟨rfl, hs, hc⟩, rfl⟩ := h
    exact .inr (.inr (.inr (.inl ⟨o, k, ok, rfl, ho, hs, hc, rfl⟩)))
  | close x ok =>
    simp only [accept, Option.bind_eq_some_iff, Option.ite_none_right_eq_some, Option.some.injEq]
      at h
    obtain ⟨o, ho, rfl, rfl⟩ := h
    exact .inr (.inr (.inr (.inr ⟨o, ok, rfl, ho, rfl⟩)))

/-! ## The account of an accepted list -/

/-- What an accepted list of calls has done to each object. -/
structure Account (cs : List (Call H K)) (s : State H K) : Prop where
  created : s.created = (createdBy cs).reverse
  nodup : (createdBy cs).Nodup
  owned : ∀ o, s.owned = some o → o.handle ∈ s.created
  names : ∀ c ∈ cs, ∀ h, c.names h = true → h ∈ s.created
  closes : ∀ h, cs.countP (isClose h) =
    if h ∈ s.created ∧ s.owned.map (·.handle) ≠ some h then 1 else 0
  sets : ∀ h k, cs.countP (isSetOk h k) ≤ 1
  setsOwned : ∀ o, s.owned = some o → ∀ k,
    cs.countP (isSetOk o.handle k) = if o.isSet k then 1 else 0
  clears : ∀ h k, cs.countP (isClear h k) ≤ 1
  clearsOwned : ∀ o, s.owned = some o → ∀ k,
    cs.countP (isClear o.handle k) = if o.cleared k then 1 else 0

theorem account_init : Account ([] : List (Call H K)) State.init := by
  constructor <;> simp [State.init, createdBy]

theorem Account.mem_created {cs : List (Call H K)} {s : State H K} (h : Account cs s) {x : H} :
    x ∈ s.created ↔ x ∈ createdBy cs := by
  rw [h.created, List.mem_reverse]

/-- A call on no object of `cs` leaves its counts alone. -/
theorem countP_eq_zero_of_fresh {cs : List (Call H K)} {s : State H K} (h : Account cs s) {x : H}
    (hx : x ∉ s.created) (p : Call H K → Bool) (hp : ∀ c, p c = true → c.names x = true) :
    cs.countP p = 0 := by
  rw [List.countP_eq_zero]
  intro c hc hpc
  exact hx (h.names c hc x (hp c hpc))

theorem names_of_isSetOk {x : H} {k : K} {c : Call H K} (h : isSetOk x k c = true) :
    c.names x = true := by
  cases c <;> simp_all [isSetOk, Call.names]

theorem names_of_isClear {x : H} {k : K} {c : Call H K} (h : isClear x k c = true) :
    c.names x = true := by
  cases c <;> simp_all [isClear, Call.names]

/-- The objects named by one more call. -/
theorem Account.names_snoc {cs : List (Call H K)} {s : State H K} {c : Call H K} {created : List H}
    (h : Account cs s) (hsub : ∀ y ∈ s.created, y ∈ created)
    (hc : ∀ y, c.names y = true → y ∈ created) :
    ∀ d ∈ cs ++ [c], ∀ y, d.names y = true → y ∈ created := by
  intro d hd y hy
  rcases List.mem_append.1 hd with hd | hd
  · exact hsub y (h.names d hd y hy)
  · rw [List.mem_singleton] at hd
    exact hc y (hd ▸ hy)

/-- A failed create does nothing. -/
theorem Account.createNone {cs : List (Call H K)} {s : State H K} (h : Account cs s) :
    Account (cs ++ [Call.create none]) s where
  created := by simpa [createdBy] using h.created
  nodup := by simpa [createdBy] using h.nodup
  owned := h.owned
  names := h.names_snoc (fun _ hy => hy) (by simp [Call.names])
  closes := by simpa [isClose] using h.closes
  sets := by simpa [isSetOk] using h.sets
  setsOwned := by simpa [isSetOk] using h.setsOwned
  clears := by simpa [isClear] using h.clears
  clearsOwned := by simpa [isClear] using h.clearsOwned

/-- A new object: no call has named it. -/
theorem Account.createSome {cs : List (Call H K)} {s : State H K} {x : H} (h : Account cs s)
    (ho : s.owned = none) (hx : x ∉ s.created) :
    Account (cs ++ [Call.create (some x)])
      ⟨x :: s.created, some ⟨x, fun _ => false, fun _ => false⟩⟩ where
  created := by simp [createdBy, h.created]
  nodup := by
    have hfresh : x ∉ createdBy cs := by simpa [h.created] using hx
    simp only [createdBy_append, createdBy]
    rw [List.nodup_append]
    refine ⟨h.nodup, by simp, fun a ha b hb he => hfresh ?_⟩
    rw [List.mem_singleton] at hb
    exact hb ▸ he ▸ ha
  owned := by
    intro _ ho
    cases ho
    simp
  names := h.names_snoc (fun _ hy => List.mem_cons_of_mem _ hy) (by simp [Call.names])
  closes := by
    intro y
    by_cases hy : y = x
    · subst hy
      simp [isClose, h.closes, hx]
    · simp [isClose, h.closes, ho, hy, Ne.symm hy]
  sets := by simpa [isSetOk] using h.sets
  setsOwned := by
    intro _ ho k
    cases ho
    simpa [isSetOk] using countP_eq_zero_of_fresh h hx (isSetOk x k) fun _ => names_of_isSetOk
  clears := by simpa [isClear] using h.clears
  clearsOwned := by
    intro _ ho k
    cases ho
    simpa [isClear] using countP_eq_zero_of_fresh h hx (isClear x k) fun _ => names_of_isClear

theorem Account.set {cs : List (Call H K)} {s : State H K} {o : Owned H K} {k : K} (ok : Bool)
    (h : Account cs s) (ho : s.owned = some o) (hs : o.isSet k = false) :
    Account (cs ++ [Call.set o.handle k ok])
      ⟨s.created, some { o with isSet := fun k' => if k' = k then ok else o.isSet k' }⟩ where
  created := by simpa [createdBy] using h.created
  nodup := by simpa [createdBy] using h.nodup
  owned := by
    intro _ ho
    cases ho
    exact h.owned o ho
  names := h.names_snoc (fun _ hy => hy) (by simpa [Call.names] using h.owned o ho)
  closes := by simpa [isClose, ho] using h.closes
  sets := by
    intro y k'
    by_cases hy : o.handle = y ∧ k = k'
    · obtain ⟨rfl, rfl⟩ := hy
      cases ok <;> simp [isSetOk, h.setsOwned o ho, hs]
    · have := h.sets y k'
      cases ok <;> simp_all [isSetOk]
  setsOwned := by
    intro _ ho k'
    cases ho
    by_cases hk : k' = k
    · subst hk
      cases ok <;> simp [isSetOk, h.setsOwned o ho, hs]
    · simp [isSetOk, hk, Ne.symm hk, h.setsOwned o ho]
  clears := by simpa [isClear] using h.clears
  clearsOwned := by
    intro _ ho k'
    cases ho
    simpa [isClear] using h.clearsOwned o ho k'

theorem Account.clear {cs : List (Call H K)} {s : State H K} {o : Owned H K} {k : K} (ok : Bool)
    (h : Account cs s) (ho : s.owned = some o) (hc : o.cleared k = false) :
    Account (cs ++ [Call.clear o.handle k ok])
      ⟨s.created, some { o with cleared := fun k' => if k' = k then true else o.cleared k' }⟩ where
  created := by simpa [createdBy] using h.created
  nodup := by simpa [createdBy] using h.nodup
  owned := by
    intro _ ho
    cases ho
    exact h.owned o ho
  names := h.names_snoc (fun _ hy => hy) (by simpa [Call.names] using h.owned o ho)
  closes := by simpa [isClose, ho] using h.closes
  sets := by simpa [isSetOk] using h.sets
  setsOwned := by
    intro _ ho k'
    cases ho
    simpa [isSetOk] using h.setsOwned o ho k'
  clears := by
    intro y k'
    by_cases hy : o.handle = y ∧ k = k'
    · obtain ⟨rfl, rfl⟩ := hy
      simp [isClear, h.clearsOwned o ho, hc]
    · have := h.clears y k'
      simp_all [isClear]
  clearsOwned := by
    intro _ ho k'
    cases ho
    by_cases hk : k' = k
    · subst hk
      simp [isClear, h.clearsOwned o ho, hc]
    · simp [isClear, hk, Ne.symm hk, h.clearsOwned o ho]

/-- A close gives the object up, whether or not it succeeds. -/
theorem Account.close {cs : List (Call H K)} {s : State H K} {o : Owned H K} (ok : Bool)
    (h : Account cs s) (ho : s.owned = some o) :
    Account (cs ++ [Call.close o.handle ok]) ⟨s.created, none⟩ where
  created := by simpa [createdBy] using h.created
  nodup := by simpa [createdBy] using h.nodup
  owned := by simp
  names := h.names_snoc (fun _ hy => hy) (by simpa [Call.names] using h.owned o ho)
  closes := by
    intro y
    by_cases hy : o.handle = y
    · subst hy
      simp [isClose, h.closes, ho, h.owned o ho]
    · simp [isClose, h.closes, ho, hy]
  sets := by simpa [isSetOk] using h.sets
  setsOwned := by simp
  clears := by simpa [isClear] using h.clears
  clearsOwned := by simp

/-- **One call keeps the account.** -/
theorem Account.step {cs : List (Call H K)} {s t : State H K} {c : Call H K} (h : Account cs s)
    (hc : accept s c = some t) : Account (cs ++ [c]) t := by
  rcases accept_cases hc with ⟨rfl, -, rfl⟩ | ⟨x, rfl, ho, hx, rfl⟩ | ⟨o, k, ok, rfl, ho, hs, rfl⟩ |
    ⟨o, k, ok, rfl, ho, -, hcl, rfl⟩ | ⟨o, ok, rfl, ho, rfl⟩
  · exact h.createNone
  · exact h.createSome ho hx
  · exact h.set ok ho hs
  · exact h.clear ok ho hcl
  · exact h.close ok ho

theorem account_append {cs ds : List (Call H K)} {s t : State H K} (h : Account cs s)
    (hr : exec accept s ds = some t) : Account (cs ++ ds) t := by
  induction ds generalizing cs s with
  | nil =>
    cases hr
    simpa using h
  | cons c ds ih =>
    obtain ⟨u, hu, hr⟩ := exec_cons_eq_some hr
    simpa using ih (h.step hu) hr

/-- **The account holds of every accepted list.** -/
theorem account_of_accept {cs : List (Call H K)} {s : State H K}
    (h : exec accept State.init cs = some s) : Account cs s := by
  simpa using account_append account_init h

/-- The run of an accepted list up to one of its calls, and that call. -/
theorem accept_split {cs pre post : List (Call H K)} {c : Call H K} {s t : State H K}
    (h : exec accept s cs = some t) (he : cs = pre ++ c :: post) :
    ∃ u v, exec accept s pre = some u ∧ accept u c = some v ∧ exec accept v post = some t := by
  subst he
  rw [exec_append, Option.bind_eq_some_iff] at h
  obtain ⟨u, hu, h⟩ := h
  obtain ⟨v, hv, h⟩ := exec_cons_eq_some h
  exact ⟨u, v, hu, hv, h⟩

/-! ## What the account says -/

/-- An object that is given up was closed exactly once, an owned one not at all. -/
theorem close_count_of_accept {cs : List (Call H K)} {s : State H K}
    (h : exec accept State.init cs = some s) {x : H} (hx : x ∈ createdBy cs) :
    cs.countP (isClose x) = if s.owned.map (·.handle) = some x then 0 else 1 := by
  have ha := account_of_accept h
  rw [ha.closes]
  by_cases ho : s.owned.map (·.handle) = some x
  · simp [ho]
  · rw [if_pos ⟨ha.mem_created.2 hx, ho⟩, if_neg ho]

/-- No accepted call names an object that is created and not owned, and it stays so. -/
theorem not_names_of_not_owned {cs : List (Call H K)} {s t : State H K} {x : H}
    (hx : x ∈ s.created) (ho : s.owned.map (·.handle) ≠ some x)
    (h : exec accept s cs = some t) : ∀ c ∈ cs, c.names x = false := by
  induction cs generalizing s with
  | nil => simp
  | cons c cs ih =>
    obtain ⟨u, hu, h⟩ := exec_cons_eq_some h
    have hother : ∀ o, s.owned = some o → o.handle ≠ x := by
      intro o hs he
      exact ho (by rw [hs, Option.map_some, he])
    have key : c.names x = false ∧ x ∈ u.created ∧ u.owned.map (·.handle) ≠ some x := by
      rcases accept_cases hu with ⟨rfl, -, rfl⟩ | ⟨y, rfl, -, hy, rfl⟩ |
        ⟨o, k, ok, rfl, hs, -, rfl⟩ | ⟨o, k, ok, rfl, hs, -, -, rfl⟩ | ⟨o, ok, rfl, hs, rfl⟩
      · exact ⟨rfl, hx, ho⟩
      · have hne : y ≠ x := fun he => hy (he ▸ hx)
        exact ⟨rfl, List.mem_cons_of_mem _ hx, by simpa using hne⟩
      · exact ⟨by simp [Call.names, hother o hs], hx, by simpa using hother o hs⟩
      · exact ⟨by simp [Call.names, hother o hs], hx, by simpa using hother o hs⟩
      · exact ⟨by simp [Call.names, hother o hs], hx, by simp⟩
    intro d hd
    rcases List.mem_cons.1 hd with rfl | hd
    · exact key.1
    · exact ih key.2.1 key.2.2 h d hd

/-- No call names an object after its close. -/
theorem not_names_after_close {cs pre post : List (Call H K)} {s : State H K} {x : H} {ok : Bool}
    (h : exec accept State.init cs = some s) (he : cs = pre ++ .close x ok :: post) :
    ∀ c ∈ post, c.names x = false := by
  obtain ⟨u, v, hu, hv, hr⟩ := accept_split h he
  rcases accept_cases hv with ⟨hc, -⟩ | ⟨_, hc, -⟩ | ⟨_, _, _, hc, -⟩ | ⟨_, _, _, hc, -⟩ |
    ⟨o, ok', hc, ho, rfl⟩
  · cases hc
  · cases hc
  · cases hc
  · cases hc
  · cases hc
    exact not_names_of_not_owned (s := ⟨u.created, none⟩) ((account_of_accept hu).owned o ho)
      (by simp) hr

theorem mem_of_isSetOk {cs : List (Call H K)} {x : H} {k : K} (h : 0 < cs.countP (isSetOk x k)) :
    Call.set x k true ∈ cs := by
  obtain ⟨c, hc, hs⟩ := List.countP_pos_iff.1 h
  cases c <;> simp_all [isSetOk]

/-- A mark is cleared only after it was set on the same object. -/
theorem set_before_clear {cs pre post : List (Call H K)} {s : State H K} {x : H} {k : K} {ok : Bool}
    (h : exec accept State.init cs = some s) (he : cs = pre ++ .clear x k ok :: post) :
    Call.set x k true ∈ pre := by
  obtain ⟨u, v, hu, hv, -⟩ := accept_split h he
  rcases accept_cases hv with ⟨hc, -⟩ | ⟨_, hc, -⟩ | ⟨_, _, _, hc, -⟩ | ⟨o, _, _, hc, ho, hs, -⟩ |
    ⟨_, _, hc, -⟩
  · cases hc
  · cases hc
  · cases hc
  · cases hc
    apply mem_of_isSetOk
    rw [(account_of_accept hu).setsOwned o ho, hs]
    simp
  · cases hc

/-- If closes succeed, only the owned object is open. -/
theorem opened_owned {cs : List (Call H K)} {s : State H K}
    (h : exec accept State.init cs = some s) (hok : ∀ x, Call.close x false ∉ cs) {x : H}
    (hx : x ∈ opened cs) : s.owned.map (·.handle) = some x := by
  simp only [opened, List.mem_filter, decide_eq_true_eq] at hx
  have hcount := close_count_of_accept h hx.1
  by_contra ho
  rw [if_neg ho] at hcount
  obtain ⟨c, hc, hcl⟩ := List.countP_pos_iff.1 (by omega : 0 < cs.countP (isClose x))
  cases c with
  | close y ok =>
    simp only [isClose, decide_eq_true_eq] at hcl
    subst hcl
    cases ok with
    | false => exact hok y hc
    | true => exact hx.2 hc
  | _ => simp [isClose] at hcl

/-- If closes succeed, at most one object is open. -/
theorem opened_length_le_one {cs : List (Call H K)} {s : State H K}
    (h : exec accept State.init cs = some s) (hok : ∀ x, Call.close x false ∉ cs) :
    (opened cs).length ≤ 1 := by
  have hnd : (opened cs).Nodup := (account_of_accept h).nodup.filter _
  have hown : ∀ x ∈ opened cs, s.owned.map (·.handle) = some x := fun x => opened_owned h hok
  match hl : opened cs with
  | [] => simp
  | [_] => simp
  | x :: y :: _ =>
    rw [hl] at hnd hown
    have hxy : some x = some y := (hown x (by simp)).symm.trans (hown y (by simp))
    simp_all

/-- If closes succeed, an owned object is the one that is open. -/
theorem opened_eq_owned {cs : List (Call H K)} {s : State H K} {o : Owned H K}
    (h : exec accept State.init cs = some s) (hok : ∀ x, Call.close x false ∉ cs)
    (ho : s.owned = some o) : opened cs = [o.handle] := by
  have ha := account_of_accept h
  have hcr : o.handle ∈ createdBy cs := ha.mem_created.1 (ha.owned o ho)
  have hcl : Call.close o.handle true ∉ cs := by
    have hcount := close_count_of_accept h hcr
    rw [ho, Option.map_some, if_pos rfl, List.countP_eq_zero] at hcount
    intro hm
    exact hcount _ hm (by simp [isClose])
  have hmem : o.handle ∈ opened cs := by simp [opened, hcr, hcl]
  have hlen := opened_length_le_one h hok
  match hl : opened cs, hmem with
  | [x], hmem => simpa [eq_comm] using hmem
  | x :: y :: l, _ => simp [hl] at hlen

/-- The marks of the owned object that were never cleared. -/
theorem marks_owned {cs : List (Call H K)} {s : State H K} {o : Owned H K} {k : K}
    (h : exec accept State.init cs = some s) (ho : s.owned = some o) (hs : o.isSet k = true)
    (hc : o.cleared k = false) : marks cs o.handle k = 1 := by
  have ha := account_of_accept h
  have hclear : cs.countP (isClear o.handle k) = 0 := by simp [ha.clearsOwned o ho, hc]
  have hok : cs.countP (isClearOk o.handle k) = 0 := by
    rw [List.countP_eq_zero] at hclear ⊢
    intro c hcs hco
    refine hclear c hcs ?_
    cases c <;> simp_all [isClear, isClearOk]
  simp [marks, ha.setsOwned o ho, hs, hok]

end Machine.Ledger

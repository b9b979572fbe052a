import Mathlib.Algebra.BigOperators.Group.List.Basic
import Mathlib.Algebra.Ring.Nat
import Mathlib.Data.List.Induction

/-!
# Greedy segments

A sequence of items is cut into segments as it comes in: an item that would take the current segment
over the limit starts a new one. `segments` lists them newest first.

* `flatten_segments`: nothing is lost, repeated or reordered.
* `segments_bounded`: a segment is within the limit, or it is a single item.
* `segments_eq_of_large`: items of which no two fit together are segments of their own.
* `recent` keeps the last items of a sequence, one push at a time (`foldl_pushRecent`).
-/

namespace Text

variable {α : Type*}

/-- The size of a segment. -/
def total (size : α → Nat) (segment : List α) : Nat := (segment.map size).sum

/-- Adds an item to the newest segment, or starts a new one. -/
def addItem (size : α → Nat) (limit : Nat) (segments : List (List α)) (a : α) : List (List α) :=
  match segments with
  | [] => [[a]]
  | newest :: older =>
    if total size newest + size a ≤ limit then (newest ++ [a]) :: older else [a] :: newest :: older

/-- The segments of a sequence, newest first. -/
def segments (size : α → Nat) (limit : Nat) (items : List α) : List (List α) :=
  items.foldl (addItem size limit) []

section
variable {size : α → Nat} {limit : Nat}

@[simp] theorem segments_nil : segments size limit [] = [] := rfl

theorem segments_concat (items : List α) (a : α) :
    segments size limit (items ++ [a]) = addItem size limit (segments size limit items) a := by
  simp [segments]

theorem flatten_addItem (segs : List (List α)) (a : α) :
    (addItem size limit segs a).reverse.flatten = segs.reverse.flatten ++ [a] := by
  unfold addItem
  split
  · simp
  · split_ifs <;> simp

/-- The segments, oldest first, are the sequence. -/
theorem flatten_segments (items : List α) :
    (segments size limit items).reverse.flatten = items := by
  induction items using List.reverseRecOn with
  | nil => rfl
  | append_singleton items a ih => rw [segments_concat, flatten_addItem, ih]

/-- A segment is within the limit, or it is a single item. -/
def Bounded (size : α → Nat) (limit : Nat) (segment : List α) : Prop :=
  total size segment ≤ limit ∨ segment.length = 1

theorem bounded_addItem {segs : List (List α)} (h : ∀ segment ∈ segs, Bounded size limit segment)
    (a : α) : ∀ segment ∈ addItem size limit segs a, Bounded size limit segment := by
  intro segment hmem
  unfold addItem at hmem
  split at hmem
  · rw [List.mem_singleton] at hmem
    exact .inr (by simp [hmem])
  · split_ifs at hmem with hfits
    · rcases List.mem_cons.1 hmem with rfl | hmem
      · exact .inl (by simpa [total] using hfits)
      · exact h segment (List.mem_cons_of_mem _ hmem)
    · rcases List.mem_cons.1 hmem with rfl | hmem
      · exact .inr rfl
      · exact h segment hmem

theorem segments_bounded (items : List α) :
    ∀ segment ∈ segments size limit items, Bounded size limit segment := by
  induction items using List.reverseRecOn with
  | nil => simp
  | append_singleton items a ih =>
    rw [segments_concat]
    exact bounded_addItem ih a

/-- Where no two items fit together, each is a segment of its own. -/
theorem segments_eq_of_large {items : List α}
    (h : ∀ a ∈ items, ∀ b ∈ items, limit < size a + size b) :
    segments size limit items = items.reverse.map fun a => [a] := by
  induction items using List.reverseRecOn with
  | nil => rfl
  | append_singleton items a ih =>
    rw [segments_concat,
      ih fun b hb c hc => h b (List.mem_append_left _ hb) c (List.mem_append_left _ hc)]
    simp only [List.reverse_append, List.reverse_singleton, List.singleton_append, List.map_cons]
    cases hlast : items.reverse with
    | nil => rfl
    | cons b older =>
      have hb : b ∈ items := List.mem_reverse.1 (by simp [hlast])
      have hlarge := h b (List.mem_append_left _ hb) a (by simp)
      rw [List.map_cons, addItem, if_neg (by simpa [total] using hlarge)]

end

/-! ## The last items -/

/-- The last `n` items. -/
def lastItems (n : Nat) (items : List α) : List α := items.drop (items.length - n)

/-- Adds an item to a queue of at most `limit` items, whose oldest one makes room. -/
def pushRecent (limit : Nat) (recent : List α) (a : α) : List α :=
  (if recent.length = limit then recent.drop 1 else recent) ++ [a]

theorem length_lastItems (n : Nat) (items : List α) :
    (lastItems n items).length = min n items.length := by
  simp only [lastItems, List.length_drop]
  omega

/-- A bounded queue that took in a sequence holds its last items. -/
theorem foldl_pushRecent {limit : Nat} (hlimit : 0 < limit) (items : List α) :
    items.foldl (pushRecent limit) [] = lastItems limit items := by
  induction items using List.reverseRecOn with
  | nil => simp [lastItems]
  | append_singleton items a ih =>
    rw [List.foldl_append, ih]
    show pushRecent limit (lastItems limit items) a = _
    unfold pushRecent
    rw [length_lastItems]
    have hle : (items ++ [a]).length - limit ≤ items.length := by
      rw [List.length_append, List.length_singleton]
      omega
    by_cases hfull : limit ≤ items.length
    · rw [if_pos (by omega), lastItems, lastItems, List.drop_drop,
        List.drop_append_of_le_length hle]
      congr 2
      rw [List.length_append, List.length_singleton]
      omega
    · rw [if_neg (by omega), lastItems, lastItems, List.drop_append_of_le_length hle]
      congr 2
      rw [List.length_append, List.length_singleton]
      omega

theorem lastItems_min (n : Nat) (items : List α) :
    lastItems (min n items.length) items = lastItems n items := by
  rw [lastItems, lastItems]
  congr 1
  omega

/-- The last items of a suffix. -/
theorem lastItems_append {n : Nat} {older newer : List α} (h : n ≤ newer.length) :
    lastItems n (older ++ newer) = lastItems n newer := by
  have hle : older.length ≤ (older ++ newer).length - n := by
    rw [List.length_append]
    omega
  rw [lastItems, lastItems, List.drop_append, List.drop_of_length_le hle, List.nil_append,
    List.length_append]
  congr 1
  omega

end Text

import Mathlib.Data.List.Basic

/-!
# Strings as UTF-16 code units

A character is one code unit, or a high surrogate with a low one. Windows does not insist on that:
the name of a file may hold a surrogate without its partner.

* `decodeUtf16_isSome_iff`: exactly the well-formed sequences have a text.
* `decodeUtf16_append`: a text can be cut at a unit that stands by itself.
-/

namespace Text

def isHighSurrogate (unit : UInt16) : Bool := 0xD800 ≤ unit.toNat && unit.toNat < 0xDC00

def isLowSurrogate (unit : UInt16) : Bool := 0xDC00 ≤ unit.toNat && unit.toNat < 0xE000

/-- The character of a unit that stands by itself. -/
def unitChar (unit : UInt16) : Char := .ofNat unit.toNat

/-- The character of a surrogate pair. -/
def pairChar (high low : UInt16) : Char :=
  .ofNat (0x10000 + (high.toNat - 0xD800) * 0x400 + (low.toNat - 0xDC00))

/-- The text of the units, if every surrogate has its partner. -/
def decodeUtf16 : List UInt16 → Option (List Char)
  | [] => some []
  | unit :: rest =>
    if isHighSurrogate unit then
      match rest with
      | low :: rest =>
        if isLowSurrogate low then (decodeUtf16 rest).map (pairChar unit low :: ·) else none
      | [] => none
    else if isLowSurrogate unit then none
    else (decodeUtf16 rest).map (unitChar unit :: ·)

/-- Every high surrogate is followed by a low one, and every low one follows a high one. -/
inductive WellFormedUtf16 : List UInt16 → Prop where
  | nil : WellFormedUtf16 []
  | unit {unit : UInt16} {rest : List UInt16} (hhigh : isHighSurrogate unit = false)
      (hlow : isLowSurrogate unit = false) (hrest : WellFormedUtf16 rest) :
        WellFormedUtf16 (unit :: rest)
  | pair {high low : UInt16} {rest : List UInt16} (hhigh : isHighSurrogate high = true)
      (hlow : isLowSurrogate low = true) (hrest : WellFormedUtf16 rest) :
        WellFormedUtf16 (high :: low :: rest)

/-- The unit of a character below U+0080. -/
def asciiUnit (c : Char) : UInt16 := .ofNat c.toNat

/-! ## Decoding -/

variable {unit : UInt16} {units rest : List UInt16}

theorem not_isHighSurrogate_of_low (h : isLowSurrogate unit = true) :
    isHighSurrogate unit = false := by
  simp only [isLowSurrogate, isHighSurrogate, Bool.and_eq_true, decide_eq_true_eq,
    Bool.and_eq_false_iff, decide_eq_false_iff_not] at h ⊢
  omega

theorem decodeUtf16_unit (hhigh : isHighSurrogate unit = false)
    (hlow : isLowSurrogate unit = false) :
    decodeUtf16 (unit :: rest) = (decodeUtf16 rest).map (unitChar unit :: ·) := by
  rw [decodeUtf16.eq_def]
  simp [hhigh, hlow]

theorem decodeUtf16_pair {low : UInt16} (hhigh : isHighSurrogate unit = true)
    (hlow : isLowSurrogate low = true) :
    decodeUtf16 (unit :: low :: rest) = (decodeUtf16 rest).map (pairChar unit low :: ·) := by
  rw [decodeUtf16.eq_def]
  simp [hhigh, hlow]

/-- A high surrogate without a partner. -/
theorem decodeUtf16_high_unit {next : UInt16} (hhigh : isHighSurrogate unit = true)
    (hnext : isLowSurrogate next = false) : decodeUtf16 (unit :: next :: rest) = none := by
  rw [decodeUtf16.eq_def]
  simp [hhigh, hnext]

theorem decodeUtf16_high_end (hhigh : isHighSurrogate unit = true) : decodeUtf16 [unit] = none := by
  rw [decodeUtf16.eq_def]
  simp [hhigh]

/-- A low surrogate without a partner. -/
theorem decodeUtf16_low (hlow : isLowSurrogate unit = true) :
    decodeUtf16 (unit :: rest) = none := by
  rw [decodeUtf16.eq_def]
  simp [not_isHighSurrogate_of_low hlow, hlow]

theorem decodeUtf16_isSome_iff (units : List UInt16) :
    (decodeUtf16 units).isSome = true ↔ WellFormedUtf16 units := by
  constructor
  · intro h
    induction units using decodeUtf16.induct with
    | case1 => exact .nil
    | case2 unit hhigh low rest hlow ih =>
      rw [decodeUtf16_pair hhigh hlow, Option.isSome_map] at h
      exact .pair hhigh hlow (ih h)
    | case3 unit hhigh low rest hlow =>
      rw [decodeUtf16_high_unit hhigh (by simpa using hlow)] at h
      cases h
    | case4 unit hhigh =>
      rw [decodeUtf16_high_end hhigh] at h
      cases h
    | case5 unit rest hhigh hlow =>
      rw [decodeUtf16_low hlow] at h
      cases h
    | case6 unit rest hhigh hlow ih =>
      have hhigh : isHighSurrogate unit = false := by simpa using hhigh
      have hlow : isLowSurrogate unit = false := by simpa using hlow
      rw [decodeUtf16_unit hhigh hlow, Option.isSome_map] at h
      exact .unit hhigh hlow (ih h)
  · intro h
    induction h with
    | nil => rfl
    | unit hhigh hlow _ ih => rwa [decodeUtf16_unit hhigh hlow, Option.isSome_map]
    | pair hhigh hlow _ ih => rwa [decodeUtf16_pair hhigh hlow, Option.isSome_map]

/-- A text is cut at a unit that stands by itself: no surrogate before it finds its partner after
it. -/
theorem decodeUtf16_append (units : List UInt16) (hhigh : isHighSurrogate unit = false)
    (hlow : isLowSurrogate unit = false) (rest : List UInt16) :
    decodeUtf16 (units ++ unit :: rest) =
      (decodeUtf16 units).bind fun before =>
        (decodeUtf16 rest).map fun after => before ++ unitChar unit :: after := by
  induction units using decodeUtf16.induct with
  | case1 => simp [decodeUtf16_unit hhigh hlow, decodeUtf16]
  | case2 high hh low units hl ih =>
    rw [List.cons_append, List.cons_append, decodeUtf16_pair hh hl, decodeUtf16_pair hh hl, ih]
    cases decodeUtf16 units <;> cases decodeUtf16 rest <;> rfl
  | case3 high hh next units hn =>
    have hn : isLowSurrogate next = false := by simpa using hn
    rw [List.cons_append, List.cons_append, decodeUtf16_high_unit hh hn,
      decodeUtf16_high_unit hh hn]
    rfl
  | case4 high hh =>
    rw [List.singleton_append, decodeUtf16_high_unit hh hlow, decodeUtf16_high_end hh]
    rfl
  | case5 low units hh hl =>
    rw [List.cons_append, decodeUtf16_low hl, decodeUtf16_low hl]
    rfl
  | case6 first units hh hl ih =>
    have hh : isHighSurrogate first = false := by simpa using hh
    have hl : isLowSurrogate first = false := by simpa using hl
    rw [List.cons_append, decodeUtf16_unit hh hl, decodeUtf16_unit hh hl, ih]
    cases decodeUtf16 units <;> cases decodeUtf16 rest <;> rfl

/-! ## Characters below U+0080 -/

section
variable {c : Char}

theorem toNat_asciiUnit (h : c.toNat < 0x80) : (asciiUnit c).toNat = c.toNat := by
  rw [asciiUnit, UInt16.toNat_ofNat', Nat.mod_eq_of_lt (by omega)]

theorem asciiUnit_not_surrogate (h : c.toNat < 0x80) :
    isHighSurrogate (asciiUnit c) = false ∧ isLowSurrogate (asciiUnit c) = false := by
  simp only [isHighSurrogate, isLowSurrogate, toNat_asciiUnit h, Bool.and_eq_false_iff,
    decide_eq_false_iff_not]
  omega

theorem unitChar_asciiUnit (h : c.toNat < 0x80) : unitChar (asciiUnit c) = c := by
  rw [unitChar, toNat_asciiUnit h, Char.ofNat_toNat]

theorem decodeUtf16_ascii {text : List Char} (h : ∀ c ∈ text, c.toNat < 0x80) :
    decodeUtf16 (text.map asciiUnit) = some text := by
  induction text with
  | nil => rfl
  | cons c text ih =>
    have hc := h c List.mem_cons_self
    obtain ⟨hhigh, hlow⟩ := asciiUnit_not_surrogate hc
    rw [List.map_cons, decodeUtf16_unit hhigh hlow, ih fun d hd => h d (List.mem_cons_of_mem _ hd),
      unitChar_asciiUnit hc]
    rfl

end

end Text

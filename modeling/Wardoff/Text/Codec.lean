import Wardoff.Text.Lines

/-!
# Values as lines of text

A `Codec` writes values as texts and reads them back. The code that does so may be somebody else's;
what is relied on is then said of the values at hand: the text of a value is one line (`OneLine`),
and the value is read back from it (`Codec.Carries`).

* `OneLine.trimEnd_append`, `OneLine.strip_append`: a reader that takes the end off a line gets the
  text back.
-/

namespace Text

/-- `char::is_whitespace`: the Unicode `White_Space` property. -/
def isWhitespace (c : Char) : Bool :=
  let n := c.toNat
  (9 ≤ n && n ≤ 13) || n == 0x20 || n == 0x85 || n == 0xA0 || n == 0x1680 ||
    (0x2000 ≤ n && n ≤ 0x200A) || n == 0x2028 || n == 0x2029 || n == 0x202F || n == 0x205F ||
    n == 0x3000

/-- `str::trim_end`. -/
def trimEnd (text : String) : String :=
  String.ofList (text.toList.reverse.dropWhile isWhitespace).reverse

/-- There is no newline in the text, and no white space at its end. -/
structure OneLine (text : String) : Prop where
  newline : lf ∉ utf8 text
  ends : ∃ c, text.toList.getLast? = some c ∧ isWhitespace c = false

instance decidableOneLine (text : String) : Decidable (OneLine text) :=
  decidable_of_iff ((utf8 text).contains lf = false ∧
    text.toList.getLast?.any (fun c => !isWhitespace c) = true) <| by
    rw [Option.any_eq_true]
    simp only [List.contains_eq_mem, decide_eq_false_iff_not, Bool.not_eq_true']
    exact ⟨fun ⟨hline, c, hlast, hc⟩ => ⟨hline, c, hlast, hc⟩, fun h => ⟨h.newline, h.ends⟩⟩

structure Codec (α : Type) where
  encode : α → String
  /-- The value, or the text of the error. -/
  decode : String → Except String α

/-- The value is written on one line, and read back from it. -/
structure Codec.Carries {α : Type} (codec : Codec α) (a : α) : Prop where
  line : OneLine (codec.encode a)
  decoded : codec.decode (codec.encode a) = .ok a

variable {text : String}

namespace OneLine

/-- The last byte belongs to the last character. -/
theorem getLast?_ne_cr (h : OneLine text) : (utf8 text).getLast? ≠ some cr := by
  obtain ⟨c, hlast, hc⟩ := h.ends
  obtain ⟨init, he⟩ := List.getLast?_eq_some_iff.1 hlast
  intro hcr
  rw [utf8_eq_flatMap, he, List.flatMap_append, List.flatMap_singleton,
    List.getLast?_append_of_ne_nil _ String.utf8EncodeChar_ne_nil] at hcr
  have hnat : c.toNat = cr.toNat := utf8EncodeChar_ascii (List.mem_of_getLast? hcr) (by decide)
  simp [isWhitespace, hnat, cr] at hc

/-- A line reader that takes the end off its lines. -/
theorem strip_append (h : OneLine text) : strip (utf8 text ++ [lf]) = utf8 text :=
  strip_line h.getLast?_ne_cr

/-- The right trim takes the newline off, and nothing else. -/
theorem trimEnd_append (h : OneLine text) : trimEnd (text ++ "\n") = text := by
  obtain ⟨c, hlast, hc⟩ := h.ends
  obtain ⟨init, he⟩ := List.getLast?_eq_some_iff.1 hlast
  have hnl : isWhitespace '\n' = true := by decide
  have htext : text = String.ofList (init ++ [c]) := by rw [← he, String.ofList_toList]
  have hlist : (text ++ "\n").toList = init ++ [c, '\n'] := by
    rw [String.toList_append, he, List.append_assoc]
    rfl
  rw [trimEnd, hlist, htext]
  simp [hnl, hc]

theorem not_blank (h : OneLine text) : (text ++ "\n").toList.all isWhitespace = false := by
  obtain ⟨c, hlast, hc⟩ := h.ends
  obtain ⟨init, he⟩ := List.getLast?_eq_some_iff.1 hlast
  simp [String.toList_append, he, hc]

end OneLine

end Text

import Wardoff.Text.Utf8

/-!
# Lines of bytes

`pieces` cuts bytes after each newline, as the line readers of `std::io::BufRead` do; `strip` takes
the end of the line off. Lines that were written with their newlines are read back one by one
(`pieces_line`), whatever follows.
-/

namespace Text

/-- The byte `\n`. -/
def lf : UInt8 := 10

/-- The byte `\r`. -/
def cr : UInt8 := 13

/-- The lines, each with its newline; the last one may lack it. -/
def pieces : List UInt8 → List (List UInt8)
  | [] => []
  | b :: bytes =>
    if b = lf then [b] :: pieces bytes
    else match pieces bytes with
      | [] => [[b]]
      | piece :: rest => (b :: piece) :: rest

/-- A line without its end, `\n` or `\r\n`. -/
def strip (piece : List UInt8) : List UInt8 :=
  if piece.getLast? = some lf then
    let line := piece.dropLast
    if line.getLast? = some cr then line.dropLast else line
  else piece

theorem pieces_line {line : List UInt8} (h : lf ∉ line) (rest : List UInt8) :
    pieces (line ++ lf :: rest) = (line ++ [lf]) :: pieces rest := by
  induction line with
  | nil => simp [pieces]
  | cons b line ih =>
    have hb : b ≠ lf := fun he => h (by simp [he])
    have hline : lf ∉ line := fun hm => h (by simp [hm])
    rw [List.cons_append, pieces, if_neg hb, ih hline]
    rfl

/-- A whole text of terminated lines. -/
theorem pieces_flatMap {lines : List (List UInt8)} (h : ∀ line ∈ lines, lf ∉ line) :
    pieces (lines.flatMap fun line => line ++ [lf]) = lines.map fun line => line ++ [lf] := by
  induction lines with
  | nil => rfl
  | cons line lines ih =>
    have hline := h line (by simp)
    have hrest := ih fun l hl => h l (by simp [hl])
    rw [List.flatMap_cons, List.append_assoc, List.singleton_append, pieces_line hline, hrest]
    rfl

theorem strip_line {line : List UInt8} (h : line.getLast? ≠ some cr) :
    strip (line ++ [lf]) = line := by
  simp [strip, h]

end Text

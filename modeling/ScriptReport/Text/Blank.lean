/-
  ScriptReport.Text.Blank

  The blank characters, and trimming. Besides the ASCII controls from tab to carriage return and
  from the file separator to the space, every space and line separator of Unicode is blank.
-/

import ScriptReport.Text.Chars

namespace ScriptReport.Text

/-! ## The class -/

/-- A character that trimming removes. -/
def isBlankChar (c : Char) : Bool :=
  let n := c.toNat
  (9 ≤ n && n ≤ 13) || (28 ≤ n && n ≤ 32) || n == 0x85 || n == 0xA0 || n == 0x1680 ||
    (0x2000 ≤ n && n ≤ 0x200A) || n == 0x2028 || n == 0x2029 || n == 0x202F || n == 0x205F ||
    n == 0x3000

/-- A text of blank characters only; the empty text is one. -/
def isBlank (text : Chars) : Bool := text.all isBlankChar

/-! ## Trimming -/

/-- The text without the blank characters in front. -/
def trimStart (text : Chars) : Chars := text.dropWhile isBlankChar

/-- The text without the characters of the class at its end. -/
def dropEndWhile (p : Char → Bool) (text : Chars) : Chars := (text.reverse.dropWhile p).reverse

/-- The text without the blank characters at its end. -/
def trimEnd (text : Chars) : Chars := dropEndWhile isBlankChar text

/-- The text without blank characters at either end. -/
def trim (text : Chars) : Chars := trimEnd (trimStart text)

/-- The text without the given character at either end. -/
def trimOf (c : Char) (text : Chars) : Chars := dropEndWhile (· == c) (text.dropWhile (· == c))

/-! ## Laws -/

theorem dropWhile_eq_nil_iff {p : Char → Bool} {text : Chars} :
    text.dropWhile p = [] ↔ text.all p = true := by
  induction text with
  | nil => simp
  | cons c rest ih => cases h : p c <;> simp_all

/-- A text is blank exactly when trimming leaves nothing of it. -/
theorem trim_eq_nil_iff (text : Chars) : trim text = [] ↔ isBlank text = true := by
  have split : isBlank text = (trimStart text).all isBlankChar := by
    induction text with
    | nil => rfl
    | cons c rest ih => cases h : isBlankChar c <;> simp_all [isBlank, trimStart]
  rw [split, trim, trimEnd, dropEndWhile, List.reverse_eq_nil_iff, dropWhile_eq_nil_iff,
    List.all_reverse]

end ScriptReport.Text

/-
  ScriptReport.Text.Quoted

  The quoted form of a text in messages: between single quotes, or between double quotes when
  the text holds a single quote and no double one. The quote itself, the backslash and every
  character that is not printable are written as escapes.
-/

import ScriptReport.Text.Chars
import ScriptReport.Text.Printable

namespace ScriptReport.Text

/-! ## Escapes -/

/-- A number in at least `width` lower-case hexadecimal digits. -/
def hex (width n : Nat) : Chars :=
  let digits := Nat.toDigits 16 n
  List.replicate (width - digits.length) '0' ++ digits

/-- The escape by number: two, four or eight digits, as many as the code point needs. -/
def numericEscape (c : Char) : Chars :=
  let n := c.toNat
  if n < 0x100 then "\\x" ++ hex 2 n
  else if n < 0x10000 then "\\u" ++ hex 4 n
  else "\\U" ++ hex 8 n

/-- One character between the given quotes. -/
def quotedChar (quote c : Char) : Chars :=
  if c = quote || c = '\\' then ['\\', c]
  else if c = '\n' then "\\n"
  else if c = '\r' then "\\r"
  else if c = '\t' then "\\t"
  else if isPrintable c then [c]
  else numericEscape c

/-! ## Quoting -/

/-- The quote that encloses the text. -/
def quoteFor (text : Chars) : Char :=
  if text.contains '\'' && !text.contains '"' then '"' else '\''

/-- The quoted form of the text. -/
def quoted (text : Chars) : Chars :=
  let q := quoteFor text
  q :: concatMap (quotedChar q) text ++ [q]

/-- The quoted forms in brackets, separated by commas. -/
def quotedList (texts : List Chars) : Chars := "[" ++ join ", " (texts.map quoted) ++ "]"

end ScriptReport.Text

/-
  ScriptReport.Text.LineBreak

  Cutting a text into lines. Files and captured output differ in which characters end a line, so
  the class is a parameter; a carriage return followed by a line feed always ends one line.
-/

import ScriptReport.Text.Chars

namespace ScriptReport.Text

/-! ## Classes of line ends -/

/-- What ends a line of a file: a line feed or a carriage return. -/
def isFileBreak (c : Char) : Bool := c == '\n' || c == '\r'

/-- What ends a line of captured output: any line, form or record separator. -/
def isOutputBreak (c : Char) : Bool :=
  let n := c.toNat
  (10 ≤ n && n ≤ 13) || (28 ≤ n && n ≤ 30) || n == 0x85 || n == 0x2028 || n == 0x2029

/-! ## Cutting -/

/-- The lines of a text without their ends. A line end at the end of the text starts no further
    line, so the empty text has no lines. -/
def lines (isBreak : Char → Bool) : Chars → List Chars
  | [] => []
  | '\r' :: '\n' :: rest => [] :: lines isBreak rest
  | c :: rest => if isBreak c then [] :: lines isBreak rest else consFirst c (lines isBreak rest)

/-- The lines of a file. -/
def fileLines : Chars → List Chars := lines isFileBreak

/-- The lines of captured output. -/
def outputLines : Chars → List Chars := lines isOutputBreak

/-- The text with every line end of a file written as a line feed. -/
def unifyLineEnds : Chars → Chars
  | [] => []
  | '\r' :: '\n' :: rest => '\n' :: unifyLineEnds rest
  | c :: rest => (if c = '\r' then '\n' else c) :: unifyLineEnds rest

end ScriptReport.Text

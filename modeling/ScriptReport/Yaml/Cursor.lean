/-
  ScriptReport.Yaml.Cursor

  A position in the text of a YAML document: what is left of the text, and the index, line and
  column of its first character. Besides the line feed, the next-line character and the line and
  paragraph separators end a line.
-/

import ScriptReport.Yaml.Fault

namespace ScriptReport.Yaml

/-! ## Character classes -/

/-- A character that ends a line. -/
def isBreak (c : Char) : Bool :=
  c = '\n' || c.toNat = 0x85 || c.toNat = 0x2028 || c.toNat = 0x2029

/-- The end of the text or of a line, or one of the given characters. -/
def endsAt (others : List Char) : Option Char → Bool
  | none => true
  | some c => isBreak c || others.contains c

/-- The end of the text or of a line, or a space. -/
def isSpaceOrEnd : Option Char → Bool := endsAt [' ']

/-- The end of the text or of a line, or a space or tab. -/
def isBlankOrEnd : Option Char → Bool := endsAt [' ', '\t']

/-- A character of names: an ASCII letter or digit, a hyphen or an underscore. -/
def isWordChar (c : Char) : Bool := c.isAlphanum || c = '-' || c = '_'

/-- The mark in front of a text that tells its encoding. -/
def byteOrderMark : Char := Char.ofNat 0xFEFF

/-- A character that may stand in a document. -/
def isAllowed (c : Char) : Bool :=
  let n := c.toNat
  n = 9 || n = 10 || n = 13 || (0x20 ≤ n && n ≤ 0x7E) || n = 0x85 || (0xA0 ≤ n && n ≤ 0xD7FF) ||
    (0xE000 ≤ n && n ≤ 0xFFFD) || 0x10000 ≤ n

/-! ## Positions -/

/-- A position in a text. -/
structure Cursor where
  rest : Chars
  index : Nat := 0
  line : Nat := 0
  column : Nat := 0
  deriving DecidableEq, Repr

namespace Cursor

/-- The next character. -/
def head? (c : Cursor) : Option Char := c.rest.head?

/-- The character after the next one. -/
def second? (c : Cursor) : Option Char := c.rest[1]?

/-- The position after the next character. -/
def next (c : Cursor) : Cursor :=
  match c.rest with
  | [] => c
  | x :: rest =>
    if isBreak x then ⟨rest, c.index + 1, c.line + 1, 0⟩
    else ⟨rest, c.index + 1, c.line, if x = byteOrderMark then c.column else c.column + 1⟩

/-- The position `n` characters further on. -/
def advance : Nat → Cursor → Cursor
  | 0, c => c
  | n + 1, c => advance n c.next

/-- The position after the characters of a class. -/
def skipWhile (p : Char → Bool) (c : Cursor) : Cursor :=
  c.advance (c.rest.takeWhile p).length

/-- The position after the spaces. -/
def skipSpaces (c : Cursor) : Cursor := c.skipWhile (· = ' ')

/-- The position at the end of the line. -/
def skipLine (c : Cursor) : Cursor := c.skipWhile (!isBreak ·)

/-- The position after a comment, if one starts here. -/
def skipComment (c : Cursor) : Cursor := if c.head? = some '#' then c.skipLine else c

/-- The next characters of a class, and the position after them. -/
def takeWhile (p : Char → Bool) (c : Cursor) : Chars × Cursor :=
  (c.rest.takeWhile p, c.skipWhile p)

/-- The line end that stands here, if any, as it counts in a text, and the position after it. -/
def takeBreak (c : Cursor) : Chars × Cursor :=
  match c.head? with
  | some x =>
    if x = '\n' || x.toNat = 0x85 then (['\n'], c.next)
    else if isBreak x then ([x], c.next)
    else ([], c)
  | none => ([], c)

/-- The three given characters stand here, with a blank or an end after them. -/
def isAtMark (mark : Chars) (c : Cursor) : Bool :=
  c.rest.take 3 = mark && isBlankOrEnd c.rest[3]?

/-- A line that separates documents starts here. -/
def isAtSeparator (c : Cursor) : Bool :=
  c.isAtMark ['-', '-', '-'] || c.isAtMark ['.', '.', '.']

end Cursor

/-- What a line end and the empty lines after it become in a text: one line end is a space, and
    of several the first is left out, unless it is a separator. -/
def foldBreaks (first breaks : Chars) : Chars :=
  if first ≠ ['\n'] then first ++ breaks else if breaks = [] then [' '] else breaks

end ScriptReport.Yaml

/-
  ScriptReport.Script.Line

  What a single line of a script is. A line is markup when it starts with one comment text
  repeated and then ends or goes on with a space: one repetition makes a body line, two a section
  header, three a header that does not break the section.
-/

import ScriptReport.Text.Blank

namespace ScriptReport.Script

/-! ## Classes of lines -/

/-- The comment text, `count` times. -/
def repeated (comment : Chars) (count : Nat) : Chars := (List.replicate count comment).flatten

/-- The line starts with `count` repetitions of one comment text and is exactly that long in
    characters or goes on with a space. -/
def isMarkup (comments : List Chars) (count : Nat) (line : Chars) : Bool :=
  comments.any (fun comment => (repeated comment count).isPrefixOf line) &&
    (line.length = count || (line.drop count).head? = some ' ')

/-- A header that starts a new section. -/
def isSectionHeader (comments : List Chars) (line : Chars) : Bool := isMarkup comments 2 line

/-- A header inside the current section. -/
def isInnerHeader (comments : List Chars) (line : Chars) : Bool := isMarkup comments 3 line

/-- A line of the text under a header. -/
def isBodyLine (comments : List Chars) (line : Chars) : Bool := isMarkup comments 1 line

/-- A header of either kind. -/
def isHeader (comments : List Chars) (line : Chars) : Bool :=
  isInnerHeader comments line || isSectionHeader comments line

/-- The class of the line cannot be told: an empty comment text starts every line, and this one
    is too short to be looked at where the markup would end. -/
def isCutShort (comments : List Chars) (count : Nat) (line : Chars) : Bool :=
  comments.any (fun comment => (repeated comment count).isPrefixOf line) && line.length < count

/-! ## The text of a line -/

/-- The line without its first `count` characters and at most one space after them. -/
def stripMarkup (count : Nat) (line : Chars) : Chars :=
  match line.drop count with
  | ' ' :: rest => rest
  | rest => rest

/-- The title on a header line. -/
def headerTitle (comments : List Chars) (line : Chars) : Chars :=
  Text.trim (stripMarkup (if isInnerHeader comments line then 3 else 2) line)

/-! ## Laws -/

@[simp] theorem repeated_one (comment : Chars) : repeated comment 1 = comment := by
  simp [repeated]

/-- For a comment text of one character the markup is that character repeated. -/
theorem repeated_singleton (c : Char) (count : Nat) :
    repeated [c] count = List.replicate count c := by
  induction count with
  | zero => rfl
  | succ n ih => simp_all [repeated, List.replicate_succ]

end ScriptReport.Script

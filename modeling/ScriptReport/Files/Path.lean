/-
  ScriptReport.Files.Path

  Path texts in normal form: repeated slashes and `.` parts are dropped, `..` parts stay, since
  with symbolic links they cannot be cancelled by text alone.
-/

import ScriptReport.Text.Lower

namespace ScriptReport

/-! ## Normal form -/

/-- Where a path starts. Two slashes in front are kept apart from one; three and more are one. -/
inductive PathRoot where
  | relative
  | slash
  | doubleSlash
  deriving DecidableEq, Repr

/-- A path: where it starts, and its non-empty parts. -/
structure Path where
  root : PathRoot
  parts : List Chars
  deriving DecidableEq, Repr

namespace Path

/-- The parts of a text between slashes, empty ones and `.` dropped. -/
def partsOf (text : Chars) : List Chars :=
  (Text.splitOn "/" text).filter fun part => part ≠ [] && part ≠ ['.']

/-- Where a path text starts. -/
def rootOf (text : Chars) : PathRoot :=
  match (text.takeWhile (· = '/')).length with
  | 0 => .relative
  | 2 => .doubleSlash
  | _ => .slash

/-- The path that a text denotes. -/
def ofText (text : Chars) : Path := ⟨rootOf text, partsOf text⟩

/-- The root as text. -/
def rootText : PathRoot → Chars
  | .relative => []
  | .slash => "/"
  | .doubleSlash => "//"

/-- The path as text; the empty relative path is a point. -/
def text (p : Path) : Chars :=
  match p.root, p.parts with
  | .relative, [] => "."
  | root, parts => rootText root ++ Text.join "/" parts

/-- The path starts at a root. -/
def isAbsolute (p : Path) : Bool := p.root ≠ .relative

/-! ## Parts -/

/-- The last part, or nothing for a root and for the empty path. -/
def name (p : Path) : Chars := p.parts.getLast?.getD []

/-- The path without its last part. -/
def parent (p : Path) : Path := { p with parts := p.parts.dropLast }

/-- A file name in front of its last extension, and the extension with its point. A point at
    either end of the name starts no extension. -/
def splitName (name : Chars) : Chars × Chars :=
  match Text.cutAtLast? '.' name with
  | some (stem, extension) =>
    if stem = [] || extension = [] then (name, []) else (stem, '.' :: extension)
  | none => (name, [])

/-- The last part without its extension. -/
def stem (p : Path) : Chars := (splitName p.name).1

/-- The extension of the last part, with its point. -/
def suffix (p : Path) : Chars := (splitName p.name).2

/-! ## Composition -/

/-- The second path as seen from the first; an absolute second path stands for itself. -/
def append (p q : Path) : Path :=
  if q.isAbsolute then q else { p with parts := p.parts ++ q.parts }

/-- The path one part below. -/
def child (p : Path) (part : Chars) : Path := p.append (ofText part)

/-- The parts of `p` below `base`, if `p` lies at or below it. -/
def below? (base p : Path) : Option (List Chars) :=
  if p.root = base.root && base.parts.isPrefixOf p.parts then
    some (p.parts.drop base.parts.length)
  else none

end Path

/-! ## Places -/

/-- A place in the file tree: the names on the way down from the root. -/
abbrev Place := List Chars

namespace Place

/-- The absolute path of a place. -/
def path (place : Place) : Path := ⟨.slash, place⟩

/-- The absolute path text of a place. -/
def text (place : Place) : Chars := '/' :: Text.join "/" place

/-- One step from a place by text alone: `..` goes up, and stays at the root. -/
def step (place : Place) (part : Chars) : Place :=
  if part = "..".toList then place.dropLast else place ++ [part]

end Place

end ScriptReport

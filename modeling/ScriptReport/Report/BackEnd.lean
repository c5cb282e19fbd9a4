/-
  ScriptReport.Report.BackEnd

  The contract between the walk over a document and a report format: one fragment of output for
  each kind of node. Only headings and the footer depend on what came before, and what they need
  to know is a small state: the next anchor, and whether a section container is open. The header
  puts back what an earlier report has left of it.
-/

import ScriptReport.Script.Inline

namespace ScriptReport.Report

open ScriptReport.Script (Style)

/-! ## State -/

/-- Where a report stands: the number of the next anchor, and whether a container is open. -/
structure State where
  counter : Nat := 1
  insideSection : Bool := false
  deriving DecidableEq, Repr

/-- The state with the counter back at one. -/
def State.resetCounter (s : State) : State := { s with counter := 1 }

/-- The number of the next anchor, and the state after it is taken. -/
def State.nextAnchor (s : State) : Nat × State := (s.counter, { s with counter := s.counter + 1 })

/-! ## The contract -/

/-- A report format, as fragments of output. -/
structure BackEnd where
  /-- The extension of report files. -/
  fileSuffix : Chars
  escape : Chars → Chars
  /-- The beginning of a report, from title, rendered introduction and contents. -/
  header : Chars → Chars → List (Chars × Bool) → State → Chars × State
  /-- The end of a report, which keeps the script. -/
  footer : Chars → State → Chars × State
  code : Chars → Chars
  /-- Output of code, and whether it ends in an error. -/
  codeOutput : Chars → Bool → Chars
  /-- The heading of a new section. -/
  section_ : Chars → State → Chars × State
  /-- A heading inside the current section. -/
  sectionNoBreak : Chars → State → Chars × State
  preformattedCode : Chars → Chars
  preformattedText : Chars → Chars
  bulletedList : List Chars → Chars
  numberedList : List Chars → Chars
  /-- A file that is shown, from its path and, if it could be read, its text. -/
  included : Chars → Option Chars → Chars
  graphic : Chars → Chars
  /-- The figures that code has drawn. -/
  gallery : List Chars → Chars
  html : Chars → Chars
  latex : Chars → Chars
  /-- A paragraph of rendered text. -/
  text : Chars → Chars
  styled : Style → Chars → Chars
  /-- A link, from its address and its escaped label. -/
  link : Chars → Chars → Chars
  mathInline : Chars → Chars
  mathBlock : Chars → Chars
  trademark : Chars
  registered : Chars

/-! ## The embedded script -/

/-- The line before the script in a report. -/
def sourceBegin : Chars := "##### SOURCE BEGIN #####"

/-- The line after the script in a report. -/
def sourceEnd : Chars := "##### SOURCE END #####"

end ScriptReport.Report

/-
  ScriptReport.Settings.Config

  What a configuration holds, and the built-in one.
-/

import ScriptReport.Text.Chars

namespace ScriptReport

/-! ## Formats -/

/-- The report formats. -/
inductive Format where
  | html
  | latex
  deriving DecidableEq, Repr

/-- The name by which a format is asked for. -/
def Format.name : Format → Chars
  | .html => "html"
  | .latex => "latex"

/-- The format of a name. -/
def Format.ofName? (name : Chars) : Option Format :=
  if name = Format.html.name then some .html
  else if name = Format.latex.name then some .latex
  else none

/-- The names of the formats. -/
def Format.names : List Chars := [Format.html.name, Format.latex.name]

@[simp] theorem Format.ofName?_name (f : Format) : Format.ofName? f.name = some f := by
  cases f <;> rfl

/-! ## Configurations -/

/-- A configuration. Its fields are held as they were written; what makes them usable is checked
    when a configuration is loaded and when options are drawn from it. -/
structure Config where
  /-- The texts that make a line a comment, usually two single characters. -/
  comments : List Chars := ["%", "#"]
  format : Chars := "html"
  imageFormat : Option Chars := none
  showCode : Bool := true
  evalCode : Bool := true
  catchError : Bool := true
  maxOutputLines : Option Int := none
  outputDir : Option Chars := none
  codeToEvaluate : Chars := []
  /-- The command line that code is evaluated with. -/
  interpreter : List Chars := ["octave-cli", "--no-gui", "--quiet"]
  /-- The extensions of scripts, in lower case. -/
  scriptSuffixes : List Chars := [".m"]
  deriving DecidableEq, Repr

end ScriptReport

/-
  ScriptReport.Settings.Load

  Reading a configuration from a file. Each key is optional; the values are checked one key after
  another, and unknown keys are ignored.
-/

import ScriptReport.Fault
import ScriptReport.Files.Disk
import ScriptReport.Text.LineBreak
import ScriptReport.Text.Lower
import ScriptReport.Yaml.Load

namespace ScriptReport

open Text (Wide)

/-! ## Written configurations -/

/-- A configuration as a document writes it. Its texts may hold surrogates. -/
structure WrittenConfig where
  comments : List Wide
  format : Chars
  imageFormat : Option Wide
  showCode : Bool
  evalCode : Bool
  catchError : Bool
  maxOutputLines : Option Int
  outputDir : Option Wide
  codeToEvaluate : Wide
  interpreter : List Wide
  scriptSuffixes : List Wide
  deriving DecidableEq, Repr

namespace WrittenConfig

open Yaml (Cell Document Value)

/-- A configuration of characters only. -/
def ofConfig (c : Config) : WrittenConfig where
  comments := c.comments.map Wide.ofChars
  format := c.format
  imageFormat := c.imageFormat.map Wide.ofChars
  showCode := c.showCode
  evalCode := c.evalCode
  catchError := c.catchError
  maxOutputLines := c.maxOutputLines
  outputDir := c.outputDir.map Wide.ofChars
  codeToEvaluate := Wide.ofChars c.codeToEvaluate
  interpreter := c.interpreter.map Wide.ofChars
  scriptSuffixes := c.scriptSuffixes.map Wide.ofChars

/-- The configuration with its texts as characters. -/
def toConfig (c : WrittenConfig) : Config where
  comments := c.comments.map Wide.toChars
  format := c.format
  imageFormat := c.imageFormat.map Wide.toChars
  showCode := c.showCode
  evalCode := c.evalCode
  catchError := c.catchError
  maxOutputLines := c.maxOutputLines
  outputDir := c.outputDir.map Wide.toChars
  codeToEvaluate := c.codeToEvaluate.toChars
  interpreter := c.interpreter.map Wide.toChars
  scriptSuffixes := c.scriptSuffixes.map Wide.toChars

/-- A configuration of characters only can be written and read back. -/
@[simp] theorem toConfig_ofConfig (c : Config) : (ofConfig c).toConfig = c := by
  simp [toConfig, ofConfig, Function.comp_def]

/-! ## Values of single keys -/

/-- Reading a value whose collections lie in the given cells. -/
abbrev ValueReader (α : Type) := Array Cell → Value → Except ConfigFault α

/-- The value as a text. -/
def readShown : ValueReader Wide := fun cells value =>
  match value.shown? cells with
  | some text => .ok text
  | none => .error .overlongInteger

/-- The members of a list or of a list of pairs, each as a text; other values have none. -/
def members? (cells : Array Cell) : Value → Option (List (Except ConfigFault Wide))
  | .collection cell =>
    match cells[cell]? with
    | some (.list items) => some (items.map (readShown cells))
    | some (.pairs items) => some (items.map (readPair cells))
    | _ => none
  | _ => none
where
  /-- A pair as a text. -/
  readPair (cells : Array Cell) (pair : Value × Value) : Except ConfigFault Wide :=
    match Value.quotedPair? cells pair with
    | some text => .ok (Wide.ofChars text)
    | none => .error .overlongInteger

/-- A truth value. -/
def readFlag (key : Chars) : ValueReader Bool := fun _ value =>
  match value with
  | .flag b => .ok b
  | _ => .error (.notFlag key)

/-- A limit that is not negative, or none. -/
def readLimit : ValueReader (Option Int) := fun _ value =>
  match value with
  | .null => .ok none
  | .integer n => if n < 0 then .error .negativeLimit else .ok (some n)
  | _ => .error .limitIsNoInteger

/-- Two different characters. -/
def readComments : ValueReader (List Wide) := fun cells value =>
  match members? cells value with
  | some [a, b] => do
    let a ← a
    let b ← b
    if a.length ≠ 1 || b.length ≠ 1 || a = b then throw .commentsAreNotDistinct
    return [a, b]
  | _ => .error .commentsAreNoPair

/-- At least one text. -/
def readTextList (key : Chars) : ValueReader (List Wide) := fun cells value =>
  match members? cells value with
  | some (first :: rest) => (first :: rest).mapM id
  | _ => .error (.notTextList key)

/-- The name of a format, in any case. -/
def readFormat : ValueReader Chars := fun cells value => do
  let text ← readShown cells value
  match Format.ofName? text.lower.marked with
  | some format => return format.name
  | none => throw .unsupportedFormat

/-- A text, or none. -/
def readText? (key : Chars) : ValueReader (Option Wide) := fun _ value =>
  match value with
  | .null => .ok none
  | .text t => .ok (some t)
  | _ => .error (.notText key)

/-! ## Whole configurations -/

/-- The configuration that the entries of a mapping describe. -/
def ofEntries (cells : Array Cell) (entries : List (Value × Value)) :
    Except ConfigFault WrittenConfig := do
  let usual := ofConfig {}
  let field {α : Type} (key : Chars) (usual : α) (read : ValueReader α) : Except ConfigFault α :=
    match Value.lookup? key entries with
    | some value => read cells value
    | none => .ok usual
  let comments ← field "comment_chars" usual.comments readComments
  let format ← field "format" usual.format readFormat
  let imageFormat ← field "image_format" usual.imageFormat (readText? "image_format")
  let showCode ← field "show_code" usual.showCode (readFlag "show_code")
  let evalCode ← field "eval_code" usual.evalCode (readFlag "eval_code")
  let catchError ← field "catch_error" usual.catchError (readFlag "catch_error")
  let maxOutputLines ← field "max_output_lines" usual.maxOutputLines readLimit
  let outputDir ← field "output_dir" usual.outputDir (readText? "output_dir")
  let code ← field "code_to_evaluate" none (readText? "code_to_evaluate")
  let interpreter ← field "interpreter" usual.interpreter (readTextList "interpreter")
  let suffixes ← field "script_suffixes" usual.scriptSuffixes (readTextList "script_suffixes")
  return {
    comments, format, imageFormat, showCode, evalCode, catchError, maxOutputLines, outputDir
    interpreter
    codeToEvaluate := code.getD []
    scriptSuffixes := ((suffixes.map Wide.lower).eraseDups).mergeSort Wide.le }

/-- The configuration that a document describes. An empty document describes the built-in one. -/
def ofDocument (document : Document) : Except ConfigFault WrittenConfig :=
  match document.root with
  | .null => ofEntries document.cells []
  | .collection cell =>
    match document.cells[cell]? with
    | some (.mapping entries) => ofEntries document.cells entries
    | _ => .error .rootIsNoMapping
  | _ => .error .rootIsNoMapping

/-- The configuration in the file at a path. -/
def load (disk : Disk) (path : Path) : Except Fault WrittenConfig := do
  let text ← (disk.readText path).mapError Fault.file
  let document ← (Yaml.load (Text.unifyLineEnds text)).mapError Fault.document
  (ofDocument document).mapError Fault.config

end WrittenConfig

/-- The configuration in the file at a path. -/
def Config.load (disk : Disk) (path : Path) : Except Fault Config :=
  (WrittenConfig.load disk path).map WrittenConfig.toConfig

end ScriptReport

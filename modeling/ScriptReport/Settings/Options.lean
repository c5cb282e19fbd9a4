/-
  ScriptReport.Settings.Options

  The options of one run: drawn from a configuration, with single options overridden, and then
  checked. What overrides an option may be of any kind until it is checked.
-/

import ScriptReport.Settings.Config
import ScriptReport.Settings.Datum

namespace ScriptReport

/-! ## Options -/

/-- The options of one run. The format is held by name, since a record may be built unchecked. -/
structure Options where
  format : Chars := "html"
  imageFormat : Option Chars := none
  showCode : Bool := true
  evalCode : Bool := true
  catchError : Bool := true
  maxOutputLines : Option Int := none
  outputDir : Option Chars := none
  codeToEvaluate : Chars := []
  deriving DecidableEq, Repr

namespace Options

/-- The image format: as asked for, or the usual one of the report format. -/
def resolvedImageFormat (o : Options) : Chars :=
  match o.imageFormat with
  | some (c :: rest) => c :: rest
  | _ => if o.format = Format.latex.name then "epsc2" else "png"

/-- The output directory: as asked for, or one named like the format. -/
def resolvedOutputDir (o : Options) : Chars :=
  match o.outputDir with
  | some (c :: rest) => c :: rest
  | _ => o.format

end Options

/-- The options that a configuration asks for. -/
def Options.ofConfig (config : Config) : Options where
  format := config.format
  imageFormat := config.imageFormat
  showCode := config.showCode
  evalCode := config.evalCode
  catchError := config.catchError
  maxOutputLines := config.maxOutputLines
  outputDir := config.outputDir
  codeToEvaluate := config.codeToEvaluate

/-! ## Checks -/

/-- Why options are refused. -/
inductive OptionsFault where
  | unknownOption (name : Chars)
  /-- An option has the name of something that is given apart from the options. -/
  | takenName (name : Chars)
  /-- There is no such format; it is named as messages show it. -/
  | unsupportedFormat (shown : Chars)
  | badLimit
  deriving DecidableEq, Repr

/-- The option does not exist. -/
def OptionsFault.isNameFault : OptionsFault → Bool
  | .unknownOption _ => true
  | .takenName _ => true
  | _ => false

/-- The text that reports the fault. -/
def OptionsFault.message : OptionsFault → Chars
  | .unknownOption name => "Unknown publish option: " ++ name
  | .takenName name =>
    "PublishOptions.from_config() got multiple values for argument " ++ Text.quoted name
  | .unsupportedFormat shown =>
    "Output format " ++ shown ++ " not supported (use one of: " ++
      Text.join ", " Format.names ++ ")"
  | .badLimit => "max_output_lines must be an integer >= 0"

/-- A limit that is asked for is an integer that is not negative. -/
def isLimit : Datum → Bool
  | .null => true
  | .integer n => 0 ≤ n
  | _ => false

/-! ## Drafts -/

/-- Options of any kind, before they are checked. -/
structure Options.Draft where
  format : Datum
  imageFormat : Datum
  showCode : Datum
  evalCode : Datum
  catchError : Datum
  maxOutputLines : Datum
  outputDir : Datum
  codeToEvaluate : Datum
  deriving Repr

/-- A single option given beside a configuration. -/
structure Override where
  name : Chars
  value : Datum
  deriving Repr

namespace Options.Draft

/-- The draft of the given options. -/
def ofOptions (o : Options) : Draft where
  format := .text o.format
  imageFormat := .ofText? o.imageFormat
  showCode := .flag o.showCode
  evalCode := .flag o.evalCode
  catchError := .flag o.catchError
  maxOutputLines := .ofInt? o.maxOutputLines
  outputDir := .ofText? o.outputDir
  codeToEvaluate := .text o.codeToEvaluate

/-- The options of a draft, each by what it counts as. -/
def toOptions (d : Draft) : Options where
  format := d.format.text?.getD []
  imageFormat := d.imageFormat.text?
  showCode := d.showCode.holds
  evalCode := d.evalCode.holds
  catchError := d.catchError.holds
  maxOutputLines := d.maxOutputLines.int?
  outputDir := d.outputDir.text?
  codeToEvaluate := d.codeToEvaluate.text?.getD []

/-- The draft of options stands for just these options. -/
@[simp] theorem toOptions_ofOptions (o : Options) : (ofOptions o).toOptions = o := by
  rcases o with ⟨format, imageFormat, showCode, evalCode, catchError, limit, outputDir, code⟩
  cases imageFormat <;> cases limit <;> cases outputDir <;> rfl

/-- The image format: as asked for, or the usual one of the report format. -/
def resolvedImageFormat (d : Draft) : Datum :=
  if d.imageFormat.holds then d.imageFormat
  else .text (if d.format.text? = some Format.latex.name then "epsc2" else "png")

/-- The output directory: as asked for, or one named like the format. -/
def resolvedOutputDir (d : Draft) : Datum := if d.outputDir.holds then d.outputDir else d.format

/-- The draft with the option of a name replaced, if there is one. -/
def set? (d : Draft) (name : Chars) (value : Datum) : Option Draft :=
  if name = "format".toList then some { d with format := value }
  else if name = "image_format".toList then some { d with imageFormat := value }
  else if name = "show_code".toList then some { d with showCode := value }
  else if name = "eval_code".toList then some { d with evalCode := value }
  else if name = "catch_error".toList then some { d with catchError := value }
  else if name = "max_output_lines".toList then some { d with maxOutputLines := value }
  else if name = "output_dir".toList then some { d with outputDir := value }
  else if name = "code_to_evaluate".toList then some { d with codeToEvaluate := value }
  else none

/-- The draft with one option overridden; no value leaves it as it is. -/
def override (d : Draft) (o : Override) : Except OptionsFault Draft :=
  match d.set? o.name o.value with
  | none => .error (.unknownOption o.name)
  | some replaced => .ok (if o.value.isNull then d else replaced)

/-- The names of the arguments that stand beside the options. -/
def takenNames : List Chars := ["cls", "cfg"]

/-- The draft with the given options on top. -/
def overrideAll (d : Draft) (overrides : List Override) : Except OptionsFault Draft :=
  match overrides.find? fun o => takenNames.contains o.name with
  | some o => .error (.takenName o.name)
  | none => overrides.foldlM override d

/-- Options are valid if their format exists and their limit is an integer that is not
    negative. The format is looked at first. -/
def check (d : Draft) : Except OptionsFault Draft :=
  if (d.format.text?.bind Format.ofName?).isNone then .error (.unsupportedFormat d.format.quoted)
  else if !isLimit d.maxOutputLines then .error .badLimit
  else .ok d

end Options.Draft

/-! ## From a configuration -/

/-- The checked options of a configuration with the given ones put over it. An unknown option is
    reported before any value is checked. -/
def Options.fromConfig (config : Config) (overrides : List Override) :
    Except OptionsFault Options := do
  let draft ← (Options.Draft.ofOptions (Options.ofConfig config)).overrideAll overrides
  return (← draft.check).toOptions

/-- Options are valid if they pass the check as they are. -/
def Options.isValid (o : Options) : Bool :=
  (Format.ofName? o.format).isSome && isLimit (.ofInt? o.maxOutputLines)

/-- Valid options pass the check. -/
theorem Options.check_of_isValid {o : Options} (h : o.isValid = true) :
    (Options.Draft.ofOptions o).check = .ok (Options.Draft.ofOptions o) := by
  simp only [Options.isValid, Bool.and_eq_true] at h
  simp [Options.Draft.check, Options.Draft.ofOptions, Datum.text?, h.2, Option.isSome_iff_ne_none.mp h.1]

end ScriptReport

/-
  ScriptReport.Publish.Report

  From the lines of a script to a report, and from a script file to a report file. The report file
  is written last, so a run that stops leaves an earlier report as it was.
-/

import ScriptReport.Evaluation.Interpreter
import ScriptReport.Publish.Include
import ScriptReport.Report.Render

namespace ScriptReport.Publish

open ScriptReport.Script ScriptReport.Evaluation

/-! ## Reports of lines -/

/-- How making a report went: the warnings, the report or the fault, and the evaluator's state. -/
structure TextRun (σ : Type) where
  warnings : List Warning
  report : Except Fault Chars
  state : σ

/-- Where included files are looked for. -/
structure IncludeBase where
  disk : Disk
  script : Path

variable {σ κ : Type}

/-- The document of a script with its included files, the warnings, and the fault that stopped
    it. -/
def prepare (comments : List Chars) (sourceName : Chars) (base : Option IncludeBase)
    (lines : List Chars) : Document × List Warning × Option Fault :=
  match documentOf comments sourceName lines with
  | .error fault => ({}, [], some fault)
  | .ok (doc, warnings) =>
    match base with
    | none => (doc, warnings, none)
    | some base =>
      let (doc, more, fault) := resolveIncludes base.disk base.script doc
      (doc, warnings ++ more, fault)

/-- The document after its code has been run, if the options ask for it. -/
def evaluateIf (e : Evaluator σ κ) (o : Options) (doc : Document) (s : σ) :
    Document × Option Fault × σ :=
  if o.evalCode then evaluate e o doc s else (doc, none, s)

/-- The report of a document in the format of the options. -/
def reportOf (o : Options) (doc : Document) : Except Fault Chars :=
  match Format.ofName? o.format with
  | some format => .ok (Report.report format o.showCode doc)
  | none => .error (.noRenderer o.format)

/-- The report of the lines of a script. -/
def publishText (comments : List Chars) (o : Options) (sourceName : Chars)
    (base : Option IncludeBase) (e : Evaluator σ κ) (lines : List Chars) (s : σ) : TextRun σ :=
  match prepare comments sourceName base lines with
  | (_, warnings, some fault) => ⟨warnings, .error fault, s⟩
  | (doc, warnings, none) =>
    match evaluateIf e o doc s with
    | (_, some fault, s) => ⟨warnings, .error fault, s⟩
    | (doc, none, s) => ⟨warnings, reportOf o doc, s⟩

/-! ## Reports of files -/

/-- Where the report of a script goes. -/
def outputPath (script : Path) (o : Options) : Path :=
  let directory := script.parent.append (Path.ofText o.resolvedOutputDir)
  let suffix := if o.format = Format.latex.name then ".tex".toList else ".html"
  directory.child (script.stem ++ suffix)

/-- What is known before anything is changed: the script, the options, and the report's path. -/
structure Plan where
  script : Path
  options : Options
  output : Path
  deriving Repr

/-- Checks that the path leads to a script and that the options are valid. -/
def plan (config : Config) (given : Option Options) (disk : Disk) (path : Path) :
    Except Fault Plan := do
  let script ← onFiles (disk.resolve false path)
  if !(← onFiles (disk.hasFile script)) then throw (.missing script.text)
  checkSuffix config.scriptSuffixes script
  let options ← match given with
    | some o => pure o
    | none => (Options.fromConfig config []).mapError Fault.options
  return { script, options, output := outputPath script options }

/-- The interpreter that a plan asks for: figures go beside the report. -/
def Plan.interpreter (p : Plan) (config : Config) : Interpreter where
  command := config.interpreter
  figureDir := some p.output.parent
  figurePrefix := p.script.stem
  imageFormat := p.options.resolvedImageFormat

/-- Publishes the script at a path with the evaluator that is made for its plan, and answers with
    the path of the report. -/
def publishWith (evaluator : Interpreter → Evaluator (σ × World) κ) (config : Config)
    (given : Option Options) (path : Path) (s : σ) (w : World) : Except Fault Path × σ × World :=
  match plan config given w.disk path with
  | .error fault => (.error fault, s, w)
  | .ok p =>
    match w.disk.makeDirectories p.output.parent with
    | (disk, some fault) => (.error (.file fault), s, { w with disk })
    | (disk, none) =>
      match readScriptLines disk p.script with
      | .error fault => (.error fault, s, { w with disk })
      | .ok lines =>
        let run := publishText config.comments p.options p.script.name (some ⟨disk, p.script⟩)
          (evaluator (p.interpreter config)) lines (s, { w with disk })
        let w := run.state.2.warn run.warnings
        match run.report with
        | .error fault => (.error fault, run.state.1, w)
        | .ok text =>
          match w.disk.write p.output (Text.Utf8.encode text) with
          | .error fault => (.error (.file fault), run.state.1, w)
          | .ok disk => (.ok p.output, run.state.1, { w with disk })

/-- Publishes the script at a path, its code run by the interpreter of the configuration. -/
def publish (config : Config) (given : Option Options) (path : Path) (w : World) :
    Except Fault Path × World :=
  let (answer, _, w) := publishWith Interpreter.evaluator config given path 0 w
  (answer, w)

end ScriptReport.Publish

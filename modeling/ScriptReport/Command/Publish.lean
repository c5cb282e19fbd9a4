/-
  ScriptReport.Command.Publish

  The command that publishes a script.
-/

import ScriptReport.Command.Outline
import ScriptReport.Publish.Report

namespace ScriptReport.Command.Publish

open ScriptReport.Script ScriptReport.Publish

/-! ## Arguments -/

/-- The name of the command. -/
def name : Chars := "publish"

/-- The switches of the command. -/
def switches : List Switch :=
  [helpSwitch,
   ⟨["-f", "--format"], .value fun text => (Format.ofName? text).isSome⟩,
   ⟨["-o", "--output-dir"], anyValue⟩,
   ⟨["--image-format"], anyValue⟩,
   ⟨["--max-output-lines"], .value fun text => (Text.readInt? text).isSome⟩,
   ⟨["--no-code"], .flag⟩,
   ⟨["--no-eval"], .flag⟩,
   ⟨["--no-catch-error"], .flag⟩,
   ⟨["-c", "--config"], anyValue⟩,
   ⟨["-v", "--verbose"], .flag⟩]

/-- The value of a switch as that of an option. -/
def datumOf (read : Chars → Datum) : Given → Datum
  | .flag => .null
  | .text t => read t
  | .nothing => .list []

/-- The option that a switch sets, if it is given. -/
def setBy (arguments : Arguments) (switch option : Chars) (read : Chars → Datum) : List Override :=
  ((arguments.last? switch).map fun value => ⟨option, datumOf read value⟩).toList

/-- The option that a flag turns off. -/
def turnedOff (arguments : Arguments) (flag option : Chars) : List Override :=
  if arguments.has flag then [⟨option, .flag false⟩] else []

/-- The options that a command line overrides. -/
def overrides (arguments : Arguments) : List Override :=
  setBy arguments "-f" "format" .text ++
  setBy arguments "-o" "output_dir" .text ++
  setBy arguments "--image-format" "image_format" .text ++
  setBy arguments "--max-output-lines" "max_output_lines" (fun t => .ofInt? (Text.readInt? t)) ++
  turnedOff arguments "--no-code" "show_code" ++
  turnedOff arguments "--no-eval" "eval_code" ++
  turnedOff arguments "--no-catch-error" "catch_error"

/-! ## The command -/

/-- Publishes the script at a path and prints the path of the report. -/
def publishPath (config : Config) (options : Options) (path : Path) (w : World) :
    Ending × World :=
  match publish config (some options) path w with
  | (.ok report, w) => (.answer report.text, w)
  | (.error fault, w) => (.failure name 1 ("Error while publishing: " ++ fault.message), w)

/-- Prints the outline of the script at a path before publishing it. -/
def outlineFirst (config : Config) (options : Options) (path : Path) (w : World) :
    Ending × World :=
  match readDocument config w.disk path with
  | .error fault =>
    if fault.isSystemFault then
      (.failure name 2 ("Cannot read " ++ path.text ++ ": " ++ fault.message), w)
    else (.broken fault, w)
  | .ok (doc, warnings) =>
    let (ending, w) := publishPath config options path (w.warn warnings)
    (ending.after (grayLines doc.outline), w)

/-- Runs the command. -/
def run (words : List Chars) (w : World) : Ending × World :=
  match Arguments.read switches words with
  | .error usage => (.usage usage, w)
  | .ok arguments =>
    match configOf w.disk (arguments.value? "-c") with
    | .error fault => (.failure name 2 ("Failed to load config: " ++ fault.message), w)
    | .ok config =>
      match Options.fromConfig config (overrides arguments) with
      | .error fault => (.failure name 2 ("Invalid options: " ++ fault.message), w)
      | .ok options =>
        let path := Path.ofText arguments.input
        if arguments.has "-v" then outlineFirst config options path w
        else publishPath config options path w

end ScriptReport.Command.Publish

/-
  ScriptReport.Command.Outline

  The command that prints the structure of a script.
-/

import ScriptReport.Command.Ending
import ScriptReport.Publish.Input
import ScriptReport.Script.Outline
import ScriptReport.Settings.Load
import ScriptReport.World

namespace ScriptReport.Command

open ScriptReport.Script ScriptReport.Publish

/-! ## Reading scripts -/

/-- The document in a script file, named by the path it was given, and the warnings. -/
def readDocument (config : Config) (disk : Disk) (path : Path) :
    Except Fault (Document × List Warning) := do
  documentOf config.comments path.name (← readScriptLines disk path)

/-- The built-in configuration, or the one in the file that is named. -/
def configOf (disk : Disk) : Option Chars → Except Fault Config
  | some (c :: rest) => Config.load disk (Path.ofText (c :: rest))
  | _ => .ok {}

/-! ## The command -/

namespace Outline

/-- The name of the command. -/
def name : Chars := "m_reader"

/-- The switches of the command. -/
def switches : List Switch :=
  [helpSwitch, ⟨["--config"], anyValue⟩, ⟨["--root"], anyValue⟩]

/-- The final path of the directory that scripts have to lie in, if one is named. -/
def rootOf (disk : Disk) : Option Chars → Except Fault (Option Path)
  | some (c :: rest) => do
    let path ← onFiles (disk.expandHome (Path.ofText (c :: rest)))
    return some (← onFiles (disk.resolve true path))
  | _ => .ok none

/-- Prints the outline of the script at a path. -/
def show_ (config : Config) (path : Path) (w : World) : Ending × World :=
  match readDocument config w.disk path with
  | .error fault => (.failure name 1 ("Error while reading: " ++ fault.message), w)
  | .ok (doc, warnings) => (.finished 0 [] (grayLines doc.outline), w.warn warnings)

/-- Runs the command. -/
def run (words : List Chars) (w : World) : Ending × World :=
  match Arguments.read switches words with
  | .error usage => (.usage usage, w)
  | .ok arguments =>
    match configOf w.disk (arguments.value? "--config") with
    | .error fault => (.failure name 2 ("Failed to load config: " ++ fault.message), w)
    | .ok config =>
      match rootOf w.disk (arguments.value? "--root") with
      | .error fault => (.failure name 2 ("Invalid --root: " ++ fault.message), w)
      | .ok root =>
        match safeInputPath w.disk arguments.input root with
        | .error fault => (.failure name 2 ("Invalid input path: " ++ fault.message), w)
        | .ok path => show_ config path w

end Outline

end ScriptReport.Command

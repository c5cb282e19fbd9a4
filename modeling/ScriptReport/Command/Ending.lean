/-
  ScriptReport.Command.Ending

  How a run of a command ends, and what it prints.
-/

import ScriptReport.Command.Arguments
import ScriptReport.Fault

namespace ScriptReport.Command

/-- How a run ends. -/
inductive Ending where
  /-- The command line is not run. -/
  | usage (u : Usage)
  /-- The run has come to its end, with what it has printed on both channels. -/
  | finished (status : Nat) (output errors : Chars)
  /-- A fault that the command does not report ends the run. -/
  | broken (fault : Fault)
  deriving Repr

namespace Ending

/-- A text as a line. -/
def line (text : Chars) : Chars := text ++ ['\n']

/-- A success that prints one line. -/
def answer (text : Chars) : Ending := .finished 0 (line text) []

/-- A failure that is reported on one line, after the name of the command. -/
def failure (command : Chars) (status : Nat) (report : Chars) : Ending :=
  .finished status [] (line ("[" ++ command ++ "] " ++ report))

/-- The ending with text printed on the error channel before. -/
def after (errors : Chars) : Ending → Ending
  | .finished status output later => .finished status output (errors ++ later)
  | ending => ending

end Ending

/-- A line of the outline of a script, in gray. -/
def grayLine (text : Chars) : Chars := Ending.line ("\x1b[90m" ++ text ++ "\x1b[0m")

/-- The lines of an outline, in gray. -/
def grayLines (lines : List Chars) : Chars := Text.concatMap grayLine lines

end ScriptReport.Command

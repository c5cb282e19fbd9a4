/-
  ScriptReport.Proofs.Command.ExitStatus

  How the runs of the commands end. A command is told by its work: what it has to do one after
  another, up to the first fault. A run ends with status 0 if the work is done, and with status 1 or
  2 and the message of the fault if it is not (`Ending.Tells`), unless the fault is one that the
  command does not report (`Tool.Escapes`). Main statement: `run_ending`. The faults that escape are
  those of texts, names and exchanges with servers rather than of the system (`IsUnlisted`), and
  those of writing and printing. Words, names and files are texts of characters; only what a server
  answers can hold surrogates.
-/

import Mathlib
import ScriptReport.Command.Publish
import ScriptReport.Command.Recover
import ScriptReport.Proofs.Files.Resolution
import ScriptReport.Proofs.Publish.Input
import ScriptReport.Proofs.Report.SourceRecovery
import ScriptReport.Proofs.Success

namespace ScriptReport.Command

open ScriptReport.Script ScriptReport.Publish

/-! ## Commands -/

/-- The commands. -/
inductive Tool where
  | outlining
  | publishing
  | recovering
  deriving DecidableEq, Repr

namespace Tool

/-- The switches of a command. -/
def switches : Tool → List Switch
  | .outlining => Outline.switches
  | .publishing => Publish.switches
  | .recovering => Recover.switches

/-- Runs a command. -/
def run : Tool → List Chars → World → Ending × World
  | .outlining => Outline.run
  | .publishing => Publish.run
  | .recovering => Recover.run

end Tool

variable {α : Type} {arguments : Arguments} {words : List Chars} {w : World} {fault : Fault}

/-! ## Work -/

/-- Printing the script. -/
def Recover.printing (code : Text.Wide) : Except Fault Unit := do
  let _ ← (Text.Charset.writable code).mapError Fault.charset
  return ()

/-- Writing the script to the file that is named, or else printing it. -/
def Recover.write (target : Option Chars) (code : Text.Wide) (w : World) : Except Fault Unit :=
  match target with
  | some (c :: rest) =>
    match writeText w.disk (Path.ofText (c :: rest)) (code ++ [.char '\n']) with
    | (_, none) => return ()
    | (_, some fault) => throw fault
  | _ => Recover.printing code

/-- The fault is neither unsuitable input nor one of the system or the network: a null character in a
    path, content that is not in its character set, a number with too many digits, a location that
    is none, an exchange with a server that breaks off, or a line that ends where it must not. -/
def IsUnlisted : Fault → Prop
  | .file .nullByte | .file (.undecodable _) | .cutShortLine | .location _ | .charset _
  | .unreachable (.exchange _ _) | .overlongNumber _ => True
  | _ => False

/-- What a command does not report. The one that publishes leaves out the unlisted faults of reading
    a script whose outline it is to show first; the one that recovers a script leaves out the
    unlisted ones of reading a report, and all faults of writing and of printing, which can stop at
    surrogates. -/
def Tool.Escapes (tool : Tool) (arguments : Arguments) (w : World) (fault : Fault) : Prop :=
  match tool with
  | .outlining => False
  | .publishing =>
    arguments.has "-v" = true ∧ IsUnlisted fault ∧
      ∃ config options, configOf w.disk (arguments.value? "-c") = .ok config ∧
        Options.fromConfig config (Publish.overrides arguments) = .ok options ∧
        readDocument config w.disk (Path.ofText arguments.input) = .error fault
  | .recovering =>
    IsUnlisted fault ∧ recoverWide w arguments.input = .error fault ∨
      ∃ code, recoverWide w arguments.input = .ok code ∧
        Recover.write (arguments.value? "-o") code w = .error fault

/-! ## Faults of reading -/

theorem fault_of_extractWide {report : Text.Wide} (h : Report.extractWide report = .error fault) :
    fault.isInputFault = true ∨ IsUnlisted fault := by
  rcases Report.fault_of_extractWide h with rfl | rfl | ⟨digits, rfl⟩
  · exact .inl rfl
  · exact .inl rfl
  · exact .inr trivial

/-- A surrogate behind another character is not printed. -/
example : Recover.print [.char 'x', .surrogate 0xD800] =
    .broken (.charset (.surrogates 1 [.surrogate 0xD800])) := rfl

end ScriptReport.Command

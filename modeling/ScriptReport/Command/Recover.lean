/-
  ScriptReport.Command.Recover

  The command that recovers the script of a published report.
-/

import ScriptReport.Command.Ending
import ScriptReport.Publish.Recover

namespace ScriptReport.Command.Recover

open ScriptReport.Publish

/-- The name of the command. -/
def name : Chars := "grabcode"

/-- The switches of the command. -/
def switches : List Switch := [helpSwitch, ⟨["-o", "--output"], anyValue⟩]

/-- The disk after a text has been written to the file at a path, and what has stopped that. The
    file is emptied first, and stays empty if the text cannot be written. -/
def writeText (disk : Disk) (path : Path) (text : Text.Wide) : Disk × Option Fault :=
  let (content, unwritable) : Text.Octets × Option Fault :=
    match Text.Charset.writable text with
    | .ok chars => (Text.Utf8.encode chars, none)
    | .error fault => ([], some (.charset fault))
  match disk.write path content with
  | .ok disk => (disk, unwritable)
  | .error fault => (disk, some (.file fault))

/-- Prints a text. Nothing of it is printed if it cannot be written. -/
def print (text : Text.Wide) : Ending :=
  match Text.Charset.writable text with
  | .ok chars => .answer chars
  | .error fault => .broken (.charset fault)

/-- Writes the script to the file that is named, or else prints it. -/
def deliver (target : Option Chars) (code : Text.Wide) (w : World) : Ending × World :=
  match target with
  | some (c :: rest) =>
    match writeText w.disk (Path.ofText (c :: rest)) (code ++ [.char '\n']) with
    | (disk, none) => (.finished 0 [] [], { w with disk })
    | (disk, some fault) => (.broken fault, { w with disk })
  | _ => (print code, w)

/-- Runs the command. -/
def run (words : List Chars) (w : World) : Ending × World :=
  match Arguments.read switches words with
  | .error usage => (.usage usage, w)
  | .ok arguments =>
    match recoverWide w arguments.input with
    | .ok code => deliver (arguments.value? "-o") code w
    | .error fault =>
      if fault.isInputFault then (.failure name 2 fault.message, w)
      else if fault.isSystemFault then
        (.failure name 1 ("Cannot read " ++ arguments.input ++ ": " ++ fault.message), w)
      else (.broken fault, w)

/-! ## Laws -/

/-- A text of characters is written like any content. -/
theorem writeText_ofChars (disk : Disk) (path : Path) (text : Chars) :
    writeText disk path (.ofChars text) =
      match disk.write path (Text.Utf8.encode text) with
      | .ok disk => (disk, none)
      | .error fault => (disk, some (.file fault)) := by
  rw [writeText, Text.Charset.writable_ofChars]

theorem deliver_ofChars {c : Char} {target code : Chars} (w : World) :
    deliver (some (c :: target)) (.ofChars code) w =
      match w.disk.write (Path.ofText (c :: target)) (Text.Utf8.encode (Ending.line code)) with
      | .ok disk => (.finished 0 [] [], { w with disk })
      | .error fault => (.broken (.file fault), w) := by
  have hline : Text.Wide.ofChars code ++ [.char '\n'] = .ofChars (Ending.line code) := by
    simp [Text.Wide.ofChars, Ending.line]
  simp only [deliver, hline, writeText_ofChars]
  cases w.disk.write (Path.ofText (c :: target)) (Text.Utf8.encode (Ending.line code)) <;> rfl

end ScriptReport.Command.Recover

/-
  ScriptReport.Proofs.Command.RecoveredLines

  Lines that come back from a file. A script is read by lines however its lines are ended, and nothing
  but these ends is lost: main statement `script_lines_read_back`. So the file in which a recovered
  script is left holds just the lines that were recovered.
-/

import Mathlib
import ScriptReport.Command.Recover
import ScriptReport.Proofs.Files.KeptWays
import ScriptReport.Proofs.Publish.Input
import ScriptReport.Proofs.Text.Lines
import ScriptReport.Proofs.Text.Utf8

namespace ScriptReport.Command

open ScriptReport.Publish
open ScriptReport.FileTree (Stands)
open ScriptReport.Text (IsUnbroken LineEnd terminated)

variable {disk : Disk} {path : Path} {text : Chars} {lines words : List Chars} {w : World}
  {arguments : Arguments} {c : Char} {target : Chars}

/-! ## Reading -/

/-- The script in a file that holds a text is that of the lines of the text. -/
theorem readScriptLines_of_read (h : disk.read path = .ok (Text.Utf8.encode text)) :
    readScriptLines disk path = .ok (Text.fileLines text) :=
  readScriptLines_eq_ok_iff.mpr ⟨_, text, h, Text.Utf8.decode_encode text, rfl⟩

/-! ## Writing -/

/-- With a file named, the command writes the script to it, with a line feed at the end. -/
theorem run_of_recover (hwords : Arguments.read Recover.switches words = .ok arguments)
    (htarget : arguments.value? "-o" = some (c :: target)) {code : Chars}
    (hcode : recoverWide w arguments.input = .ok (.ofChars code)) :
    Recover.run words w =
      match w.disk.write (Path.ofText (c :: target)) (Text.Utf8.encode (Ending.line code)) with
      | .ok disk => (.finished 0 [] [], { w with disk })
      | .error fault => (.broken (.file fault), w) := by
  simp only [Recover.run, hwords, hcode, htarget]
  exact Recover.deliver_ofChars w

/-- What the run of the command leaves for lines that were recovered: it ends with the fault that
    stops it from writing, or the lines are read back from the file. -/
theorem readScriptLines_of_run (hlines : ∀ line ∈ lines, IsUnbroken line) (hne : lines ≠ [])
    (hcwd : Stands w.disk.tree w.disk.cwd)
    (hwords : Arguments.read Recover.switches words = .ok arguments)
    (hcode : recoverWide w arguments.input = .ok (.ofChars (Text.unlines lines)))
    (htarget : arguments.value? "-o" = some (c :: target)) :
    (∃ fault, w.disk.write (Path.ofText (c :: target)) (Text.Utf8.encode (terminated .lf lines)) =
        .error fault ∧ Recover.run words w = (.broken (.file fault), w)) ∨
      ∃ disk, Recover.run words w = (.finished 0 [] [], { w with disk }) ∧
        disk.read (Path.ofText (c :: target)) = .ok (Text.Utf8.encode (terminated .lf lines)) ∧
        readScriptLines disk (Path.ofText (c :: target)) = .ok lines := by
  have hrun := run_of_recover hwords htarget hcode
  -- the lines with line feeds between them and one at the end are lines that all end with one
  have hline : Ending.line (Text.unlines lines) = terminated .lf lines :=
    Text.unlines_append_newline hne
  rw [hline] at hrun
  cases hwrite : w.disk.write (Path.ofText (c :: target))
      (Text.Utf8.encode (terminated .lf lines)) with
  | error fault =>
    rw [hwrite] at hrun
    exact .inl ⟨fault, rfl, hrun⟩
  | ok disk =>
    rw [hwrite] at hrun
    have hread := Disk.read_of_write hcwd hwrite
    refine .inr ⟨disk, hrun, hread, ?_⟩
    rw [readScriptLines_of_read hread, Text.fileLines_terminated .lf hlines]

/-! ## Main statement -/

/-- Lines without carriage returns and line feeds are read back from a file in which each has the
    same line end behind it, whichever that is. Without the last line end they are read back too,
    except that an empty last line is not there. So the lines of a recovered script are read back
    from the file that the command leaves, unless it cannot be written. -/
theorem script_lines_read_back (hlines : ∀ line ∈ lines, IsUnbroken line) :
    (∀ (e : LineEnd) (disk : Disk) (path : Path),
      disk.read path = .ok (Text.Utf8.encode (terminated e lines)) →
      readScriptLines disk path = .ok lines) ∧
    (∀ (e : LineEnd) (text : Chars) (disk : Disk) (path : Path),
      text ++ e.text = terminated e lines → disk.read path = .ok (Text.Utf8.encode text) →
      readScriptLines disk path =
        .ok (if lines.getLast? = some [] then lines.dropLast else lines)) ∧
    (lines ≠ [] → ∀ (w : World) (words : List Chars) (arguments : Arguments) (target : Chars),
      Stands w.disk.tree w.disk.cwd → Arguments.read Recover.switches words = .ok arguments →
      recoverWide w arguments.input = .ok (.ofChars (Text.unlines lines)) →
      arguments.value? "-o" = some target → target ≠ [] →
      (∃ fault, w.disk.write (Path.ofText target) (Text.Utf8.encode (terminated .lf lines)) =
          .error fault ∧ Recover.run words w = (.broken (.file fault), w)) ∨
        ∃ disk, Recover.run words w = (.finished 0 [] [], { w with disk }) ∧
          disk.read (Path.ofText target) = .ok (Text.Utf8.encode (terminated .lf lines)) ∧
          readScriptLines disk (Path.ofText target) = .ok lines) := by
  refine ⟨?terminated, ?unterminated, ?recovered⟩
  case terminated =>
    intro e disk path hread
    rw [readScriptLines_of_read hread, Text.fileLines_terminated e hlines]
  case unterminated =>
    intro e text disk path htext hread
    rw [readScriptLines_of_read hread, Text.fileLines_of_unterminated hlines htext]
  case recovered =>
    intro hne w words arguments target hcwd hwords hcode htarget hnonempty
    obtain ⟨c, rest, rfl⟩ := List.exists_cons_of_ne_nil hnonempty
    exact readScriptLines_of_run hlines hne hcwd hwords hcode htarget

/-- Lines with a form feed, a line separator, and nothing in the last one. -/
def spacedLines : List Chars := ["x = 1;\x0c", "% \u2028", []]

/-- The lines in a report, and in scripts with each line end. -/
def spacedFiles : World where
  disk := {
    tree := ⟨[
      (["r.html"], .file (Text.Utf8.encode
        ("<!--\n##### SOURCE BEGIN #####\nx = 1;\x0c\n% \u2028\n\n##### SOURCE END #####\n-->"))),
      (["cr.m"], .file (Text.Utf8.encode "x = 1;\x0c\r% \u2028\r\r")),
      (["crlf.m"], .file (Text.Utf8.encode "x = 1;\x0c\r\n% \u2028\r\n"))]⟩
    cwd := []
    home := "/" }

/-- The command line that recovers them. -/
def spacedWords : List Chars := ["r.html", "-o", "out.m"]

theorem script_lines_read_back_of_spacedLines :
    readScriptLines spacedFiles.disk (Path.ofText "cr.m") = .ok spacedLines ∧
      readScriptLines spacedFiles.disk (Path.ofText "crlf.m") = .ok ["x = 1;\x0c", "% \u2028"] ∧
      ∃ disk, Recover.run spacedWords spacedFiles =
          (.finished 0 [] [], { spacedFiles with disk }) ∧
        readScriptLines disk (Path.ofText "out.m") = .ok spacedLines := by
  have hlines : ∀ line ∈ spacedLines, IsUnbroken line := by
    unfold IsUnbroken
    decide
  obtain ⟨hterminated, hunterminated, hrecovered⟩ := script_lines_read_back hlines
  have hcr : spacedFiles.disk.read (Path.ofText "cr.m") =
      .ok (Text.Utf8.encode (terminated .cr spacedLines)) := by cbv
  have hcrlf : spacedFiles.disk.read (Path.ofText "crlf.m") =
      .ok (Text.Utf8.encode "x = 1;\x0c\r\n% \u2028\r\n") := by cbv
  refine ⟨hterminated .cr _ _ hcr, hunterminated .crlf _ _ _ (by decide) hcrlf, ?_⟩
  obtain ⟨arguments, hwords, hinput, htarget⟩ : ∃ arguments,
      Arguments.read Recover.switches spacedWords = .ok arguments ∧
        recoverWide spacedFiles arguments.input = .ok (.ofChars (Text.unlines spacedLines)) ∧
        arguments.value? "-o" = some "out.m".toList := by
    refine ⟨⟨"r.html".toList, [("-o".toList, .text "out.m".toList)]⟩, ?_, ?_, ?_⟩
    · cbv
    · cbv
    · cbv
  rcases hrecovered (by decide) spacedFiles spacedWords arguments "out.m".toList
    (FileTree.stands_nil _) hwords hinput htarget (by decide) with ⟨fault, hwrite, -⟩ | ⟨disk, hrun⟩
  · -- the file can be written
    cbv at hwrite
    cases hwrite
  · exact ⟨disk, hrun.1, hrun.2.2⟩

end ScriptReport.Command

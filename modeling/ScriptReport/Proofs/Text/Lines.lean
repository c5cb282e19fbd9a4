/-
  ScriptReport.Proofs.Text.Lines

  Lines and their ends in a file. A line feed, a carriage return and both together end a line alike,
  and no other character does. So lines that are written with any of these ends are read back as
  they were (`fileLines_terminated`); without the end of the last one they are too, unless the last
  one is empty (`fileLines_of_unterminated`).
-/

import ScriptReport.Text.LineBreak
import Mathlib.Data.List.Basic
import Mathlib.Tactic.SplitIfs

namespace ScriptReport.Text

/-! ## Line ends -/

/-- What ends a line of a file. -/
inductive LineEnd where
  | lf
  | crlf
  | cr
  deriving DecidableEq, Repr

/-- The line end as text. -/
def LineEnd.text : LineEnd → Chars
  | .lf => "\n"
  | .crlf => "\r\n"
  | .cr => "\r"

/-- The lines, each with the line end behind it. -/
def terminated (e : LineEnd) (lines : List Chars) : Chars := concatMap (· ++ e.text) lines

/-- The text is on one line of a file. -/
def IsUnbroken (line : Chars) : Prop := '\r' ∉ line ∧ '\n' ∉ line

variable {e : LineEnd} {line text first : Chars} {lines rest : List Chars}

theorem terminated_cons (e : LineEnd) (line : Chars) (lines : List Chars) :
    terminated e (line :: lines) = line ++ (e.text ++ terminated e lines) :=
  List.append_assoc line e.text _

theorem terminated_append (e : LineEnd) (front back : List Chars) :
    terminated e (front ++ back) = terminated e front ++ terminated e back := by
  rw [terminated, concatMap, List.map_append, List.flatten_append]
  rfl

theorem terminated_singleton (e : LineEnd) (line : Chars) : terminated e [line] = line ++ e.text := by
  rw [terminated_cons]
  exact congrArg (line ++ ·) (List.append_nil e.text)

/-! ## Reading one line -/

theorem IsUnbroken.of_cons {c : Char} (h : IsUnbroken (c :: line)) :
    isFileBreak c = false ∧ IsUnbroken line := by
  obtain ⟨hreturn, hfeed⟩ := h
  rw [List.mem_cons, not_or] at hreturn hfeed
  refine ⟨?_, hreturn.2, hfeed.2⟩
  rw [isFileBreak, Bool.or_eq_false_iff, beq_eq_false_iff_ne, beq_eq_false_iff_ne]
  exact ⟨Ne.symm hfeed.1, Ne.symm hreturn.1⟩

/-- A character that ends no line belongs to the first one. -/
theorem fileLines_cons {c : Char} (h : isFileBreak c = false) (text : Chars) :
    fileLines (c :: text) = consFirst c (fileLines text) := by
  have hreturn : c ≠ '\r' := by
    rintro rfl
    exact absurd h (by decide)
  rw [fileLines, lines.eq_3 _ _ _ fun _ hc _ => hreturn hc, h]
  rfl

/-- What is put in front of a text without a line end belongs to its first line. -/
theorem fileLines_append (hline : IsUnbroken line) (htext : fileLines text = first :: rest) :
    fileLines (line ++ text) = (line ++ first) :: rest := by
  induction line with
  | nil => exact htext
  | cons c line ih =>
    obtain ⟨hc, hrest⟩ := hline.of_cons
    rw [List.cons_append, fileLines_cons hc, ih hrest]
    rfl

theorem fileLines_of_isUnbroken (h : IsUnbroken line) (hne : line ≠ []) :
    fileLines line = [line] := by
  obtain ⟨init, c, rfl⟩ := List.eq_nil_or_concat' line |>.resolve_left hne
  have hinit : IsUnbroken init :=
    ⟨fun hmem => h.1 (List.mem_append_left _ hmem), fun hmem => h.2 (List.mem_append_left _ hmem)⟩
  have hlast : IsUnbroken [c] :=
    ⟨fun hmem => h.1 (List.mem_append_right _ hmem), fun hmem => h.2 (List.mem_append_right _ hmem)⟩
  exact fileLines_append hinit (fileLines_cons hlast.of_cons.1 [])

/-- A line end ends a line, however it is written. Behind a carriage return must come no line feed,
    which would belong to the same line end. -/
theorem fileLines_lineEnd (e : LineEnd) (htext : e = .cr → text.head? ≠ some '\n') :
    fileLines (e.text ++ text) = [] :: fileLines text := by
  cases e with
  | lf =>
    show lines isFileBreak ('\n' :: text) = _
    rw [lines.eq_3 _ _ _ fun _ hc => absurd hc (by decide)]
    rfl
  | crlf => rfl
  | cr =>
    -- the return is read alone, as no line feed is behind it
    show lines isFileBreak ('\r' :: text) = _
    rw [lines.eq_3]
    · rfl
    · rintro rest - rfl
      exact htext rfl rfl

/-! ## Reading all lines -/

theorem head?_terminated (hlines : ∀ line ∈ lines, IsUnbroken line)
    (htext : text.head? ≠ some '\n') : (terminated .cr lines ++ text).head? ≠ some '\n' := by
  cases lines with
  | nil => exact htext
  | cons line lines =>
    have hline := (hlines line List.mem_cons_self).2
    rw [terminated_cons]
    cases line with
    | nil => simp [LineEnd.text]
    | cons c line =>
      rw [List.mem_cons, not_or] at hline
      simpa using Ne.symm hline.1

/-- Lines with their ends are read as they were, and what follows is read by itself. -/
theorem fileLines_terminated_append (e : LineEnd) (hlines : ∀ line ∈ lines, IsUnbroken line)
    (htext : text.head? ≠ some '\n') :
    fileLines (terminated e lines ++ text) = lines ++ fileLines text := by
  induction lines with
  | nil => rfl
  | cons line lines ih =>
    obtain ⟨hline, hrest⟩ := List.forall_mem_cons.mp hlines
    -- behind a carriage return comes no line feed, since no line starts with one
    have hend : fileLines (e.text ++ (terminated e lines ++ text)) =
        [] :: fileLines (terminated e lines ++ text) := by
      refine fileLines_lineEnd e fun hcr => ?_
      rw [hcr]
      exact head?_terminated hrest htext
    rw [terminated_cons, List.append_assoc, List.append_assoc, fileLines_append hline hend, ih hrest,
      List.append_nil]
    rfl

/-- Lines that are written with any line end are read back as they were. -/
theorem fileLines_terminated (e : LineEnd) (h : ∀ line ∈ lines, IsUnbroken line) :
    fileLines (terminated e lines) = lines := by
  have hread := fileLines_terminated_append e h (show ([] : Chars).head? ≠ some '\n' by simp)
  rwa [List.append_nil, show fileLines [] = [] from rfl, List.append_nil] at hread

/-- Without the end of the last line, an empty last line is not there. -/
theorem fileLines_of_unterminated (h : ∀ line ∈ lines, IsUnbroken line)
    (htext : text ++ e.text = terminated e lines) :
    fileLines text = if lines.getLast? = some [] then lines.dropLast else lines := by
  rcases List.eq_nil_or_concat' lines with rfl | ⟨front, last, rfl⟩
  · -- no lines have no line end that could be left out
    have hnil : text ++ e.text = [] := htext
    have hend : e.text = [] := (List.append_eq_nil_iff.mp hnil).2
    cases e <;> cases hend
  · rw [terminated_append, terminated_singleton, ← List.append_assoc] at htext
    obtain rfl := List.append_cancel_right htext
    -- the lines in front have their ends, and the last one is what is left
    have hlast := h last (List.mem_append_right front List.mem_cons_self)
    have hhead : last.head? ≠ some '\n' := fun hhead => hlast.2 (List.mem_of_mem_head? hhead)
    rw [fileLines_terminated_append e (fun line hline => h line (List.mem_append_left _ hline)) hhead]
    simp only [List.getLast?_concat, List.dropLast_concat, Option.some.injEq]
    split_ifs with hempty
    · rw [hempty]
      exact List.append_nil front
    · rw [fileLines_of_isUnbroken hlast hempty]

/-- Joined lines with a line feed at the end are lines that each end with one. -/
theorem unlines_append_newline (h : lines ≠ []) : unlines lines ++ ['\n'] = terminated .lf lines := by
  induction lines with
  | nil => exact absurd rfl h
  | cons line rest ih =>
    rw [terminated_cons]
    cases rest with
    | nil => rfl
    | cons next rest =>
      rw [← ih (List.cons_ne_nil next rest), unlines, join_cons (List.cons_ne_nil next rest)]
      simp only [List.append_assoc]
      rfl

end ScriptReport.Text

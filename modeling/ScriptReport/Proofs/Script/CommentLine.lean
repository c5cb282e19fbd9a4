/-
  ScriptReport.Proofs.Script.CommentLine

  The classes of lines where every comment text is a single character, which is what a loaded
  configuration promises. A line is markup of `count` characters exactly when one of the comment
  characters stands `count` times in front and a space, or nothing, follows. So a markup line is
  never too short to be told, it starts with a comment character, and what `stripMarkup` leaves of
  a body line is what stands after that character and at most one space.
-/

import ScriptReport.Script.Line
import ScriptReport.Script.Segment
import Mathlib.Data.List.DropRight
import Mathlib.Data.List.Forall2

namespace ScriptReport.Script

/-- Comment texts of one character each. -/
def singles (cs : List Char) : List Chars := cs.map fun c => [c]

theorem mem_singles {cs : List Char} {comment : Chars} :
    comment ∈ singles cs ↔ ∃ c ∈ cs, comment = [c] := by
  simp only [singles, List.mem_map, eq_comm]

/-! ## Markup of single characters -/

/-- Where a line starts with some comment character, `count` times. -/
theorem any_repeated_singles {cs : List Char} {count : Nat} {line : Chars} :
    ((singles cs).any fun comment => (repeated comment count).isPrefixOf line) = true ↔
      ∃ c ∈ cs, List.replicate count c <+: line := by
  simp [singles, repeated_singleton, List.isPrefixOf_iff_prefix]

/-- A line is markup when `count` equal comment characters are followed by a space or nothing. -/
theorem isMarkup_singles_iff {cs : List Char} {count : Nat} {line : Chars} :
    isMarkup (singles cs) count line = true ↔
      ∃ c ∈ cs, ∃ rest, line = List.replicate count c ++ rest ∧
        (rest = [] ∨ rest.head? = some ' ') := by
  rw [isMarkup, Bool.and_eq_true, any_repeated_singles]
  constructor
  · rintro ⟨⟨c, hc, rest, rfl⟩, hend⟩
    refine ⟨c, hc, rest, rfl, ?_⟩
    -- a line that is exactly as long as the markup has nothing after it
    rw [List.drop_left' (by simp)] at hend
    simp only [List.length_append, List.length_replicate, Bool.or_eq_true, decide_eq_true_eq]
      at hend
    exact hend.imp_left fun h => List.length_eq_zero_iff.mp (by omega)
  · rintro ⟨c, hc, rest, rfl, hend⟩
    refine ⟨⟨c, hc, rest, rfl⟩, ?_⟩
    rw [List.drop_left' (by simp)]
    rcases hend with rfl | hsp
    · simp
    · simp [hsp]

/-- The class of a line can always be told. -/
theorem isCutShort_singles (cs : List Char) (count : Nat) (line : Chars) :
    isCutShort (singles cs) count line = false := by
  by_contra h
  rw [Bool.not_eq_false, isCutShort, Bool.and_eq_true, any_repeated_singles] at h
  obtain ⟨⟨c, -, hprefix⟩, hshort⟩ := h
  have hle := hprefix.length_le
  rw [List.length_replicate] at hle
  simp only [decide_eq_true_eq] at hshort
  omega

theorem hasCutShortLine_singles (cs : List Char) (lines : List Chars) :
    hasCutShortLine (singles cs) lines = false := by
  simp [hasCutShortLine, isCutShort_singles]

/-! ## Looking behind the markup -/

/-- A character is looked at that lies behind the end of a line. -/
structure PastEnd where
  line : Chars
  index : Nat
  deriving DecidableEq, Repr

/-- The class of a line by looking at the character behind the markup. Only a line that is as long
    as the markup is not looked at. -/
def lookBehind (comments : List Chars) (count : Nat) (text : Chars) : Except PastEnd Bool :=
  if comments.any (fun comment => (repeated comment count).isPrefixOf text) then
    if text.length = count then .ok true
    else
      match text[count]? with
      | some c => .ok (c = ' ')
      | none => .error ⟨text, count⟩
  else .ok false

/-- Looking behind the markup tells the class of a line, unless the line is cut short. -/
theorem lookBehind_eq (comments : List Chars) (count : Nat) (text : Chars) :
    lookBehind comments count text =
      if isCutShort comments count text then .error ⟨text, count⟩
      else .ok (isMarkup comments count text) := by
  unfold lookBehind isCutShort isMarkup
  cases comments.any fun comment => (repeated comment count).isPrefixOf text with
  | false => rfl
  | true =>
    rcases Nat.lt_trichotomy text.length count with hlt | heq | hgt
    · have hnone : text[count]? = none := List.getElem?_eq_none (by omega)
      simp [hlt, Nat.ne_of_lt hlt, hnone]
    · simp [heq]
    · have hsome : text[count]? = some text[count] := List.getElem?_eq_getElem hgt
      simp [Nat.not_lt_of_lt hgt, Nat.ne_of_gt hgt, hsome]

/-- With comment texts of single characters no line is too short. -/
theorem lookBehind_singles (cs : List Char) (count : Nat) (line : Chars) :
    lookBehind (singles cs) count line = .ok (isMarkup (singles cs) count line) := by
  rw [lookBehind_eq, isCutShort_singles]
  rfl

/-! ## Comment lines -/

/-- The line starts with one of the comment texts. -/
def startsWithComment (comments : List Chars) (line : Chars) : Bool :=
  comments.any (·.isPrefixOf line)

/-- Markup of at least one character starts with a comment character. -/
theorem startsWithComment_of_isMarkup {cs : List Char} {count : Nat} {line : Chars}
    (h : isMarkup (singles cs) (count + 1) line = true) :
    startsWithComment (singles cs) line = true := by
  obtain ⟨c, hc, rest, rfl, -⟩ := isMarkup_singles_iff.mp h
  rw [startsWithComment, List.any_eq_true]
  exact ⟨[c], mem_singles.mpr ⟨c, hc, rfl⟩, by simp [List.replicate_succ, List.isPrefixOf]⟩

theorem startsWithComment_of_isHeader {cs : List Char} {line : Chars}
    (h : isHeader (singles cs) line = true) : startsWithComment (singles cs) line = true := by
  rw [isHeader, Bool.or_eq_true] at h
  exact h.elim startsWithComment_of_isMarkup startsWithComment_of_isMarkup

theorem startsWithComment_of_isBodyLine {cs : List Char} {line : Chars}
    (h : isBodyLine (singles cs) line = true) : startsWithComment (singles cs) line = true :=
  startsWithComment_of_isMarkup h

/-- `text` is the body line `line` without its comment text and at most one space. -/
def IsBodyText (comments : List Chars) (line text : Chars) : Prop :=
  isBodyLine comments line = true ∧
    ∃ comment ∈ comments, (line = comment ∧ text = []) ∨ line = comment ++ ' ' :: text

theorem isBodyText_stripMarkup {cs : List Char} {line : Chars}
    (h : isBodyLine (singles cs) line = true) :
    IsBodyText (singles cs) line (stripMarkup 1 line) := by
  refine ⟨h, ?_⟩
  obtain ⟨c, hc, rest, rfl, hend⟩ := isMarkup_singles_iff.mp h
  refine ⟨[c], mem_singles.mpr ⟨c, hc, rfl⟩, ?_⟩
  rcases hend with rfl | hsp
  · left
    simp [stripMarkup]
  · right
    obtain ⟨text, rfl⟩ := List.head?_eq_some_iff.mp hsp
    simp [stripMarkup]

end ScriptReport.Script

/-
  ScriptReport.Proofs.Settings.LineClasses

  The classes of a line with the comment characters of a loaded configuration. The classes differ in
  how often a comment character stands in front. So a line is of two of them only if the character
  behind the shorter markup, which is a space, is itself a comment character of the longer one
  (`space_mem_of_isMarkup`), and a blank line is of one only if its comment character is blank
  (`blank_mem_of_isMarkup`).

  Main statement: with a configuration that was loaded no line is of two classes exactly if no
  comment character is a space; no blank line is of any class, and no line is passed over as text
  under the title that is a header elsewhere, exactly if no comment character is blank
  (`classes_apart_iff`). Blank comment characters are not refused when a configuration is loaded
  (`classes_of_spaceConfig`).
-/

import Mathlib
import ScriptReport.Proofs.Settings.Accepted

namespace ScriptReport

namespace Script

/-! ## Classes -/

/-- What a line of markup can be. -/
inductive LineClass where
  | bodyLine
  | sectionHeader
  | innerHeader
  deriving DecidableEq, Repr

/-- The line is of the class. -/
def LineClass.holds (comments : List Chars) (line : Chars) : LineClass → Bool
  | .bodyLine => isBodyLine comments line
  | .sectionHeader => isSectionHeader comments line
  | .innerHeader => isInnerHeader comments line

/-- How often the comment text stands in front of a line of the class. -/
def LineClass.count : LineClass → Nat
  | .bodyLine => 1
  | .sectionHeader => 2
  | .innerHeader => 3

/-- The line is of one class at most. -/
def IsOfOneClass (comments : List Chars) (line : Chars) : Prop :=
  ∀ k l : LineClass, k.holds comments line = true → l.holds comments line = true → k = l

/-- The scans of a script agree on the line: what stands under a title, as a body line or a blank
    one, is no header to the scans behind it. -/
def IsReadAlike (comments : List Chars) (line : Chars) : Prop :=
  isBodyLine comments line = true ∨ Text.isBlank line = true → isHeader comments line = false

variable {comments : List Chars} {line : Chars} {cs : List Char} {m n : Nat}

namespace LineClass

theorem holds_eq (comments : List Chars) (line : Chars) (k : LineClass) :
    k.holds comments line = isMarkup comments k.count line := by
  cases k <;> rfl

theorem count_pos (k : LineClass) : 0 < k.count := by
  cases k <;> decide

theorem eq_of_count {k l : LineClass} (h : k.count = l.count) : k = l := by
  cases k <;> cases l <;> simp_all [count]

end LineClass

/-! ## What two classes and a blank line say about the comment characters -/

/-- Where a line is markup in two ways, the longer one has the space that stands behind the
    shorter. -/
theorem space_mem_of_isMarkup {text : Chars} (hlt : m < n)
    (hshort : isMarkup (singles cs) m text = true) (hlong : isMarkup (singles cs) n text = true) :
    [' '] ∈ singles cs := by
  obtain ⟨c, -, rest, htext, hend⟩ := isMarkup_singles_iff.mp hshort
  obtain ⟨d, hd, more, htext', -⟩ := isMarkup_singles_iff.mp hlong
  -- the character behind the shorter markup belongs to the longer one
  have hinside : text[m]? = some d := by
    rw [htext', List.getElem?_append_left (by rwa [List.length_replicate]),
      List.getElem?_replicate, if_pos hlt]
  have hbehind : text[m]? = rest.head? := by
    rw [htext, List.getElem?_append_right (by rw [List.length_replicate]), List.length_replicate,
      Nat.sub_self, List.head?_eq_getElem?]
  rcases hend with rfl | hspace
  · cases hinside.symm.trans hbehind
  · cases hinside.symm.trans (hbehind.trans hspace)
    exact mem_singles.mpr ⟨' ', hd, rfl⟩

/-- A blank line is markup only by a blank comment character. -/
theorem blank_mem_of_isMarkup (hpos : 0 < n) (hblank : Text.isBlank line = true)
    (h : isMarkup (singles cs) n line = true) :
    ∃ comment ∈ singles cs, Text.isBlank comment = true := by
  obtain ⟨c, hc, rest, rfl, -⟩ := isMarkup_singles_iff.mp h
  refine ⟨[c], mem_singles.mpr ⟨c, hc, rfl⟩, List.all_eq_true.mpr fun x hx => ?_⟩
  rw [List.mem_singleton.mp hx]
  exact List.all_eq_true.mp hblank c
    (List.mem_append_left rest (List.mem_replicate.mpr ⟨Nat.ne_of_gt hpos, rfl⟩))

/-! ## Lines that tell their class -/

/-- No line is of two classes exactly if no comment character is a space. -/
theorem isOfOneClass_iff : (∀ line, IsOfOneClass (singles cs) line) ↔ [' '] ∉ singles cs := by
  constructor
  · -- with a space for a comment character two spaces are a header and a body line
    intro hone hmem
    obtain ⟨c, hspace, hc⟩ := mem_singles.mp hmem
    cases hc
    have hbody : isMarkup (singles cs) 1 "  " = true :=
      isMarkup_singles_iff.mpr ⟨' ', hspace, [' '], rfl, .inr rfl⟩
    have hheader : isMarkup (singles cs) 2 "  " = true :=
      isMarkup_singles_iff.mpr ⟨' ', hspace, [], rfl, .inl rfl⟩
    cases hone "  " .bodyLine .sectionHeader hbody hheader
  · intro hspace line k l hk hl
    rw [LineClass.holds_eq] at hk hl
    rcases Nat.lt_trichotomy k.count l.count with hlt | heq | hgt
    · exact absurd (space_mem_of_isMarkup hlt hk hl) hspace
    · exact LineClass.eq_of_count heq
    · exact absurd (space_mem_of_isMarkup hgt hl hk) hspace

/-- No blank line is of any class exactly if no comment character is blank. -/
theorem blank_holds_iff :
    (∀ line, Text.isBlank line = true → ∀ k : LineClass, k.holds (singles cs) line = false) ↔
      ∀ comment ∈ singles cs, Text.isBlank comment = false := by
  constructor
  · -- a blank comment character by itself is a body line
    intro hnone comment hmem
    obtain ⟨c, hc, rfl⟩ := mem_singles.mp hmem
    have hbody : isMarkup (singles cs) 1 [c] = true :=
      isMarkup_singles_iff.mpr ⟨c, hc, [], rfl, .inl rfl⟩
    by_contra hblank
    rw [Bool.not_eq_false] at hblank
    exact Bool.noConfusion (hbody.symm.trans (hnone [c] hblank .bodyLine))
  · intro hnone line hblank k
    by_contra hk
    rw [Bool.not_eq_false, LineClass.holds_eq] at hk
    obtain ⟨comment, hmem, hcomment⟩ := blank_mem_of_isMarkup k.count_pos hblank hk
    exact Bool.noConfusion (hcomment.symm.trans (hnone comment hmem))

/-- The scans agree on every line exactly if no comment character is blank. -/
theorem isReadAlike_iff :
    (∀ line, IsReadAlike (singles cs) line) ↔
      ∀ comment ∈ singles cs, Text.isBlank comment = false := by
  constructor
  · -- a blank comment character that stands twice is a header
    intro halike comment hmem
    obtain ⟨c, hc, rfl⟩ := mem_singles.mp hmem
    have hsection : isSectionHeader (singles cs) [c, c] = true :=
      isMarkup_singles_iff.mpr ⟨c, hc, [], rfl, .inl rfl⟩
    have hheader : isHeader (singles cs) [c, c] = true := by
      rw [isHeader, hsection, Bool.or_true]
    by_contra hblank
    rw [Bool.not_eq_false, Text.isBlank, List.all_cons, List.all_nil, Bool.and_true] at hblank
    have hline : Text.isBlank [c, c] = true := by
      rw [Text.isBlank, List.all_cons, List.all_cons, hblank]
      rfl
    exact Bool.noConfusion (hheader.symm.trans (halike [c, c] (.inr hline)))
  · intro hnone line hline
    have hspace : [' '] ∉ singles cs := fun hmem => Bool.noConfusion (hnone [' '] hmem)
    by_contra hheader
    -- a header is of one of two classes, and neither goes with a body line or a blank one
    obtain ⟨k, hk, hne⟩ : ∃ k : LineClass, k.holds (singles cs) line = true ∧ k ≠ .bodyLine := by
      rw [Bool.not_eq_false, isHeader, Bool.or_eq_true] at hheader
      exact hheader.elim (⟨.innerHeader, ·, by decide⟩) (⟨.sectionHeader, ·, by decide⟩)
    rcases hline with hbody | hblank
    · exact hne (isOfOneClass_iff.mpr hspace line k .bodyLine hk hbody)
    · exact Bool.noConfusion (hk.symm.trans (blank_holds_iff.mpr hnone line hblank k))

end Script

/-! ## Accepted configurations -/

open Script

/-- With a configuration that was accepted, every line is of one class at most exactly if no comment
    character is a space; no blank line is of any class, and the scans agree on every line, exactly
    if no comment character is blank. -/
theorem classes_apart_iff {document : Yaml.Document} {written : WrittenConfig}
    (haccepted : WrittenConfig.ofDocument document = .ok written) :
    let comments := written.toConfig.comments
    ((∀ line, IsOfOneClass comments line) ↔ [' '] ∉ comments) ∧
      ((∀ line, Text.isBlank line = true → ∀ k : LineClass, k.holds comments line = false) ↔
        ∀ comment ∈ comments, Text.isBlank comment = false) ∧
      ((∀ line, IsReadAlike comments line) ↔
        ∀ comment ∈ comments, Text.isBlank comment = false) := by
  obtain ⟨a, b, hcomments⟩ := (WrittenConfig.isUsable_of_ofDocument haccepted).comments
  simp only [hcomments]
  exact ⟨isOfOneClass_iff, blank_holds_iff, isReadAlike_iff⟩

/-- A document that asks for a tab and an exclamation mark as comment characters. -/
def tabDocument : Yaml.Document where
  root := .collection 0
  cells := #[
    .mapping [(.text (Text.Wide.ofChars "comment_chars"), .collection 1)],
    .list [.text (Text.Wide.ofChars "\t"), .text (Text.Wide.ofChars "!")]]

/-- With a tab every line is of one class at most, but some blank line is of a class. -/
theorem classes_apart_of_tabDocument :
    ∃ written, WrittenConfig.ofDocument tabDocument = .ok written ∧
      written.toConfig.comments = ["\t", "!"] ∧
      (∀ line, IsOfOneClass written.toConfig.comments line) ∧
      ¬ ∀ line, Text.isBlank line = true →
        ∀ k : LineClass, k.holds written.toConfig.comments line = false := by
  obtain ⟨written, haccepted, hcomments⟩ : ∃ written,
      WrittenConfig.ofDocument tabDocument = .ok written ∧
        written.toConfig.comments = ["\t", "!"] := ⟨_, rfl, rfl⟩
  obtain ⟨hone, hblank, -⟩ := classes_apart_iff haccepted
  refine ⟨written, haccepted, hcomments, hone.mpr ?_, fun hnone => ?_⟩
  · rw [hcomments]
    decide
  · have htab := hblank.mp hnone ['\t'] (by rw [hcomments]; decide)
    exact absurd htab (by decide)

/-- A configuration file that asks for a space as a comment character. -/
def spaceConfigDisk : Disk where
  tree := ⟨[(["c.yml"], .file (Text.Utf8.encode "'comment_chars': [' ', '#']\n"))]⟩
  cwd := []
  home := "/"

/-- The configuration is loaded, and with it three spaces are a blank line and of every class. -/
theorem classes_of_spaceConfig :
    Config.load spaceConfigDisk (Path.ofText "c.yml") = .ok { comments := [" ", "#"] } ∧
      Text.isBlank "   " = true ∧ ∀ k : LineClass, k.holds [" ", "#"] "   " = true := by
  refine ⟨by cbv, by decide, fun k => ?_⟩
  cases k <;> decide

end ScriptReport

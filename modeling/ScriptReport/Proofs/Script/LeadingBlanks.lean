/-
  ScriptReport.Proofs.Script.LeadingBlanks

  What becomes of a script when blank lines are put in front of it. The segments stay as they are,
  only further down (`segmentsOf_blank_append`), but a title is only looked for in the first line of
  all: behind blank lines the first header is an ordinary section. So the document stays the same
  exactly if there was no title that said anything. Main statement: `read_blank_append`.
-/

import ScriptReport.Proofs.Script.Appending
import ScriptReport.Script.Document

namespace ScriptReport.Script

variable {cs : List Char} {comments blanks : List Chars}

/-! ## Segments behind blank lines -/

theorem trimBlank_blank_append (hblanks : ∀ line ∈ blanks, Text.isBlank line = true)
    (part : List Chars) : trimBlank (blanks ++ part) = trimBlank part := by
  rw [trimBlank, List.dropWhile_append_of_pos hblanks, trimBlank]

/-- Blank lines in front of code move its segment down. -/
theorem segment?_blank_append (hblanks : ∀ line ∈ blanks, Text.isBlank line = true)
    (start : Nat) (part : List Chars) :
    (Run.code (blanks ++ part)).segment? comments start =
      ((Run.code part).segment? comments start).map (Segment.shift blanks.length) := by
  rw [segment?_code, segment?_code, trimBlank_blank_append hblanks,
    List.takeWhile_append_of_pos hblanks, List.length_append]
  split
  · rfl
  · next hcode =>
    have hpos := List.length_pos_of_ne_nil hcode
    simp only [Option.map_some, Segment.shift]
    congr 3 <;> omega

/-- Blank lines in front of a script move its segments down. -/
theorem segmentsOf_blank_append (hcs : ∀ c ∈ cs, Text.isBlankChar c = false)
    (hblanks : ∀ line ∈ blanks, Text.isBlank line = true) (start : Nat) (lines : List Chars) :
    segmentsOf (singles cs) start (runs (singles cs) (blanks ++ lines)) =
      (segmentsOf (singles cs) start (runs (singles cs) lines)).map
        (Segment.shift blanks.length) := by
  cases lines with
  | nil =>
    have hnil : runs (singles cs) [] = [] := by rw [runs]
    rw [List.append_nil, segmentsOf_blank hcs start hblanks, hnil]
    rfl
  | cons line rest =>
    obtain ⟨run, after, hruns, happend, hcut⟩ := runs_cons (singles cs) line rest
    cases hcut with
    | header head body hhead hbody hwhole =>
      -- a header starts a run of its own
      have hback : StartsAtHeader (singles cs) (line :: rest) :=
        ⟨head, by rw [← happend]; rfl, hhead⟩
      rw [segmentsOf_runs_append hcs start blanks hback, segmentsOf_blank hcs start hblanks,
        List.nil_append, bodySegments, ← segmentsOf_add, ← segmentsOf_add, Nat.zero_add]
    | code part hne hno hwhole =>
      -- the blank lines belong to the code that comes first
      have hblank : ∀ line ∈ blanks ++ part, isHeader (singles cs) line = false := by
        intro line hline
        rcases List.mem_append.mp hline with hline | hline
        · rw [← Bool.not_eq_true]
          intro hheader
          exact absurd (hblanks line hline) (by simp [isBlank_of_isHeader hcs hheader])
        · exact hno line hline
      have hcut : Run.Cut (singles cs) after (.code (blanks ++ part)) :=
        .code _ (List.append_ne_nil_of_right_ne_nil blanks hne) hblank hwhole
      have hall := runs_of_cut hcut
      have hlines : (Run.code (blanks ++ part)).lines ++ after = blanks ++ line :: rest := by
        rw [← happend, Run.lines, Run.lines, List.append_assoc]
      have hnext : start + (Run.code (blanks ++ part)).lines.length =
          start + (Run.code part).lines.length + blanks.length := by
        rw [Run.lines, Run.lines, List.length_append]
        omega
      rw [hlines] at hall
      rw [hall, hruns, segmentsOf, segmentsOf, segment?_blank_append hblanks, hnext,
        segmentsOf_add, List.map_append, Option.toList_map]

/-- A blank first line is no title. -/
theorem titleIntro?_blank_append (hcs : ∀ c ∈ cs, Text.isBlankChar c = false)
    (hblanks : ∀ line ∈ blanks, Text.isBlank line = true) (hne : blanks ≠ [])
    (lines : List Chars) : titleIntro? (singles cs) (blanks ++ lines) = none := by
  obtain ⟨first, others, rfl⟩ := List.exists_cons_of_ne_nil hne
  have hfirst : isHeader (singles cs) first = false := by
    rw [← Bool.not_eq_true]
    intro hheader
    exact absurd (hblanks first List.mem_cons_self) (by simp [isBlank_of_isHeader hcs hheader])
  rw [List.cons_append, titleIntro?_cons, hfirst]
  rfl

/-! ## Content -/

theorem withContent_shift (n : Nat) (segments : List Segment) :
    withContent (segments.map (Segment.shift n)) =
      ((withContent segments).1.map (Segment.shift n), (withContent segments).2) := by
  induction segments with
  | nil => rfl
  | cons segment rest ih =>
    rw [List.map_cons]
    cases segment with
    | code c => rw [Segment.shift, withContent, ih]; rfl
    | header h => rw [Segment.shift, withContent, ih]; rfl

theorem withContent_append (first later : List Segment) :
    withContent (first ++ later) =
      ((withContent first).1 ++ (withContent later).1,
        (withContent first).2 ++ (withContent later).2) := by
  induction first with
  | nil => rfl
  | cons segment rest ih =>
    rw [List.cons_append]
    cases segment with
    | code c => rw [withContent, ih]; rfl
    | header h =>
      rw [withContent, ih, withContent]
      simp only [List.cons_append, List.append_assoc]

theorem length_withContent (segments : List Segment) :
    (withContent segments).1.length = segments.length := by
  induction segments with
  | nil => rfl
  | cons segment rest ih =>
    cases segment with
    | code c => exact congrArg (· + 1) ih
    | header h => exact congrArg (· + 1) ih

/-- Blank lines have no items in them. -/
theorem readItems_of_blank {lines : List Chars} (h : ∀ line ∈ lines, Text.isBlank line = true) :
    readItems lines = ([], []) := by
  have hblocks : blocks lines = [] := by
    rw [blocks, List.dropWhile_eq_nil_iff.mpr h, blocksAfter]
  rw [readItems, hblocks]
  rfl

/-! ## The document without a title -/

/-- The document of a script in which no title is looked for, and the warnings. -/
def readUntitled (comments : List Chars) (sourceName : Chars) (lines : List Chars) :
    Document × List Warning :=
  let (body, warnings) := withContent (bodySegments comments lines)
  ({ body, sourceLines := lines, sourceName }, warnings)

/-- The document of the same script with more lines in front. -/
def Document.below (front : List Chars) (doc : Document) : Document :=
  { doc with
    body := doc.body.map (Segment.shift front.length)
    sourceLines := front ++ doc.sourceLines }

/-- The title or the text under it says something. -/
def TitleIntro.SaysSomething (t : TitleIntro) : Prop :=
  t.title ≠ [] ∨ ∃ line ∈ t.body, Text.isBlank line = false

/-- The script has a title that says something. -/
def HasTitle (comments lines : List Chars) : Prop :=
  ∃ t ∈ titleIntro? comments lines, t.SaysSomething

instance (t : TitleIntro) : Decidable t.SaysSomething := inferInstanceAs (Decidable (_ ∨ _))

instance (comments lines : List Chars) : Decidable (HasTitle comments lines) :=
  inferInstanceAs (Decidable (∃ t ∈ titleIntro? comments lines, _))

theorem TitleIntro.not_saysSomething_iff {t : TitleIntro} :
    ¬ t.SaysSomething ↔ t.title = [] ∧ ∀ line ∈ t.body, Text.isBlank line = true := by
  simp only [SaysSomething, not_or, Decidable.not_not, not_exists, not_and, Bool.not_eq_false,
    ne_eq]

/-- The segments behind the title. -/
def segmentsBehind (comments lines : List Chars) (t : TitleIntro) : List Segment :=
  segmentsOf comments (t.stop + 1) (runs comments (lines.drop (t.stop + 1)))

theorem read_of_none {lines : List Chars} (h : titleIntro? comments lines = none)
    (sourceName : Chars) :
    read comments sourceName lines = readUntitled comments sourceName lines := by
  rw [read, segmentation, h]
  rfl

theorem read_of_some {lines : List Chars} {t : TitleIntro} (h : titleIntro? comments lines = some t)
    (sourceName : Chars) :
    read comments sourceName lines =
      ({
          title := t.title
          intro := (readItems t.body).1
          body := (withContent (segmentsBehind comments lines t)).1
          sourceLines := lines
          sourceName },
        (readItems t.body).2 ++ (withContent (segmentsBehind comments lines t)).2) := by
  rw [read, segmentation, h]
  rfl

/-- Where there is a title, its header would be the first run. -/
theorem bodySegments_of_titleIntro? {lines : List Chars} {t : TitleIntro}
    (h : titleIntro? comments lines = some t) :
    ∃ head body,
      t = {
        title := headerTitle comments head
        body := body.map (stripMarkup 1)
        start := 0
        stop := body.length } ∧
      bodySegments comments lines =
        ((Run.header head body).segment? comments 0).toList ++ segmentsBehind comments lines t := by
  cases lines with
  | nil => cases h
  | cons head rest =>
    rw [titleIntro?_cons] at h
    split at h
    · next hcond =>
      rw [Bool.and_eq_true] at hcond
      cases h
      have hdrop : (rest.takeWhile (isBodyLine comments) ++
          rest.dropWhile (isBodyLine comments)).drop
            (rest.takeWhile (isBodyLine comments)).length =
          rest.dropWhile (isBodyLine comments) := List.drop_left' rfl
      rw [List.takeWhile_append_dropWhile] at hdrop
      refine ⟨head, rest.takeWhile (isBodyLine comments), rfl, ?_⟩
      rw [segmentsBehind, List.drop_succ_cons, hdrop, bodySegments, runs, if_pos hcond.1,
        segmentsOf, Run.lines, List.length_cons, Nat.zero_add]
    · cases h

/-- A header without a title and with blank text only amounts to no segment. -/
theorem segment?_header_eq_none_iff {head : Chars} {body : List Chars} {start : Nat} :
    (Run.header head body).segment? comments start = none ↔
      headerTitle comments head = [] ∧
        ∀ line ∈ body.map (stripMarkup 1), Text.isBlank line = true := by
  rw [Run.segment?]
  simp only [ite_eq_left_iff, reduceCtorEq, imp_false, Decidable.not_not, Bool.and_eq_true,
    decide_eq_true_eq, List.all_eq_true]

/-- The warnings under a header are the same whether or not it amounts to a segment. -/
theorem warnings_header (comments : List Chars) (head : Chars) (body : List Chars) (start : Nat) :
    (withContent ((Run.header head body).segment? comments start).toList).2 =
      (readItems (body.map (stripMarkup 1))).2 := by
  cases hsegment : (Run.header head body).segment? comments start with
  | none =>
    rw [readItems_of_blank (segment?_header_eq_none_iff.mp hsegment).2]
    rfl
  | some segment =>
    rw [Run.segment?] at hsegment
    split at hsegment
    · cases hsegment
    · cases hsegment
      exact List.append_nil _

/-- Without a title the header that it is made of is a section of its own, if it says anything. -/
theorem readUntitled_of_some {lines : List Chars} {t : TitleIntro}
    (h : titleIntro? comments lines = some t) (sourceName : Chars) :
    ∃ heading : Option Segment,
      (heading = none ↔ ¬ t.SaysSomething) ∧
      readUntitled comments sourceName lines =
        ({
            body := (withContent heading.toList).1 ++
              (withContent (segmentsBehind comments lines t)).1
            sourceLines := lines
            sourceName },
          (readItems t.body).2 ++ (withContent (segmentsBehind comments lines t)).2) := by
  obtain ⟨head, body, rfl, hbody⟩ := bodySegments_of_titleIntro? h
  refine ⟨(Run.header head body).segment? comments 0, ?_, ?_⟩
  · rw [TitleIntro.not_saysSomething_iff]
    exact segment?_header_eq_none_iff
  · rw [readUntitled, hbody, withContent_append, warnings_header]

/-- The document is the same with and without looking for a title exactly if there is no title that
    says anything. The warnings are always the same. -/
theorem readUntitled_eq_iff (comments : List Chars) (sourceName : Chars) (lines : List Chars) :
    ((readUntitled comments sourceName lines).1 = (read comments sourceName lines).1 ↔
        ¬ HasTitle comments lines) ∧
      (readUntitled comments sourceName lines).2 = (read comments sourceName lines).2 := by
  cases htitle : titleIntro? comments lines with
  | none =>
    rw [read_of_none htitle]
    refine ⟨iff_of_true rfl ?_, rfl⟩
    rintro ⟨t, ht, -⟩
    exact absurd (htitle.symm.trans ht) nofun
  | some t =>
    obtain ⟨heading, hheading, huntitled⟩ := readUntitled_of_some htitle sourceName
    rw [read_of_some htitle, huntitled]
    refine ⟨?_, rfl⟩
    have hsilent : ¬ HasTitle comments lines ↔ heading = none := by
      rw [hheading, HasTitle, htitle]
      simp only [Option.mem_some_iff, exists_eq_left']
    rw [hsilent]
    constructor
    · intro heq
      -- the section would be one more segment
      have hlength := congrArg (List.length ∘ Document.body) heq
      simp only [Function.comp_apply, List.length_append, length_withContent] at hlength
      rw [← Option.toList_eq_nil_iff, ← List.length_eq_zero_iff]
      omega
    · rintro rfl
      obtain ⟨hempty, hblank⟩ := TitleIntro.not_saysSomething_iff.mp (hheading.mp rfl)
      rw [hempty, readItems_of_blank hblank]
      rfl

/-- Behind blank lines no title is found. -/
theorem read_behind_blank (hcs : ∀ c ∈ cs, Text.isBlankChar c = false)
    (hblanks : ∀ line ∈ blanks, Text.isBlank line = true) (hne : blanks ≠ [])
    (sourceName : Chars) (lines : List Chars) :
    read (singles cs) sourceName (blanks ++ lines) =
      ((readUntitled (singles cs) sourceName lines).1.below blanks,
        (readUntitled (singles cs) sourceName lines).2) := by
  have hsegments := segmentsOf_blank_append hcs hblanks 0 lines
  rw [read_of_none (titleIntro?_blank_append hcs hblanks hne lines), readUntitled, bodySegments,
    hsegments, withContent_shift]
  rfl

/-! ## Main statement -/

theorem shift_zero (segments : List Segment) : segments.map (Segment.shift 0) = segments := by
  refine (List.map_congr_left fun segment _ => ?_).trans (List.map_id segments)
  cases segment <;> rfl

theorem below_nil (doc : Document) : doc.below [] = doc := by
  rw [Document.below, List.length_nil, shift_zero, List.nil_append]

theorem shift_injective (n : Nat) : Function.Injective (Segment.shift n) := by
  rintro (⟨lines, start, stop, result⟩ | ⟨title, breaks, body, start, stop, content⟩)
    (⟨lines', start', stop', result'⟩ | ⟨title', breaks', body', start', stop', content'⟩) h
  all_goals simp_all [Segment.shift]

theorem below_injective (front : List Chars) : Function.Injective (Document.below front) := by
  rintro ⟨title, intro, body, source, name⟩ ⟨title', intro', body', source', name'⟩ h
  have hbody := List.map_injective_iff.mpr (shift_injective front.length)
  simp only [Document.below, Document.mk.injEq, hbody.eq_iff, List.append_cancel_left_eq] at h ⊢
  exact h

/-- Behind blank lines a script is read as one in which no title is looked for, further down. So it
    is the document of the script alone, further down, exactly if there are no blank lines or the
    script has no title that says anything. -/
theorem read_blank_append {a b : Char} (ha : Text.isBlankChar a = false)
    (hb : Text.isBlankChar b = false) {blanks : List Chars}
    (hblanks : ∀ line ∈ blanks, Text.isBlank line = true) (sourceName : Chars)
    (lines : List Chars) :
    (blanks ≠ [] → (read [[a], [b]] sourceName (blanks ++ lines)).1 =
        (readUntitled [[a], [b]] sourceName lines).1.below blanks) ∧
      ((read [[a], [b]] sourceName (blanks ++ lines)).1 =
          (read [[a], [b]] sourceName lines).1.below blanks ↔
        blanks = [] ∨ ¬ HasTitle [[a], [b]] lines) ∧
      (read [[a], [b]] sourceName (blanks ++ lines)).2 =
        (read [[a], [b]] sourceName lines).2 := by
  have hcs : ∀ c ∈ [a, b], Text.isBlankChar c = false := by simp [ha, hb]
  obtain ⟨hsame, hwarnings⟩ := readUntitled_eq_iff [[a], [b]] sourceName lines
  by_cases hne : blanks = []
  · subst hne
    rw [List.nil_append]
    exact ⟨fun h => absurd rfl h, iff_of_true (below_nil _).symm (.inl rfl), rfl⟩
  · have hread : read [[a], [b]] sourceName (blanks ++ lines) = _ :=
      read_behind_blank hcs hblanks hne sourceName lines
    refine ⟨fun _ => congrArg Prod.fst hread, ?_, (congrArg Prod.snd hread).trans hwarnings⟩
    rw [hread, or_iff_right hne, ← hsame]
    exact (below_injective blanks).eq_iff

/-- A script with two headers behind its code. -/
def codeFirstScript : List Chars := ["x = 1;", "%% T", "% a", "", "%% S"]

/-- Blank lines with and without spaces. -/
def blankLines : List Chars := ["", " \t"]

theorem read_blank_append_codeFirstScript :
    (∀ line ∈ blankLines, Text.isBlank line = true) ∧
      (read ["%", "#"] [] (blankLines ++ codeFirstScript)).1 =
        (read ["%", "#"] [] codeFirstScript).1.below blankLines := by
  have hblanks : ∀ line ∈ blankLines, Text.isBlank line = true := by decide
  have htitle : ¬ HasTitle [['%'], ['#']] codeFirstScript := by decide +kernel
  refine ⟨hblanks, ?_⟩
  exact (read_blank_append (by decide) (by decide) hblanks [] codeFirstScript).2.1.mpr (.inr htitle)

/-- A script with a title. -/
def titledScript : List Chars := ["%% T", "% a", "", "%% S"]

/-- Behind a blank line the title and the text under it are a section. -/
theorem read_blank_append_titledScript :
    Text.isBlank [] = true ∧
      (read ["%", "#"] [] ([] :: titledScript)).1 ≠
        (read ["%", "#"] [] titledScript).1.below [[]] ∧
      (read ["%", "#"] [] titledScript).1.title = "T" ∧
      (read ["%", "#"] [] titledScript).1.intro = [.text "a"] ∧
      (read ["%", "#"] [] titledScript).1.body = [.header ⟨"S", true, [], 3, 3, []⟩] ∧
      (read ["%", "#"] [] ([] :: titledScript)).1.title = [] ∧
      (read ["%", "#"] [] ([] :: titledScript)).1.intro = [] ∧
      (read ["%", "#"] [] ([] :: titledScript)).1.body =
        [.header ⟨"T", true, ["a"], 1, 2, [.text "a"]⟩, .header ⟨"S", true, [], 4, 4, []⟩] := by
  decide +kernel

end ScriptReport.Script

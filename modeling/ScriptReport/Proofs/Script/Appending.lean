/-
  ScriptReport.Proofs.Script.Appending

  What becomes of a script when a section is put behind it. A header ends whatever comes before it,
  so the runs of both parts are those of the whole (`runs_append`), and the segments of the second
  part are the ones it has alone, moved by the length of the first (`segmentsOf_append`). Only the
  title looks further: a first header that stood alone has found the next one now. Main statement:
  `segmentation_append_header`.
-/

import ScriptReport.Proofs.Script.Segmentation

namespace ScriptReport.Script

/-! ## A header is no other line -/

variable {cs : List Char}

/-- Markup of visible characters is not blank. -/
theorem isBlank_of_isMarkup (hcs : ∀ c ∈ cs, Text.isBlankChar c = false) {count : Nat}
    {line : Chars} (h : isMarkup (singles cs) (count + 1) line = true) :
    Text.isBlank line = false := by
  obtain ⟨c, hc, rest, rfl, -⟩ := isMarkup_singles_iff.mp h
  simp [Text.isBlank, List.replicate_succ, hcs c hc]

theorem isBlank_of_isHeader (hcs : ∀ c ∈ cs, Text.isBlankChar c = false) {line : Chars}
    (h : isHeader (singles cs) line = true) : Text.isBlank line = false := by
  rw [isHeader, Bool.or_eq_true] at h
  exact h.elim (isBlank_of_isMarkup hcs) (isBlank_of_isMarkup hcs)

/-- After the first comment character of a longer markup comes another one and not a space. -/
theorem isBodyLine_of_isMarkup (hcs : ∀ c ∈ cs, Text.isBlankChar c = false) {count : Nat}
    {line : Chars} (h : isMarkup (singles cs) (count + 2) line = true) :
    isBodyLine (singles cs) line = false := by
  obtain ⟨c, hc, rest, rfl, -⟩ := isMarkup_singles_iff.mp h
  rw [← Bool.not_eq_true]
  intro hbody
  obtain ⟨d, -, after, hline, hend⟩ := isMarkup_singles_iff.mp hbody
  simp only [List.replicate_succ, List.replicate_zero, List.cons_append, List.nil_append,
    List.cons.injEq] at hline
  obtain ⟨-, hafter⟩ := hline
  rcases hend with rfl | hspace
  · cases hafter
  · rw [← hafter, List.head?_cons, Option.some.injEq] at hspace
    have hvisible := hcs c hc
    rw [hspace] at hvisible
    exact absurd hvisible (by decide)

theorem isBodyLine_of_isHeader (hcs : ∀ c ∈ cs, Text.isBlankChar c = false) {line : Chars}
    (h : isHeader (singles cs) line = true) : isBodyLine (singles cs) line = false := by
  rw [isHeader, Bool.or_eq_true] at h
  exact h.elim (isBodyLine_of_isMarkup hcs) (isBodyLine_of_isMarkup hcs)

/-! ## Moved segments -/

/-- The segment `n` lines further down. -/
def Segment.shift (n : Nat) : Segment → Segment
  | .code c => .code { c with start := c.start + n, stop := c.stop + n }
  | .header h => .header { h with start := h.start + n, stop := h.stop + n }

variable {comments : List Chars}

theorem segment?_add (comments : List Chars) (start n : Nat) (run : Run) :
    run.segment? comments (start + n) = (run.segment? comments start).map (Segment.shift n) := by
  cases run with
  | header head body =>
    rw [Run.segment?, Run.segment?]
    split
    · rfl
    · simp only [Option.map_some, Segment.shift]
      congr 3
      omega
  | code part =>
    rw [segment?_code, segment?_code]
    split
    · rfl
    · next hcode =>
      have hpos := List.length_pos_of_ne_nil hcode
      simp only [Option.map_some, Segment.shift]
      congr 3 <;> omega

theorem segmentsOf_add (comments : List Chars) (start n : Nat) (runs : List Run) :
    segmentsOf comments (start + n) runs =
      (segmentsOf comments start runs).map (Segment.shift n) := by
  induction runs generalizing start with
  | nil => rfl
  | cons run rest ih =>
    have hnext : start + n + run.lines.length = start + run.lines.length + n := by omega
    rw [segmentsOf, segmentsOf, segment?_add, hnext, ih, List.map_append, Option.toList_map]

/-- The segments of lines that are read without looking for a title. -/
def bodySegments (comments lines : List Chars) : List Segment :=
  segmentsOf comments 0 (runs comments lines)

theorem segmentsOf_append (comments : List Chars) (start : Nat) (first later : List Run) :
    segmentsOf comments start (first ++ later) =
      segmentsOf comments start first ++
        segmentsOf comments (start + (first.flatMap Run.lines).length) later := by
  induction first generalizing start with
  | nil => rfl
  | cons run rest ih =>
    rw [List.cons_append, segmentsOf, segmentsOf, ih, List.append_assoc, List.flatMap_cons,
      List.length_append, Nat.add_assoc]

/-! ## The runs of two parts -/

/-- The first line is a header. -/
def StartsAtHeader (comments lines : List Chars) : Prop :=
  ∃ line, lines.head? = some line ∧ isHeader comments line = true

/-- A run that is cut off in front of lines is the first of their runs. -/
theorem runs_of_cut {run : Run} {after : List Chars} (hcut : run.Cut comments after) :
    runs comments (run.lines ++ after) = run :: runs comments after := by
  obtain ⟨line, rest, hlines, hrun⟩ := run_nextPhase hcut
  obtain ⟨run', after', hruns, happend, hcut'⟩ := runs_cons comments line rest
  -- the next line decides how far a run goes, so there is only one way to cut one off
  obtain ⟨line', rest', hlines', hrun'⟩ := run_nextPhase hcut'
  rw [happend] at hlines' hrun'
  cases hlines'
  rw [hlines, hrun'] at hrun
  subst hrun
  rw [hlines, hruns, List.append_cancel_left (happend.trans hlines.symm)]

theorem flatMap_lines_runs (comments lines : List Chars) :
    (runs comments lines).flatMap Run.lines = lines := by
  induction lines using runs_induction comments with
  | nil => rw [runs, List.flatMap_nil]
  | cons run after hcut hruns ih => rw [hruns, List.flatMap_cons, ih]

/-- What is cut off in front of lines is also cut off if a header follows them. -/
theorem Run.Cut.append (hcs : ∀ c ∈ cs, Text.isBlankChar c = false) {run : Run}
    {after back : List Chars} (hcut : run.Cut (singles cs) after)
    (hback : StartsAtHeader (singles cs) back) : run.Cut (singles cs) (after ++ back) := by
  obtain ⟨line, hline, hheader⟩ := hback
  -- the line behind the run is the one that was there, or else the header
  have hnext : ∀ next, (after ++ back).head? = some next →
      after.head? = some next ∨ next = line := by
    intro next h
    cases after with
    | nil => exact .inr (Option.some.inj (h.symm.trans hline))
    | cons x xs => exact .inl h
  cases hcut with
  | header head body hhead hbody hwhole =>
    refine .header head body hhead hbody fun next h => ?_
    rcases hnext next h with hafter | rfl
    · exact hwhole next hafter
    · exact isBodyLine_of_isHeader hcs hheader
  | code part hne hno hwhole =>
    refine .code part hne hno fun next h => ?_
    rcases hnext next h with hafter | rfl
    · exact hwhole next hafter
    · exact hheader

/-- The runs in front of a header are not changed by it. -/
theorem runs_append (hcs : ∀ c ∈ cs, Text.isBlankChar c = false) (front : List Chars)
    {back : List Chars} (hback : StartsAtHeader (singles cs) back) :
    runs (singles cs) (front ++ back) = runs (singles cs) front ++ runs (singles cs) back := by
  induction front using runs_induction (singles cs) with
  | nil =>
    have hnil : runs (singles cs) [] = [] := by rw [runs]
    rw [hnil]
    rfl
  | cons run after hcut hruns ih =>
    rw [hruns, List.append_assoc, runs_of_cut (hcut.append hcs hback), ih, List.cons_append]

theorem segmentsOf_runs_append (hcs : ∀ c ∈ cs, Text.isBlankChar c = false) (start : Nat)
    (front : List Chars) {back : List Chars} (hback : StartsAtHeader (singles cs) back) :
    segmentsOf (singles cs) start (runs (singles cs) (front ++ back)) =
      segmentsOf (singles cs) start (runs (singles cs) front) ++
        (bodySegments (singles cs) back).map (Segment.shift (start + front.length)) := by
  have hshift := segmentsOf_add (singles cs) 0 (start + front.length) (runs (singles cs) back)
  rw [Nat.zero_add] at hshift
  rw [runs_append hcs front hback, segmentsOf_append, flatMap_lines_runs, hshift]
  rfl

/-! ## The title -/

/-- The lines are a header, body lines under it, then blank lines, and nothing more. -/
structure LoneHeader (comments lines : List Chars) (head : Chars) (body : List Chars) : Prop where
  lines_eq : ∃ blanks, lines = head :: (body ++ blanks) ∧ ∀ line ∈ blanks, Text.isBlank line = true
  is_header : isHeader comments head = true
  is_body : ∀ line ∈ body, isBodyLine comments line = true

theorem takeWhile_append_of_false {p : Chars → Bool} (front : List Chars) {line : Chars}
    {back : List Chars} (h : back.head? = some line) (hp : p line = false) :
    (front ++ back).takeWhile p = front.takeWhile p := by
  obtain ⟨rest, rfl⟩ := List.head?_eq_some_iff.mp h
  induction front with
  | nil => simp [hp]
  | cons x xs ih =>
    rw [List.cons_append, List.takeWhile_cons, List.takeWhile_cons, ih]

theorem dropWhile_append_of_false {p : Chars → Bool} (front : List Chars) {line : Chars}
    {back : List Chars} (h : back.head? = some line) (hp : p line = false) :
    (front ++ back).dropWhile p = front.dropWhile p ++ back := by
  have hwhole := List.takeWhile_append_dropWhile (p := p) (l := front ++ back)
  rw [takeWhile_append_of_false front h hp] at hwhole
  have hfront := List.takeWhile_append_dropWhile (p := p) (l := front)
  refine List.append_cancel_left (hwhole.trans ?_)
  rw [← List.append_assoc, hfront]

/-- The lines behind the first header of a script, its body lines and blank lines. -/
def behindIntro (comments rest : List Chars) : List Chars :=
  (rest.dropWhile (isBodyLine comments)).dropWhile Text.isBlank

theorem behindIntro_append (hcs : ∀ c ∈ cs, Text.isBlankChar c = false) (rest : List Chars)
    {back : List Chars} (hback : StartsAtHeader (singles cs) back) :
    behindIntro (singles cs) (rest ++ back) = behindIntro (singles cs) rest ++ back := by
  obtain ⟨line, hline, hheader⟩ := hback
  rw [behindIntro, dropWhile_append_of_false rest hline (isBodyLine_of_isHeader hcs hheader),
    dropWhile_append_of_false _ hline (isBlank_of_isHeader hcs hheader), behindIntro]

/-- A header with nothing behind its intro stands alone. -/
theorem loneHeader_of_behindIntro {head : Chars} {rest : List Chars}
    (hhead : isHeader comments head = true) (h : behindIntro comments rest = []) :
    LoneHeader comments (head :: rest) head (rest.takeWhile (isBodyLine comments)) where
  lines_eq := by
    refine ⟨rest.dropWhile (isBodyLine comments), ?_, List.dropWhile_eq_nil_iff.mp h⟩
    rw [List.takeWhile_append_dropWhile]
  is_header := hhead
  is_body := fun _ hline => List.mem_takeWhile_imp hline

/-- Behind the intro of a lone header there is nothing, and its body is the text under it. -/
theorem LoneHeader.behindIntro_eq (hcs : ∀ c ∈ cs, Text.isBlankChar c = false) {head : Chars}
    {rest body : List Chars} (h : LoneHeader (singles cs) (head :: rest) head body) :
    rest.takeWhile (isBodyLine (singles cs)) = body ∧ behindIntro (singles cs) rest = [] := by
  obtain ⟨blanks, hlines, hblanks⟩ := h.lines_eq
  obtain ⟨-, rfl⟩ := List.cons.inj hlines
  have hend : ∀ next, blanks.head? = some next → isBodyLine (singles cs) next = false := by
    intro next hnext
    rw [← Bool.not_eq_true]
    intro hbody
    have hvisible := isBlank_of_isMarkup hcs hbody
    rw [hblanks next (List.mem_of_mem_head? hnext)] at hvisible
    cases hvisible
  refine ⟨Text.takeWhile_append_of_head? h.is_body hend, ?_⟩
  rw [behindIntro, Text.dropWhile_append_of_head? h.is_body hend]
  exact List.dropWhile_eq_nil_iff.mpr hblanks

theorem titleIntro?_cons (comments : List Chars) (head : Chars) (rest : List Chars) :
    titleIntro? comments (head :: rest) =
      if isHeader comments head &&
          ((behindIntro comments rest).head?.map (isHeader comments)).getD false then
        some {
          title := headerTitle comments head
          body := (rest.takeWhile (isBodyLine comments)).map (stripMarkup 1)
          start := 0
          stop := (rest.takeWhile (isBodyLine comments)).length }
      else none := by
  rw [titleIntro?]
  rfl

/-- A lone header becomes the title when a header follows. -/
theorem titleIntro?_append_of_lone (hcs : ∀ c ∈ cs, Text.isBlankChar c = false) {head : Chars}
    {front body back : List Chars} (hlone : LoneHeader (singles cs) front head body)
    (hback : StartsAtHeader (singles cs) back) :
    titleIntro? (singles cs) (front ++ back) = some {
      title := headerTitle (singles cs) head
      body := body.map (stripMarkup 1)
      start := 0
      stop := body.length } := by
  obtain ⟨blanks, rfl, -⟩ := hlone.lines_eq
  obtain ⟨hbody, hbehind⟩ := hlone.behindIntro_eq hcs
  have happend := behindIntro_append hcs (body ++ blanks) hback
  obtain ⟨line, hline, hheader⟩ := hback
  rw [hbehind, List.nil_append] at happend
  rw [List.cons_append, titleIntro?_cons, happend, hline,
    takeWhile_append_of_false _ hline (isBodyLine_of_isHeader hcs hheader), hbody,
    hlone.is_header, Option.map_some, hheader]
  rfl

/-- In any other case the title is found, or not found, before the header is reached. -/
theorem titleIntro?_append (hcs : ∀ c ∈ cs, Text.isBlankChar c = false)
    {front back : List Chars} (hfront : front ≠ [])
    (hlone : ∀ head body, ¬ LoneHeader (singles cs) front head body)
    (hback : StartsAtHeader (singles cs) back) :
    titleIntro? (singles cs) (front ++ back) = titleIntro? (singles cs) front := by
  obtain ⟨head, rest, rfl⟩ := List.exists_cons_of_ne_nil hfront
  have happend := behindIntro_append hcs rest hback
  rw [List.cons_append, titleIntro?_cons, titleIntro?_cons, happend]
  cases hhead : isHeader (singles cs) head with
  | false => rfl
  | true =>
    -- a header that does not stand alone has a line behind its intro already
    obtain ⟨next, more, hbehind⟩ := List.exists_cons_of_ne_nil fun hnil =>
      hlone _ _ (loneHeader_of_behindIntro hhead hnil)
    obtain ⟨line, hline, hheader⟩ := hback
    rw [hbehind, List.cons_append, List.head?_cons, List.head?_cons,
      takeWhile_append_of_false rest hline (isBodyLine_of_isHeader hcs hheader)]

/-! ## The whole script -/

theorem trimBlank_of_blank {part : List Chars} (h : ∀ line ∈ part, Text.isBlank line = true) :
    trimBlank part = [] := by
  rw [trimBlank, List.dropWhile_eq_nil_iff.mpr h]
  rfl

/-- Blank lines amount to no segment. -/
theorem segmentsOf_blank (hcs : ∀ c ∈ cs, Text.isBlankChar c = false) (start : Nat)
    {blanks : List Chars} (hblanks : ∀ line ∈ blanks, Text.isBlank line = true) :
    segmentsOf (singles cs) start (runs (singles cs) blanks) = [] := by
  induction blanks using runs_induction (singles cs) generalizing start with
  | nil =>
    rw [runs]
    rfl
  | cons run after hcut hruns ih =>
    obtain ⟨hrun, hafter⟩ := List.forall_mem_append.mp hblanks
    rw [hruns, segmentsOf, ih _ hafter, List.append_nil]
    cases hcut with
    | header head body hhead =>
      have hvisible := isBlank_of_isHeader hcs hhead
      rw [hrun head List.mem_cons_self] at hvisible
      cases hvisible
    | code part =>
      have hnone : trimBlank part = [] := trimBlank_of_blank hrun
      rw [segment?_code, if_pos hnone]
      rfl

/-- The title of a script lies in it. -/
theorem drop_titleIntro? {front : List Chars} {t : TitleIntro}
    (h : titleIntro? comments front = some t) (back : List Chars) :
    (front ++ back).drop (t.stop + 1) = front.drop (t.stop + 1) ++ back ∧
      t.stop + 1 + (front.drop (t.stop + 1)).length = front.length := by
  obtain ⟨head, body, after, rfl, -, -, rfl⟩ := titleIntro?_eq_some h
  have hle : body.length + 1 ≤ (head :: body ++ after).length := by
    rw [List.length_append, List.length_cons]
    omega
  refine ⟨List.drop_append_of_le_length hle, ?_⟩
  rw [List.length_drop]
  exact Nat.add_sub_cancel' hle

/-- A section is put behind a script. If the script was only a header with its text, the header is
    now the title; in any other case title and segments stay as they were. The segments of the
    section come after them, as they are without looking for a title, and moved by the length of
    the script. -/
theorem segmentation_append_header {a b : Char} (ha : Text.isBlankChar a = false)
    (hb : Text.isBlankChar b = false) {front back : List Chars} (hfront : front ≠ [])
    (hback : StartsAtHeader [[a], [b]] back) :
    (∀ head body, LoneHeader [[a], [b]] front head body →
      segmentation [[a], [b]] (front ++ back) =
        (some {
            title := headerTitle [[a], [b]] head
            body := body.map (stripMarkup 1)
            start := 0
            stop := body.length },
          (bodySegments [[a], [b]] back).map (Segment.shift front.length))) ∧
      ((∀ head body, ¬ LoneHeader [[a], [b]] front head body) →
        segmentation [[a], [b]] (front ++ back) =
          ((segmentation [[a], [b]] front).1,
            (segmentation [[a], [b]] front).2 ++
              (bodySegments [[a], [b]] back).map (Segment.shift front.length))) := by
  have hcs : ∀ c ∈ [a, b], Text.isBlankChar c = false := by
    simp [ha, hb]
  have hsingles : singles [a, b] = [[a], [b]] := rfl
  rw [← hsingles] at hback ⊢
  constructor
  case left =>
    intro head body hlone
    have htitle := titleIntro?_append_of_lone hcs hlone hback
    obtain ⟨blanks, rfl, hblanks⟩ := hlone.lines_eq
    -- behind the title only the blank lines are left of the script
    have hdrop : (head :: (body ++ blanks) ++ back).drop (body.length + 1) = blanks ++ back := by
      rw [List.cons_append, List.drop_succ_cons, List.append_assoc, List.drop_left' rfl]
    have hlength : body.length + 1 + blanks.length = (head :: (body ++ blanks)).length := by
      rw [List.length_cons, List.length_append]
      omega
    rw [segmentation, htitle]
    simp only [hdrop]
    rw [segmentsOf_runs_append hcs _ _ hback, segmentsOf_blank hcs _ hblanks, hlength,
      List.nil_append]
  case right =>
    intro hlone
    have htitle := titleIntro?_append hcs hfront hlone hback
    rw [segmentation, segmentation, htitle]
    cases hfound : titleIntro? (singles [a, b]) front with
    | none =>
      simp only
      rw [segmentsOf_runs_append hcs _ _ hback, Nat.zero_add]
    | some t =>
      obtain ⟨hdrop, hlength⟩ := drop_titleIntro? hfound back
      simp only [hdrop]
      rw [segmentsOf_runs_append hcs _ _ hback, hlength]

/-- A section with a line of code. -/
def sectionScript : List Chars := ["## S", "x = 1;"]

/-- A line of code, and a blank line. -/
def codeScript : List Chars := ["y;", ""]

/-- A header with a line of text, and a blank line. -/
def introScript : List Chars := ["%% T", "% a", ""]

/-- Code stays as it is in front of a section, and a header with its text becomes the title. -/
theorem segmentation_append_sectionScript :
    StartsAtHeader [['%'], ['#']] sectionScript ∧
      segmentation [['%'], ['#']] (codeScript ++ sectionScript) =
        (none, [.code ⟨["y;"], 0, 0, none⟩, .header ⟨"S", true, [], 2, 2, []⟩,
          .code ⟨["x = 1;"], 3, 3, none⟩]) ∧
      segmentation [['%'], ['#']] (introScript ++ sectionScript) =
        (some ⟨"T", ["a"], 0, 1⟩, [.header ⟨"S", true, [], 3, 3, []⟩,
          .code ⟨["x = 1;"], 4, 4, none⟩]) := by
  have hheader : StartsAtHeader [['%'], ['#']] sectionScript := ⟨"## S", rfl, by decide⟩
  have hbody : bodySegments [['%'], ['#']] sectionScript =
      [.header ⟨"S", true, [], 0, 0, []⟩, .code ⟨["x = 1;"], 1, 1, none⟩] := by decide +kernel
  refine ⟨hheader, ?_, ?_⟩
  · have hnot : ∀ head body, ¬ LoneHeader [['%'], ['#']] codeScript head body := by
      intro head body h
      obtain ⟨blanks, hlines, -⟩ := h.lines_eq
      obtain ⟨rfl, -⟩ := List.cons.inj hlines
      exact absurd h.is_header (by decide)
    have hfirst : segmentation [['%'], ['#']] codeScript =
        (none, [.code ⟨["y;"], 0, 0, none⟩]) := by decide +kernel
    have hlines : codeScript ≠ [] := List.cons_ne_nil _ _
    have hall := (segmentation_append_header (by decide) (by decide) hlines hheader).2 hnot
    rw [hall, hbody, hfirst]
    rfl
  · have hintro : LoneHeader [['%'], ['#']] introScript "%% T" ["% a"] :=
      ⟨⟨[""], rfl, by decide⟩, by decide, by decide⟩
    have hlines : introScript ≠ [] := List.cons_ne_nil _ _
    have hall := (segmentation_append_header (by decide) (by decide) hlines hheader).1 _ _ hintro
    rw [hall, hbody]
    rfl

end ScriptReport.Script

/-
  ScriptReport.Proofs.Script.Segmentation

  Cutting a script into segments as a machine that goes through it: it looks for the title, and
  from then on it is either at a header or in code, which the next line decides. In each round it
  must pass at least one line, or else it is stuck. Main statements: with comment texts of single
  characters the machine never gets stuck and gives the segmentation (`scan_eq_segmentation`), and
  the segmentation holds every line of the script once or leaves it out for a reason
  (`scan_covers_script`).
-/

import ScriptReport.Proofs.Script.Coverage

namespace ScriptReport.Script

/-! ## The machine -/

/-- What the machine reads next. -/
inductive Phase where
  | header
  | code
  deriving DecidableEq, Repr

/-- The next line decides; at the end of the script it makes no difference. -/
def nextPhase (comments lines : List Chars) : Phase :=
  if (lines.head?.map (isHeader comments)).getD false then .header else .code

/-- What is read in a phase from the lines `line :: rest`. In code nothing is read if the next line
    is a header after all. -/
def Phase.run (comments : List Chars) (line : Chars) (rest : List Chars) : Phase → Run
  | .header => .header line (rest.takeWhile (isBodyLine comments))
  | .code => .code ((line :: rest).takeWhile (!isHeader comments ·))

/-- The machine did not get past a line. -/
structure NoProgress where
  line : Nat
  deriving DecidableEq, Repr

/-- The segments of the lines from number `start` on. -/
def scanRuns (comments : List Chars) (phase : Phase) (start : Nat) :
    List Chars → Except NoProgress (List Segment)
  | [] => .ok []
  | line :: rest =>
    let run := phase.run comments line rest
    let after := (line :: rest).drop run.lines.length
    if _h : run.lines = [] then .error ⟨start⟩
    else
      match scanRuns comments (nextPhase comments after) (start + run.lines.length) after with
      | .ok segments => .ok ((run.segment? comments start).toList ++ segments)
      | .error fault => .error fault
termination_by lines => lines.length
decreasing_by
  have hpos : 0 < (phase.run comments line rest).lines.length := List.length_pos_of_ne_nil _h
  rw [List.length_drop, List.length_cons]
  omega

/-- The title and the segments of a script: the title is looked for first, and what follows it is
    read in turn. -/
def scan (comments lines : List Chars) : Except NoProgress (Option TitleIntro × List Segment) :=
  let title := titleIntro? comments lines
  let start := (title.map (·.stop + 1)).getD 0
  let after := lines.drop start
  match scanRuns comments (nextPhase comments after) start after with
  | .ok segments => .ok (title, segments)
  | .error fault => .error fault

/-! ## Progress -/

variable {comments after : List Chars}

/-- The phase that the next line decides on reads exactly the next run. -/
theorem run_nextPhase {run : Run} (hcut : run.Cut comments after) :
    ∃ line rest, run.lines ++ after = line :: rest ∧
      (nextPhase comments (run.lines ++ after)).run comments line rest = run := by
  cases hcut with
  | header head body hhead hbody hwhole =>
    refine ⟨head, body ++ after, rfl, ?_⟩
    have hphase : nextPhase comments (head :: body ++ after) = .header := by
      simp [nextPhase, hhead]
    rw [Run.lines, hphase, Phase.run, Text.takeWhile_append_of_head? hbody hwhole]
  | code part hne hno hwhole =>
    obtain ⟨line, rest, rfl⟩ := List.exists_cons_of_ne_nil hne
    refine ⟨line, rest ++ after, rfl, ?_⟩
    have hphase : nextPhase comments (line :: rest ++ after) = .code := by
      simp [nextPhase, hno line List.mem_cons_self]
    rw [Run.lines, hphase, Phase.run, ← List.cons_append, Text.takeWhile_append_of_head?]
    · intro x hx
      simp [hno x hx]
    · intro next hnext
      simp [hwhole next hnext]

/-- The machine never gets stuck, and reads the runs one after another. -/
theorem scanRuns_nextPhase (comments : List Chars) (start : Nat) (lines : List Chars) :
    scanRuns comments (nextPhase comments lines) start lines =
      .ok (segmentsOf comments start (runs comments lines)) := by
  induction lines using runs_induction comments generalizing start with
  | nil => rw [scanRuns, runs, segmentsOf]
  | cons run after hcut hruns ih =>
    obtain ⟨line, rest, hlines, hrun⟩ := run_nextPhase hcut
    have hdrop : (line :: rest).drop run.lines.length = after := by
      rw [← hlines, List.drop_left' rfl]
    rw [hruns, segmentsOf]
    rw [hlines] at hrun ⊢
    rw [scanRuns, hrun, dif_neg hcut.lines_ne_nil, hdrop, ih]

theorem scan_eq_segmentation (comments lines : List Chars) :
    scan comments lines = .ok (segmentation comments lines) := by
  rw [scan, scanRuns_nextPhase, segmentation]
  cases titleIntro? comments lines with
  | none => rfl
  | some title => rfl

/-! ## The whole script -/

/-- The ranges of the title and of the segments, in order. -/
def ranges (title : Option TitleIntro) (segments : List Segment) : List (Nat × Nat) :=
  (title.map fun t => (t.start, t.stop)).toList ++ segments.map fun s => (s.start, s.stop)

/-- What it is to cut a script into a title and segments. The ranges are not empty, lie in the
    script, and follow one another without overlap; title and segments hold what stands there. A
    line in no range is idle, a line outside the code is blank or a comment, and the lines that can
    only be code are those of the code segments, in their order. -/
structure IsSegmentation (comments lines : List Chars) (title : Option TitleIntro)
    (segments : List Segment) : Prop where
  range_le : ∀ r ∈ ranges title segments, r.1 ≤ r.2
  range_lt : ∀ r ∈ ranges title segments, r.2 < lines.length
  increasing : (ranges title segments).Pairwise fun r r' => r.2 < r'.1
  title_fits : ∀ t ∈ title, HeadedText comments lines t.title t.body t.start t.stop
  fits : ∀ s ∈ segments, s.Fits comments lines
  idle : ∀ i < lines.length, (∀ r ∈ ranges title segments, ¬ (r.1 ≤ i ∧ i ≤ r.2)) →
    Idle comments lines i
  outside_code : ∀ i line, lines[i]? = some line →
    (∀ c, Segment.code c ∈ segments → ¬ (c.start ≤ i ∧ i ≤ c.stop)) →
    Text.isBlank line = true ∨ startsWithComment comments line = true
  executable_kept : (codeLines segments).filter (isExecutable comments) =
    lines.filter (isExecutable comments)

variable {cs : List Char} {lines : List Chars}

/-- Every line in the range of a header starts with a comment text. -/
theorem HeadedText.startsWithComment {title line : Chars} {body : List Chars} {start stop i : Nat}
    (h : HeadedText (singles cs) lines title body start stop) (hstart : start ≤ i)
    (hstop : i ≤ stop) (hline : lines[i]? = some line) : startsWithComment (singles cs) line = true := by
  obtain ⟨head, rest, hslice, hhead, -, hrest⟩ := h
  rw [← getElem?_slice hstart hstop, hslice] at hline
  rcases List.mem_cons.mp (List.mem_of_getElem? hline) with rfl | hmem
  · exact startsWithComment_of_isHeader hhead
  · obtain ⟨hbody, -⟩ := (List.forall₂_and_left _ _).mp hrest
    exact startsWithComment_of_isBodyLine (hbody line hmem)

/-- An idle line is blank or starts with a comment text. -/
theorem Idle.blank_or_comment {i : Nat} {line : Chars} (h : Idle (singles cs) lines i)
    (hline : lines[i]? = some line) :
    Text.isBlank line = true ∨ Script.startsWithComment (singles cs) line = true := by
  cases h with
  | blank line' hat hblank =>
    rw [hline, Option.some.injEq] at hat
    exact .inl (hat ▸ hblank)
  | dropped start stop head body hstart hstop hslice hhead _ hbody _ =>
    right
    rw [← getElem?_slice hstart hstop, hslice] at hline
    rcases List.mem_cons.mp (List.mem_of_getElem? hline) with rfl | hmem
    · exact startsWithComment_of_isHeader hhead
    · exact startsWithComment_of_isBodyLine (hbody line hmem).1

/-- The title as a header like any other. -/
def TitleIntro.asHeader (t : TitleIntro) : Segment :=
  .header {
    title := t.title
    breaksSection := true
    body := t.body
    start := t.start
    stop := t.stop }

/-- Title and segments in one list. -/
def withTitle (title : Option TitleIntro) (segments : List Segment) : List Segment :=
  (title.map TitleIntro.asHeader).toList ++ segments

theorem ranges_eq (title : Option TitleIntro) (segments : List Segment) :
    ranges title segments = (withTitle title segments).map fun s => (s.start, s.stop) := by
  cases title <;> rfl

theorem code_mem_of_withTitle {title : Option TitleIntro} {segments : List Segment}
    {c : CodeSegment} (h : .code c ∈ withTitle title segments) : .code c ∈ segments := by
  cases title with
  | none => exact h
  | some t => simpa [withTitle, TitleIntro.asHeader] using h

/-- Title and segments that cover the script from end to end cut it up. -/
theorem Covers.isSegmentation {title : Option TitleIntro} {segments : List Segment}
    (h : Covers (singles cs) lines 0 lines.length (withTitle title segments))
    (hkept : (codeLines segments).filter (isExecutable (singles cs)) =
      lines.filter (isExecutable (singles cs))) :
    IsSegmentation (singles cs) lines title segments where
  range_le := by
    rw [ranges_eq, List.forall_mem_map]
    exact fun s hs => (h.bounded s hs).2.1
  range_lt := by
    rw [ranges_eq, List.forall_mem_map]
    exact fun s hs => (h.bounded s hs).2.2
  increasing := by
    rw [ranges_eq, List.pairwise_map]
    exact h.increasing
  title_fits := by
    intro t ht
    refine h.fits t.asHeader (List.mem_append_left _ ?_)
    rw [Option.mem_def.mp ht, Option.map_some, Option.toList_some, List.mem_singleton]
  fits := fun s hs => h.fits s (List.mem_append_right _ hs)
  idle := by
    intro i hi hout
    rw [ranges_eq, List.forall_mem_map] at hout
    exact h.idle i (Nat.zero_le i) hi hout
  outside_code := by
    intro i line hline hout
    obtain ⟨hi, -⟩ := List.getElem?_eq_some_iff.mp hline
    -- a line outside the code is under a header, or in no range at all
    by_cases hin : ∃ s ∈ withTitle title segments, s.HasLine i
    · obtain ⟨s, hs, hrange⟩ := hin
      cases s with
      | code c => exact absurd hrange (hout c (code_mem_of_withTitle hs))
      | header head =>
        exact .inr (HeadedText.startsWithComment (h.fits _ hs) hrange.1 hrange.2 hline)
    · refine (h.idle i (Nat.zero_le i) hi fun s hs hrange => ?_).blank_or_comment hline
      exact hin ⟨s, hs, hrange⟩
  executable_kept := hkept

/-- What the title of a script is read from. -/
theorem titleIntro?_eq_some {comments : List Chars} {t : TitleIntro}
    (h : titleIntro? comments lines = some t) :
    ∃ head body after, lines = (head :: body) ++ after ∧ isHeader comments head = true ∧
      (∀ line ∈ body, isBodyLine comments line = true) ∧
      t = {
        title := headerTitle comments head
        body := body.map (stripMarkup 1)
        start := 0
        stop := body.length } := by
  cases lines with
  | nil => simp [titleIntro?] at h
  | cons head rest =>
    rw [titleIntro?] at h
    split at h
    · next hcond =>
      rw [Bool.and_eq_true] at hcond
      refine ⟨head, rest.takeWhile (isBodyLine comments), rest.dropWhile (isBodyLine comments),
        ?_, hcond.1, fun _ hline => List.mem_takeWhile_imp hline, (Option.some.inj h).symm⟩
      rw [List.cons_append, List.takeWhile_append_dropWhile]
    · simp at h

theorem segmentation_isSegmentation (cs : List Char) (lines : List Chars) :
    IsSegmentation (singles cs) lines (segmentation (singles cs) lines).1
      (segmentation (singles cs) lines).2 := by
  rw [segmentation]
  cases ht : titleIntro? (singles cs) lines with
  | none =>
    have hcovers := covers_runs cs [] lines
    rw [List.nil_append, List.length_nil, Nat.zero_add] at hcovers
    exact Covers.isSegmentation hcovers (filter_codeLines_runs 0 lines)
  | some t =>
    obtain ⟨head, body, after, rfl, hhead, hbody, rfl⟩ := titleIntro?_eq_some ht
    have hdrop : ((head :: body) ++ after).drop (body.length + 1) = after := List.drop_left' rfl
    have hafter := covers_runs cs (head :: body) after
    have hfits := headedText_append [] after hhead hbody
    rw [List.nil_append, List.length_nil, Nat.zero_add] at hfits
    have htitle : Covers (singles cs) ((head :: body) ++ after) 0 (head :: body).length
        [TitleIntro.asHeader
          ⟨headerTitle (singles cs) head, body.map (stripMarkup 1), 0, body.length⟩] :=
      Covers.singleton rfl (Nat.zero_le _) rfl hfits
    -- the title covers the lines up to where the runs start
    simp only [hdrop]
    apply Covers.isSegmentation
    · rw [List.length_append]
      exact htitle.append hafter (Nat.zero_le _) (Nat.le_add_right _ _)
    · rw [filter_codeLines_runs, List.filter_append, filter_isExecutable_headed hhead hbody,
        List.nil_append]

/-- Reading a script with two comment characters always comes to its end, and what it gives cuts
    the script up. -/
theorem scan_covers_script (a b : Char) (lines : List Chars) :
    hasCutShortLine [[a], [b]] lines = false ∧
      ∃ title segments, scan [[a], [b]] lines = .ok (title, segments) ∧
        segmentation [[a], [b]] lines = (title, segments) ∧
        IsSegmentation [[a], [b]] lines title segments :=
  ⟨hasCutShortLine_singles [a, b] lines, _, _, scan_eq_segmentation _ _, rfl,
    segmentation_isSegmentation [a, b] lines⟩

end ScriptReport.Script

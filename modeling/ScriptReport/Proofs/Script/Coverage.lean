/-
  ScriptReport.Proofs.Script.Coverage

  What the segments of a script hold, and what they leave out. The statement about a whole script
  is `IsSegmentation`; it is put together from `Covers`, the same statement about the lines from
  one number to another. A single run covers its own lines (`covers_header`, `covers_code`), two
  adjoining stretches cover their union (`Covers.append`), and the runs of a script are walked by
  `runs_induction`.
-/

import ScriptReport.Proofs.Script.CommentLine
import ScriptReport.Proofs.Text.Occurrence

namespace ScriptReport.Script

/-! ## Lines by number -/

/-- The lines from `start` to `stop`, ends included. -/
def slice (lines : List Chars) (start stop : Nat) : List Chars := (lines.take (stop + 1)).drop start

theorem slice_append {before part after : List Chars} (h : part ≠ []) :
    slice (before ++ part ++ after) before.length (before.length + part.length - 1) = part := by
  have hpos := List.length_pos_of_ne_nil h
  have hstop : (before ++ part).length = before.length + part.length - 1 + 1 := by
    rw [List.length_append]; omega
  rw [slice, List.take_left' hstop, List.drop_left' rfl]

theorem getElem?_slice {lines : List Chars} {start stop i : Nat} (hstart : start ≤ i)
    (hstop : i ≤ stop) : (slice lines start stop)[i - start]? = lines[i]? := by
  rw [slice, List.getElem?_drop, List.getElem?_take_of_lt (by omega)]
  congr 1
  omega

/-! ## What a segment holds -/

/-- A segment of code holds exactly the lines of its range, none of them a header, and neither the
    first nor the last of them blank. -/
structure CodeSegment.Fits (comments lines : List Chars) (c : CodeSegment) : Prop where
  lines_eq : c.lines = slice lines c.start c.stop
  first : ∃ line, c.lines.head? = some line ∧ Text.isBlank line = false
  last : ∃ line, c.lines.getLast? = some line ∧ Text.isBlank line = false
  no_header : ∀ line ∈ c.lines, isHeader comments line = false

/-- The range starts at a header line with the title, and all other lines of it are body lines,
    which hold the body. -/
def HeadedText (comments lines : List Chars) (title : Chars) (body : List Chars)
    (start stop : Nat) : Prop :=
  ∃ head rest, slice lines start stop = head :: rest ∧ isHeader comments head = true ∧
    title = headerTitle comments head ∧ List.Forall₂ (IsBodyText comments) rest body

/-- A segment holds what stands in its range. -/
def Segment.Fits (comments lines : List Chars) : Segment → Prop
  | .code c => c.Fits comments lines
  | .header h => HeadedText comments lines h.title h.body h.start h.stop

/-- The line of that number is in the range of the segment. -/
def Segment.HasLine (s : Segment) (i : Nat) : Prop := s.start ≤ i ∧ i ≤ s.stop

/-- A line that no segment holds: it is blank, or it belongs to a header without a title that has
    only blank text under it. -/
inductive Idle (comments lines : List Chars) (i : Nat) : Prop where
  | blank (line : Chars) (at_i : lines[i]? = some line) (blank : Text.isBlank line = true)
  | dropped (start stop : Nat) (head : Chars) (body : List Chars)
      (start_le : start ≤ i) (le_stop : i ≤ stop) (range : slice lines start stop = head :: body)
      (header : isHeader comments head = true) (untitled : headerTitle comments head = [])
      (body_blank : ∀ line ∈ body,
        isBodyLine comments line = true ∧ Text.isBlank (stripMarkup 1 line) = true)
      (whole : ∀ next, lines[stop + 1]? = some next → isBodyLine comments next = false)

/-! ## Stretches of a script -/

/-- The segments account for the lines from `first` up to `next`, the latter left out: they lie
    there in order, hold what stands in their ranges, and the other lines are idle. -/
structure Covers (comments lines : List Chars) (first next : Nat) (segments : List Segment) :
    Prop where
  bounded : ∀ s ∈ segments, first ≤ s.start ∧ s.start ≤ s.stop ∧ s.stop < next
  increasing : segments.Pairwise fun s t => s.stop < t.start
  fits : ∀ s ∈ segments, s.Fits comments lines
  idle : ∀ i, first ≤ i → i < next → (∀ s ∈ segments, ¬ s.HasLine i) → Idle comments lines i

variable {comments lines : List Chars}

theorem Covers.nil (n : Nat) : Covers comments lines n n [] where
  bounded := by simp
  increasing := List.Pairwise.nil
  fits := by simp
  idle := fun i hfirst hnext _ => absurd hnext (by omega)

/-- Adjoining stretches together. -/
theorem Covers.append {first middle next : Nat} {s t : List Segment}
    (hs : Covers comments lines first middle s) (ht : Covers comments lines middle next t)
    (hfirst : first ≤ middle) (hnext : middle ≤ next) :
    Covers comments lines first next (s ++ t) where
  bounded := by
    intro x hx
    rcases List.mem_append.mp hx with hx | hx
    · have := hs.bounded x hx
      omega
    · have := ht.bounded x hx
      omega
  increasing := by
    rw [List.pairwise_append]
    refine ⟨hs.increasing, ht.increasing, ?_⟩
    intro x hx y hy
    have hxb := hs.bounded x hx
    have hyb := ht.bounded y hy
    omega
  fits := by
    intro x hx
    exact (List.mem_append.mp hx).elim (hs.fits x) (ht.fits x)
  idle := by
    intro i hi hlt hout
    -- a line that no segment holds is idle in the stretch that it lies in
    by_cases him : i < middle
    · exact hs.idle i hi him fun x hx => hout x (List.mem_append_left t hx)
    · exact ht.idle i (by omega) hlt fun x hx => hout x (List.mem_append_right s hx)

/-- A stretch that is one segment from end to end. -/
theorem Covers.singleton {s : Segment} {first next : Nat} (hfirst : s.start = first)
    (hle : s.start ≤ s.stop) (hnext : s.stop + 1 = next) (hfits : s.Fits comments lines) :
    Covers comments lines first next [s] where
  bounded := by
    intro x hx
    rw [List.mem_singleton.mp hx]
    omega
  increasing := List.pairwise_singleton _ _
  fits := by
    intro x hx
    rw [List.mem_singleton.mp hx]
    exact hfits
  idle := by
    intro i hi hlt hout
    exact absurd ⟨by omega, by omega⟩ (hout s List.mem_cons_self)

/-- Blank lines without a segment. -/
theorem Covers.blank (before after : List Chars) {part : List Chars}
    (h : ∀ line ∈ part, Text.isBlank line = true) :
    Covers comments (before ++ part ++ after) before.length (before.length + part.length) [] where
  bounded := by simp
  increasing := List.Pairwise.nil
  fits := by simp
  idle := by
    intro i hi hlt _
    have hpart : i - before.length < part.length := by omega
    refine .blank part[i - before.length] ?_ (h _ (List.getElem_mem hpart))
    rw [List.append_assoc, List.getElem?_append_right hi, List.getElem?_append_left hpart,
      List.getElem?_eq_getElem hpart]

/-! ## Runs -/

/-- The run can be what is cut off in front of the lines `after`. -/
inductive Run.Cut (comments after : List Chars) : Run → Prop where
  | header (head : Chars) (body : List Chars) (is_header : isHeader comments head = true)
      (is_body : ∀ line ∈ body, isBodyLine comments line = true)
      (whole : ∀ next, after.head? = some next → isBodyLine comments next = false) :
      Cut comments after (.header head body)
  | code (part : List Chars) (ne_nil : part ≠ [])
      (no_header : ∀ line ∈ part, isHeader comments line = false)
      (whole : ∀ next, after.head? = some next → isHeader comments next = true) :
      Cut comments after (.code part)

theorem Run.Cut.lines_ne_nil {after : List Chars} {run : Run} (h : run.Cut comments after) :
    run.lines ≠ [] := by
  cases h with
  | header head body => exact List.cons_ne_nil head body
  | code part ne_nil => exact ne_nil

/-- The runs of a script that is not empty: a first run, and the runs of the lines after it. -/
theorem runs_cons (comments : List Chars) (line : Chars) (rest : List Chars) :
    ∃ run after, runs comments (line :: rest) = run :: runs comments after ∧
      run.lines ++ after = line :: rest ∧ run.Cut comments after := by
  by_cases hline : isHeader comments line = true
  · refine ⟨.header line (rest.takeWhile (isBodyLine comments)),
      rest.dropWhile (isBodyLine comments), ?_, ?_, ?_⟩
    · rw [runs, if_pos hline]
    · rw [Run.lines, List.cons_append, List.takeWhile_append_dropWhile]
    · exact .header _ _ hline (fun _ h => List.mem_takeWhile_imp h) fun _ h => Text.head?_dropWhile h
  · refine ⟨.code (line :: rest.takeWhile (!isHeader comments ·)),
      rest.dropWhile (!isHeader comments ·), ?_, ?_, ?_⟩
    · rw [runs, if_neg hline]
    · rw [Run.lines, List.cons_append, List.takeWhile_append_dropWhile]
    · refine .code _ (List.cons_ne_nil _ _) ?_ fun _ h => by simpa using Text.head?_dropWhile h
      intro x hx
      rcases List.mem_cons.mp hx with rfl | hx
      · exact Bool.not_eq_true _ ▸ hline
      · simpa using List.mem_takeWhile_imp hx

/-- What holds of no lines, and of a run in front of lines that it holds of, holds of a script. -/
@[elab_as_elim]
theorem runs_induction (comments : List Chars) {motive : List Chars → Prop} (nil : motive [])
    (cons : ∀ run after, Run.Cut comments after run →
      runs comments (run.lines ++ after) = run :: runs comments after → motive after →
      motive (run.lines ++ after))
    (lines : List Chars) : motive lines := by
  induction hn : lines.length using Nat.strong_induction_on generalizing lines with
  | h n ih =>
    cases lines with
    | nil => exact nil
    | cons line rest =>
      -- a run is not empty, so what comes after it is shorter
      obtain ⟨run, after, hruns, happend, hcut⟩ := runs_cons comments line rest
      have hpos := List.length_pos_of_ne_nil hcut.lines_ne_nil
      have hlen : (run.lines ++ after).length = n := by rw [happend, hn]
      rw [List.length_append] at hlen
      rw [← happend] at hruns ⊢
      exact cons run after hcut hruns (ih after.length (by omega) after rfl)

/-! ## The segment of a run -/

variable {cs : List Char} {before after : List Chars}

/-- A header and the body lines under it stand in the script as they are read. -/
theorem headedText_append (before after : List Chars) {head : Chars} {body : List Chars}
    (hhead : isHeader (singles cs) head = true)
    (hbody : ∀ line ∈ body, isBodyLine (singles cs) line = true) :
    HeadedText (singles cs) (before ++ (head :: body) ++ after) (headerTitle (singles cs) head)
      (body.map (stripMarkup 1)) before.length (before.length + body.length) := by
  refine ⟨head, body, slice_append (List.cons_ne_nil head body), hhead, rfl, ?_⟩
  rw [List.forall₂_map_right_iff, List.forall₂_same]
  exact fun line hline => isBodyText_stripMarkup (hbody line hline)

theorem covers_header {head : Chars} {body : List Chars}
    (hcut : Run.Cut (singles cs) after (.header head body)) :
    Covers (singles cs) (before ++ (head :: body) ++ after) before.length
      (before.length + (head :: body).length)
      ((Run.header head body).segment? (singles cs) before.length).toList := by
  cases hcut with | header _ _ hhead hbody hwhole =>
  rw [Run.segment?]
  split
  · next hempty =>
    simp only [Bool.and_eq_true, decide_eq_true_eq, List.all_map, List.all_eq_true,
      Function.comp_apply] at hempty
    -- the header is dropped, and all of its lines are idle
    refine ⟨by simp, List.Pairwise.nil, by simp, ?_⟩
    intro i hi hlt _
    rw [List.length_cons] at hlt
    refine .dropped before.length (before.length + body.length) head body hi (by omega)
      (slice_append (List.cons_ne_nil head body)) hhead hempty.1
      (fun line h => ⟨hbody line h, hempty.2 line h⟩) ?_
    intro next hnext
    have hlen : (before ++ (head :: body)).length = before.length + body.length + 1 := by
      rw [List.length_append, List.length_cons]; omega
    rw [← hlen, List.getElem?_append_right (Nat.le_refl _), Nat.sub_self,
      ← List.head?_eq_getElem?] at hnext
    exact hwhole next hnext
  · refine Covers.singleton rfl (Nat.le_add_right _ _) ?_ ?_
    · simp only [Segment.stop, List.length_map, List.length_cons]
      omega
    · have hfits := headedText_append before after hhead hbody
      simpa only [Segment.Fits, List.length_map] using hfits

/-! ## Code between blank lines -/

/-- The lines without the blank lines at either end. -/
def trimBlank (part : List Chars) : List Chars :=
  (part.dropWhile Text.isBlank).rdropWhile Text.isBlank

/-- Lines of code are blank lines, what trimming leaves of them, and blank lines again. -/
theorem trimBlank_split (part : List Chars) :
    part.takeWhile Text.isBlank ++ trimBlank part ++
      (part.dropWhile Text.isBlank).rtakeWhile Text.isBlank = part := by
  rw [trimBlank, List.append_assoc, List.rdropWhile_append_rtakeWhile,
    List.takeWhile_append_dropWhile]

theorem segment?_code (comments : List Chars) (start : Nat) (part : List Chars) :
    (Run.code part).segment? comments start =
      if trimBlank part = [] then none
      else some (.code {
        lines := trimBlank part
        start := start + (part.takeWhile Text.isBlank).length
        stop := start + (part.takeWhile Text.isBlank).length + (trimBlank part).length - 1 }) := by
  have hdrop : (part.takeWhile Text.isBlank ++ part.dropWhile Text.isBlank).drop
      (part.takeWhile Text.isBlank).length = part.dropWhile Text.isBlank := List.drop_left' rfl
  rw [List.takeWhile_append_dropWhile] at hdrop
  rw [Run.segment?, hdrop]
  rfl

theorem trimBlank_head {part : List Chars} (h : trimBlank part ≠ []) :
    ∃ line, (trimBlank part).head? = some line ∧ Text.isBlank line = false := by
  obtain ⟨line, rest, hcons⟩ := List.exists_cons_of_ne_nil h
  have hhead : (part.dropWhile Text.isBlank).head? = some line := by
    obtain ⟨more, hmore⟩ := List.rdropWhile_prefix Text.isBlank (part.dropWhile Text.isBlank)
    rw [trimBlank] at hcons
    rw [← hmore, hcons, List.cons_append, List.head?_cons]
  exact ⟨line, by rw [hcons, List.head?_cons], Text.head?_dropWhile hhead⟩

theorem trimBlank_last {part : List Chars} (h : trimBlank part ≠ []) :
    ∃ line, (trimBlank part).getLast? = some line ∧ Text.isBlank line = false := by
  have hlast := List.rdropWhile_last_not Text.isBlank (part.dropWhile Text.isBlank) h
  rw [Bool.not_eq_true] at hlast
  exact ⟨_, List.getLast?_eq_some_getLast h, hlast⟩

theorem mem_of_mem_trimBlank {part : List Chars} {line : Chars} (h : line ∈ trimBlank part) :
    line ∈ part := by
  rw [← trimBlank_split part]
  exact List.mem_append_left _ (List.mem_append_right _ h)

/-- Code with blank lines on both sides, which are idle. -/
theorem covers_between (before after : List Chars) {lead code trail : List Chars}
    (hlead : ∀ line ∈ lead, Text.isBlank line = true)
    (htrail : ∀ line ∈ trail, Text.isBlank line = true) (hcode : code ≠ [])
    (hfirst : ∃ line, code.head? = some line ∧ Text.isBlank line = false)
    (hlast : ∃ line, code.getLast? = some line ∧ Text.isBlank line = false)
    (hno : ∀ line ∈ code, isHeader comments line = false) :
    Covers comments (before ++ (lead ++ code ++ trail) ++ after) before.length
      (before.length + (lead ++ code ++ trail).length)
      [.code {
        lines := code
        start := before.length + lead.length
        stop := before.length + lead.length + code.length - 1 }] := by
  have hpos := List.length_pos_of_ne_nil hcode
  -- three stretches: blank lines, the code, blank lines
  have hone : Covers comments _ _ _ [] := Covers.blank before (code ++ trail ++ after) hlead
  have htwo : Covers comments (before ++ lead ++ code ++ (trail ++ after))
      (before.length + lead.length) (before.length + lead.length + code.length)
      [.code {
        lines := code
        start := before.length + lead.length
        stop := before.length + lead.length + code.length - 1 }] := by
    refine Covers.singleton rfl (by simp only [Segment.start, Segment.stop]; omega)
      (by simp only [Segment.stop]; omega) ⟨?_, hfirst, hlast, hno⟩
    rw [← List.length_append, slice_append hcode]
  have hthree : Covers comments _ _ _ [] := Covers.blank (before ++ lead ++ code) after htrail
  simp only [List.length_append, ← List.append_assoc] at hone htwo hthree ⊢
  have hall := (hone.append htwo (by omega) (by omega)).append hthree (by omega) (by omega)
  simpa only [List.nil_append, List.append_nil, Nat.add_assoc] using hall

theorem covers_code {part : List Chars} (hcut : Run.Cut comments after (.code part)) :
    Covers comments (before ++ part ++ after) before.length (before.length + part.length)
      ((Run.code part).segment? comments before.length).toList := by
  cases hcut with | code _ _ hno =>
  have hsplit := trimBlank_split part
  have hlead : ∀ line ∈ part.takeWhile Text.isBlank, Text.isBlank line = true :=
    fun _ h => List.mem_takeWhile_imp h
  have htrail : ∀ line ∈ (part.dropWhile Text.isBlank).rtakeWhile Text.isBlank,
      Text.isBlank line = true := fun _ h => List.mem_rtakeWhile_imp h
  rw [segment?_code]
  split
  · next hnil =>
    refine Covers.blank before after fun line hline => ?_
    rw [← hsplit, hnil, List.append_nil, List.mem_append] at hline
    exact hline.elim (hlead line) (htrail line)
  · next hcode =>
    have hall := covers_between before after hlead htrail hcode (trimBlank_head hcode)
      (trimBlank_last hcode) fun line h => hno line (mem_of_mem_trimBlank h)
    rw [hsplit] at hall
    exact hall

/-! ## All runs -/

variable (cs) in
/-- The segments of the runs of a script cover it, wherever in a longer script it stands. -/
theorem covers_runs (before lines : List Chars) :
    Covers (singles cs) (before ++ lines) before.length (before.length + lines.length)
      (segmentsOf (singles cs) before.length (runs (singles cs) lines)) := by
  induction lines using runs_induction (singles cs) generalizing before with
  | nil =>
    rw [runs]
    exact Covers.nil _
  | cons run after hcut hruns ih =>
    have hrun : Covers (singles cs) (before ++ run.lines ++ after) before.length
        (before.length + run.lines.length) (run.segment? (singles cs) before.length).toList := by
      cases run with
      | header head body => exact covers_header hcut
      | code part => exact covers_code hcut
    -- the other runs stand in the script behind the first one
    have hrest := ih (before ++ run.lines)
    rw [List.length_append] at hrest
    have hboth := hrun.append hrest (by omega) (by omega)
    rw [List.append_assoc, Nat.add_assoc, ← List.length_append] at hboth
    rw [hruns]
    exact hboth

/-! ## Lines that are run -/

/-- A line that can only be code: it is not blank and no comment text stands in front. -/
def isExecutable (comments : List Chars) (line : Chars) : Bool :=
  !Text.isBlank line && !startsWithComment comments line

/-- The lines of code of a segment. -/
def Segment.codeLines : Segment → List Chars
  | .code c => c.lines
  | .header _ => []

/-- The lines of code of all segments, in order. -/
def codeLines (segments : List Segment) : List Chars := segments.flatMap Segment.codeLines

theorem filter_isExecutable_blank {part : List Chars}
    (h : ∀ line ∈ part, Text.isBlank line = true) :
    part.filter (isExecutable comments) = [] := by
  rw [List.filter_eq_nil_iff]
  intro line hline
  simp [isExecutable, h line hline]

theorem filter_isExecutable_headed {head : Chars} {body : List Chars}
    (hhead : isHeader (singles cs) head = true)
    (hbody : ∀ line ∈ body, isBodyLine (singles cs) line = true) :
    (head :: body).filter (isExecutable (singles cs)) = [] := by
  rw [List.filter_eq_nil_iff]
  intro line hline
  rcases List.mem_cons.mp hline with rfl | hline
  · simp [isExecutable, startsWithComment_of_isHeader hhead]
  · simp [isExecutable, startsWithComment_of_isBodyLine (hbody line hline)]

/-- The segment of a run keeps the executable lines of the run. -/
theorem filter_codeLines_segment? (start : Nat) {run : Run} (hcut : run.Cut (singles cs) after) :
    (codeLines (run.segment? (singles cs) start).toList).filter (isExecutable (singles cs)) =
      run.lines.filter (isExecutable (singles cs)) := by
  cases hcut with
  | header head body hhead hbody _ =>
    rw [Run.lines, filter_isExecutable_headed hhead hbody, Run.segment?]
    split <;> rfl
  | code part =>
    have hsplit := trimBlank_split part
    have hlead : (part.takeWhile Text.isBlank).filter (isExecutable (singles cs)) = [] :=
      filter_isExecutable_blank fun _ h => List.mem_takeWhile_imp h
    have htrail : ((part.dropWhile Text.isBlank).rtakeWhile Text.isBlank).filter
        (isExecutable (singles cs)) = [] :=
      filter_isExecutable_blank fun _ h => List.mem_rtakeWhile_imp h
    have hpart : part.filter (isExecutable (singles cs)) =
        (trimBlank part).filter (isExecutable (singles cs)) := by
      conv => lhs; rw [← hsplit]
      rw [List.filter_append, List.filter_append, hlead, htrail, List.nil_append, List.append_nil]
    rw [Run.lines, hpart, segment?_code]
    split
    · next hnil => rw [hnil]; rfl
    · simp [codeLines, Segment.codeLines]

theorem filter_codeLines_runs (start : Nat) (lines : List Chars) :
    (codeLines (segmentsOf (singles cs) start (runs (singles cs) lines))).filter
      (isExecutable (singles cs)) = lines.filter (isExecutable (singles cs)) := by
  induction lines using runs_induction (singles cs) generalizing start with
  | nil =>
    rw [runs]
    rfl
  | cons run after hcut hruns ih =>
    have hrun := filter_codeLines_segment? start hcut
    have hrest := ih (start + run.lines.length)
    rw [codeLines] at hrun hrest ⊢
    rw [hruns, segmentsOf, List.flatMap_append, List.filter_append, hrun, hrest,
      ← List.filter_append]

end ScriptReport.Script

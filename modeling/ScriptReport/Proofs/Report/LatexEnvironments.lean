/-
  ScriptReport.Proofs.Report.LatexEnvironments

  Where the environments of LaTeX reports end. A report falls into text that is read and
  environments with lines that are not (`text_documentParts`). Such an environment ends at the first
  text that ends it behind its begin line, and the lines are written into it as they are. So it ends
  where the report ends it exactly if that text is not in the lines. Main statement:
  `environments_end_iff`.
-/

import ScriptReport.Proofs.Report.LatexPage

namespace ScriptReport.Report.Latex

open ScriptReport.Script

/-! ## Parts -/

/-- A part of a report. -/
inductive Part where
  /-- Text that is read. -/
  | read (text : Chars)
  /-- An environment with lines that are not read. -/
  | raw (e : RawEnvironment) (options lines : Chars)
  deriving DecidableEq, Repr

/-- The text of a part. -/
def Part.text : Part → Chars
  | .read text => text
  | .raw e options lines => environment e.name options (lines ++ "\n")

/-- The text of parts, one after another. -/
def partsText (parts : List Part) : Chars := Text.concatMap Part.text parts

/-- The parts of an item. -/
def itemParts : Item → List Part
  | .codeLiteral text => [.raw .listing "[style=source,numbers=none]" text]
  | .preformatted text => [.raw .verbatim [] text]
  | .included path (some text) =>
    [.raw .listing ("[style=source,title=" ++ group (escape path) ++ "]") text]
  | item => [.read (renderItem backEnd item)]

/-- The parts of captured output and figures. -/
def resultParts (result : ExecutionResult) : List Part :=
  (if result.outputLines = [] then []
   else
    [.raw .listing
      ("[style=output,title=" ++ (if result.error.isSome then "Error".toList else "Output") ++ "]")
      (Text.unlines result.outputLines)]) ++
  (if result.graphics = [] then [] else [.read (backEnd.gallery result.graphics)])

/-- The parts of a segment. -/
def segmentParts (showCode : Bool) : Segment → State → List Part
  | .code segment, _ =>
    (if showCode then [.raw .listing "[style=source]" segment.code] else []) ++
      (segment.result.map resultParts).getD []
  | .header segment, s =>
    .read (if segment.breaksSection then section_ segment.title s
      else sectionNoBreak segment.title s).1 :: segment.content.flatMap itemParts

/-- The parts of segments, one after another. -/
def bodyParts (showCode : Bool) : List Segment → State → List Part
  | [], _ => []
  | segment :: rest, s =>
    segmentParts showCode segment s ++
      bodyParts showCode rest (renderSegment backEnd showCode segment s).2

/-- The lines of the comment that keeps the script. -/
def commentLines (source : Chars) : Chars :=
  sourceBegin ++ "\n" ++ source ++ "\n" ++ sourceEnd

/-- The parts of the report of a document. -/
def documentParts (showCode : Bool) (doc : Document) (before : State) : List Part :=
  .read (header doc.shownTitle [] []) :: doc.intro.flatMap itemParts ++
    .read (if doc.contents = [] then [] else "\\tableofcontents\n") ::
      bodyParts showCode doc.body before.resetCounter ++
    [.raw .comment [] (commentLines doc.sourceText), .read (endEnv "document")]

/-! ## Where environments end -/

/-- Behind the begin line of the environment, the first text that ends it is its own. -/
def RawEnvironment.EndsItself (e : RawEnvironment) (lines rest : Chars) : Prop :=
  Text.find? e.endText (lines ++ "\n" ++ endEnv e.name ++ rest) = some (lines.length + 1)

/-- All environments among the parts end where the parts end them. -/
def EndThemselves (parts : List Part) : Prop :=
  ∀ front e options lines back, parts = front ++ .raw e options lines :: back →
    e.EndsItself lines (partsText back)

/-- An environment of the kind is among the parts and ends before the parts end it. -/
def EndsEarly (e : RawEnvironment) (parts : List Part) : Prop :=
  ∃ front options lines back,
    parts = front ++ .raw e options lines :: back ∧ ¬ e.EndsItself lines (partsText back)

/-- The lines of all environments among the parts do not end them. -/
def PartsKeep (parts : List Part) : Prop :=
  ∀ e options lines, .raw e options lines ∈ parts → e.Keeps lines

variable {e : RawEnvironment} {lines rest : Chars} {parts others : List Part} {showCode : Bool}
  {doc : Document}

theorem find?_append_lineEnd (lines : Chars) :
    Text.find? e.endText (lines ++ "\n") = Text.find? e.endText lines := by
  have hnone : Text.find? e.endText ['\n'] = none := by cases e <;> decide
  have hborder : Text.find? e.endText (lines ++ "\n") =
      (Text.find? e.endText lines).or ((Text.find? e.endText ['\n']).map (lines.length + ·)) :=
    Text.find?_append_cons (not_mem_tail_endText e)
  rw [hborder, hnone, Option.map_none, Option.or_none]

theorem find?_environment (lines rest : Chars) :
    Text.find? e.endText (lines ++ "\n" ++ endEnv e.name ++ rest) =
      (Text.find? e.endText lines).or (some (lines.length + 1)) := by
  have hbackslash : '\\' ∉ "end" ++ group e.name := by cases e <;> decide
  have hsplit : lines ++ "\n" ++ endEnv e.name ++ rest =
      (lines ++ "\n") ++ ('\\' :: ("end" ++ group e.name) ++ ("\n" ++ rest)) := by
    simp [endEnv, command]
  have hself : Text.find? e.endText
      ((lines ++ "\n") ++ ('\\' :: ("end" ++ group e.name) ++ ("\n" ++ rest))) =
        (Text.find? e.endText (lines ++ "\n")).or (some (lines ++ "\n").length) :=
    Text.find?_append_self hbackslash
  rw [hsplit, hself, find?_append_lineEnd, List.length_append]
  rfl

/-- An environment ends where it should exactly if its lines do not end it. -/
theorem endsItself_iff : e.EndsItself lines rest ↔ e.Keeps lines := by
  rw [RawEnvironment.EndsItself, find?_environment, RawEnvironment.Keeps,
    Text.contains_eq_false_iff]
  cases hfound : Text.find? e.endText lines with
  | none => simp
  | some i =>
    have hle := Text.find?_le_length hfound
    simp only [Option.some_or, Option.some.injEq, reduceCtorEq, iff_false]
    omega

theorem endThemselves_iff : EndThemselves parts ↔ PartsKeep parts := by
  constructor
  · intro h e options lines hmem
    obtain ⟨front, back, hsplit⟩ := List.append_of_mem hmem
    exact endsItself_iff.mp (h front e options lines back hsplit)
  · rintro h front e options lines back rfl
    exact endsItself_iff.mpr (h e options lines (by simp))

theorem endsEarly_of_mem {options : Chars} (hmem : .raw e options lines ∈ parts)
    (hlines : ¬ e.Keeps lines) : EndsEarly e parts := by
  obtain ⟨front, back, hsplit⟩ := List.append_of_mem hmem
  exact ⟨front, options, lines, back, hsplit, mt endsItself_iff.mp hlines⟩

/-! ## The parts are the report -/

theorem partsText_append (parts others : List Part) :
    partsText (parts ++ others) = partsText parts ++ partsText others := by
  rw [partsText, Text.concatMap, List.map_append, List.flatten_append]
  rfl

theorem partsText_cons (part : Part) (parts : List Part) :
    partsText (part :: parts) = part.text ++ partsText parts := rfl

theorem partsText_singleton (part : Part) : partsText [part] = part.text := List.append_nil _

theorem text_itemParts (item : Item) : partsText (itemParts item) = renderItem backEnd item := by
  cases item with
  | included path text => cases text <;> exact partsText_singleton _
  | _ => exact partsText_singleton _

theorem text_itemsParts (items : List Item) :
    partsText (items.flatMap itemParts) = renderItems backEnd items := by
  induction items with
  | nil => rfl
  | cons item rest ih =>
    rw [List.flatMap_cons, partsText_append, text_itemParts, ih]
    rfl

theorem text_resultParts (result : ExecutionResult) :
    partsText (resultParts result) = renderResult backEnd result := by
  rw [resultParts, renderResult, partsText_append]
  congr 1
  · split
    · rfl
    · exact partsText_singleton _
  · split
    · rfl
    · exact partsText_singleton _

theorem text_segmentParts (showCode : Bool) (segment : Segment) (s : State) :
    partsText (segmentParts showCode segment s) = (renderSegment backEnd showCode segment s).1 := by
  cases segment with
  | code segment =>
    rw [segmentParts, partsText_append]
    show _ = renderCode backEnd showCode segment
    rw [renderCode]
    congr 1
    · cases showCode
      · rfl
      · exact partsText_singleton _
    · cases segment.result with
      | none => rfl
      | some result => exact text_resultParts result
  | header segment =>
    rw [segmentParts, partsText_cons, text_itemsParts]
    rfl

theorem text_bodyParts (showCode : Bool) (segments : List Segment) (s : State) :
    partsText (bodyParts showCode segments s) = (renderBody backEnd showCode segments s).1 := by
  induction segments generalizing s with
  | nil => rfl
  | cons segment rest ih =>
    rw [bodyParts, partsText_append, text_segmentParts, ih]
    rfl

/-- The parts of a report make it up. -/
theorem text_documentParts (showCode : Bool) (doc : Document) (before : State) :
    partsText (documentParts showCode doc before) =
      (renderDocument backEnd showCode doc before).1 := by
  have hheader (intro : Chars) (contents : List (Chars × Bool)) :
      header doc.shownTitle intro contents = header doc.shownTitle [] [] ++ intro ++
        (if contents = [] then [] else "\\tableofcontents\n".toList) := by
    unfold header
    rw [if_pos rfl]
    simp only [List.append_assoc, List.append_nil]
  have hfooter (s : State) :
      partsText [.raw .comment [] (commentLines doc.sourceText), .read (endEnv "document")] =
        (footer doc.sourceText s).1 := by
    rw [partsText_cons, partsText_singleton]
    rfl
  calc partsText (documentParts showCode doc before)
      = header doc.shownTitle [] [] ++ renderItems backEnd doc.intro ++
          (if doc.contents = [] then [] else "\\tableofcontents\n".toList) ++
          (renderBody backEnd showCode doc.body before.resetCounter).1 ++
          (footer doc.sourceText
            (renderBody backEnd showCode doc.body before.resetCounter).2).1 := by
        rw [documentParts, partsText_append, partsText_append, partsText_cons, partsText_cons,
          text_itemsParts, text_bodyParts,
          hfooter (renderBody backEnd showCode doc.body before.resetCounter).2]
        simp only [Part.text, List.append_assoc]
    _ = (renderDocument backEnd showCode doc before).1 := by
        rw [← hheader]
        rfl

/-! ## Lines of the environments -/

theorem partsKeep_append : PartsKeep (parts ++ others) ↔ PartsKeep parts ∧ PartsKeep others := by
  simp only [PartsKeep, List.mem_append, or_imp, forall_and]

theorem partsKeep_cons_read {text : Chars} : PartsKeep (.read text :: parts) ↔ PartsKeep parts := by
  simp [PartsKeep]

/-- None of the lines ends the environment it stands with. -/
def LinesKeep (entries : List (RawEnvironment × Chars)) : Prop :=
  ∀ entry ∈ entries, entry.1.Keeps entry.2

theorem partsKeep_nil : PartsKeep [] ↔ LinesKeep [] :=
  iff_of_true (fun _ _ _ h => absurd h List.not_mem_nil) fun _ h => absurd h List.not_mem_nil

theorem partsKeep_raw {options : Chars} :
    PartsKeep [.raw e options lines] ↔ LinesKeep [(e, lines)] := by
  simp only [PartsKeep, LinesKeep, List.mem_singleton, Part.raw.injEq]
  constructor
  · rintro h _ rfl
    exact h e options lines ⟨rfl, rfl, rfl⟩
  · rintro h _ _ _ ⟨rfl, rfl, rfl⟩
    exact h _ rfl

theorem partsKeep_flatMap {α : Type} {f : α → List Part} {xs : List α} :
    PartsKeep (xs.flatMap f) ↔ ∀ x ∈ xs, PartsKeep (f x) := by
  induction xs with
  | nil => simp [PartsKeep]
  | cons x xs ih => rw [List.flatMap_cons, partsKeep_append, ih, List.forall_mem_cons]

theorem partsKeep_item (item : Item) : PartsKeep (itemParts item) ↔ LinesKeep (itemLines item) := by
  have hread (text : Chars) : PartsKeep [.read text] ↔ LinesKeep [] :=
    partsKeep_cons_read.trans partsKeep_nil
  cases item with
  | codeLiteral text => exact partsKeep_raw
  | preformatted text => exact partsKeep_raw
  | included path text =>
    cases text with
    | none => exact hread _
    | some text => exact partsKeep_raw
  | _ => exact hread _

theorem partsKeep_items (items : List Item) :
    PartsKeep (items.flatMap itemParts) ↔ LinesKeep (items.flatMap itemLines) := by
  rw [partsKeep_flatMap, LinesKeep, List.forall_mem_flatMap]
  exact forall₂_congr fun item _ => partsKeep_item item

theorem partsKeep_result (result : ExecutionResult) :
    PartsKeep (resultParts result) ↔ LinesKeep (resultLines result) := by
  have hgallery : PartsKeep (if result.graphics = [] then []
      else [.read (backEnd.gallery result.graphics)]) := by
    have hnone : PartsKeep [] := fun _ _ _ h => absurd h List.not_mem_nil
    split
    · exact hnone
    · exact partsKeep_cons_read.mpr hnone
  rw [resultParts, partsKeep_append, and_iff_left hgallery, resultLines]
  split
  · next hnone =>
    -- no output, no lines
    rw [hnone]
    exact iff_of_true (fun _ _ _ h => absurd h List.not_mem_nil) (by unfold LinesKeep; decide)
  · exact partsKeep_raw

theorem partsKeep_segment (segment : Segment) (s : State) :
    PartsKeep (segmentParts showCode segment s) ↔ LinesKeep (segmentLines showCode segment) := by
  cases segment with
  | code segment =>
    rw [segmentParts, segmentLines, partsKeep_append, LinesKeep, List.forall_mem_append]
    refine and_congr ?_ ?_
    · cases showCode with
      | false => exact partsKeep_nil
      | true => exact partsKeep_raw
    · cases segment.result with
      | none => exact partsKeep_nil
      | some result => exact partsKeep_result result
  | header segment => exact partsKeep_cons_read.trans (partsKeep_items segment.content)

theorem partsKeep_body (segments : List Segment) (s : State) :
    PartsKeep (bodyParts showCode segments s) ↔
      LinesKeep (segments.flatMap (segmentLines showCode)) := by
  induction segments generalizing s with
  | nil => exact partsKeep_nil
  | cons segment rest ih =>
    rw [bodyParts, partsKeep_append, partsKeep_segment, ih, List.flatMap_cons]
    exact List.forall_mem_append.symm

theorem keeps_append_line {a b : Chars} : e.Keeps (a ++ '\n' :: b) ↔ e.Keeps a ∧ e.Keeps b := by
  have hstart : ¬ e.endText <+: '\n' :: b := by
    intro hprefix
    have hfirst := List.cons_prefix_cons.mp (show '\\' :: _ <+: '\n' :: b from hprefix)
    exact absurd hfirst.1 (by decide)
  simp only [RawEnvironment.Keeps, Text.contains_eq_false_iff]
  rw [Text.find?_append_cons (not_mem_tail_endText e), Text.find?_cons_of_not_starts hstart]
  simp

/-- The marker lines around the script do not matter. -/
theorem keeps_commentLines {source : Chars} :
    RawEnvironment.comment.Keeps (commentLines source) ↔ RawEnvironment.comment.Keeps source := by
  have hbegin : RawEnvironment.comment.Keeps sourceBegin := by decide
  have hend : RawEnvironment.comment.Keeps sourceEnd := by decide
  have heq : commentLines source = sourceBegin ++ '\n' :: (source ++ '\n' :: sourceEnd) := by
    simp [commentLines]
  rw [heq, keeps_append_line, keeps_append_line, and_iff_right hbegin, and_iff_left hend]

/-! ## Main statement -/

theorem partsKeep_footer {source : Chars} :
    PartsKeep [.raw .comment [] (commentLines source), .read (endEnv "document")] ↔
      LinesKeep [(.comment, source)] := by
  have hcomment : PartsKeep [.raw .comment [] (commentLines source)] ↔
      RawEnvironment.comment.Keeps (commentLines source) :=
    partsKeep_raw.trans List.forall_mem_singleton
  have hsource : LinesKeep [(.comment, source)] ↔ RawEnvironment.comment.Keeps source :=
    List.forall_mem_singleton
  rw [← List.singleton_append, partsKeep_append, partsKeep_cons_read, hcomment, hsource,
    keeps_commentLines]
  exact and_iff_left fun _ _ _ h => absurd h List.not_mem_nil

theorem partsKeep_document (before : State) :
    PartsKeep (documentParts showCode doc before) ↔ KeepsLines showCode doc := by
  rw [documentParts, KeepsLines, documentLines, partsKeep_append, partsKeep_append,
    partsKeep_cons_read, partsKeep_cons_read, partsKeep_items, partsKeep_body, partsKeep_footer,
    List.forall_mem_append, List.forall_mem_append]
  rfl

/-- A report is made up of text that is read and of environments that are not. Each of these ends
    where the report ends it exactly if its lines do not end it; all of them do exactly if that
    holds of the lines of the document. -/
theorem environments_end_iff (showCode : Bool) (doc : Document) (before : State) :
    partsText (documentParts showCode doc before) =
        (renderDocument backEnd showCode doc before).1 ∧
      (∀ front e options lines back,
        documentParts showCode doc before = front ++ .raw e options lines :: back →
          (e.EndsItself lines (partsText back) ↔ e.Keeps lines)) ∧
      (EndThemselves (documentParts showCode doc before) ↔ KeepsLines showCode doc) :=
  ⟨text_documentParts showCode doc before, fun _ _ _ _ _ _ => endsItself_iff,
    endThemselves_iff.trans (partsKeep_document before)⟩

/-- A script that says in its text, in its code and so in the comment how environments end. -/
def endingScript : List Chars :=
  ["%% T", "%", "%  \\end\x7bverbatim\x7d", "",
    "x = '\\end\x7blstlisting\x7d \\end\x7bcomment\x7d';"]

/-- The document of the script. -/
def endingDocument : Document := (Script.read ["%", "#"] [] endingScript).1

/-- Each kind of environment is ended by what the script says. -/
theorem environments_ended_early :
    EndsEarly .listing (documentParts true endingDocument {}) ∧
      EndsEarly .verbatim (documentParts true endingDocument {}) ∧
      EndsEarly .comment (documentParts true endingDocument {}) := by
  refine ⟨?listing, ?verbatim, ?comment⟩
  case listing =>
    have hmem : .raw .listing "[style=source]"
        "x = '\\end\x7blstlisting\x7d \\end\x7bcomment\x7d';" ∈
          documentParts true endingDocument {} := by decide +kernel
    exact endsEarly_of_mem hmem (by decide +kernel)
  case verbatim =>
    have hmem : .raw .verbatim [] "\\end\x7bverbatim\x7d" ∈
        documentParts true endingDocument {} := by decide +kernel
    exact endsEarly_of_mem hmem (by decide +kernel)
  case comment =>
    have hmem : .raw .comment [] (commentLines (Text.unlines endingScript)) ∈
        documentParts true endingDocument {} := by decide +kernel
    exact endsEarly_of_mem hmem (by decide +kernel)

end ScriptReport.Report.Latex

/-
  ScriptReport.Proofs.Report.Insertion

  What results of evaluation add to a report. The fragment of a segment ends with its result, and
  nothing else in a report looks at results: neither headings nor contents nor the containers of
  sections. Main statement: the report of a document is the one of the document without results,
  with the output of each segment of code inserted behind its fragment (`report_eq_reportWith`).
-/

import ScriptReport.Proofs.Report.Numbering
import ScriptReport.Proofs.Script.AsRead

namespace ScriptReport.Report

open ScriptReport.Script

variable {format : Format} {showCode : Bool} {inserted : Nat → Chars}

/-! ## Reports with output inserted -/

/-- The fragment of a place, with the text for its position behind it if it is code. -/
def Place.fragmentWith (format : Format) (showCode : Bool) (inserted : Nat → Chars)
    (place : Place) : Chars :=
  place.fragment format showCode ++
    match place.segment with
    | .code _ => inserted place.before.length
    | .header _ => []

/-- The report of a document with a text inserted behind each segment of code. -/
def reportWith (format : Format) (showCode : Bool) (doc : Document) (inserted : Nat → Chars) :
    Chars :=
  front format doc ++ contentsText format (headings doc) ++
    (places [] doc.body).flatMap (·.fragmentWith format showCode inserted) ++ back format doc

/-! ## Results and headings -/

@[simp] theorem isTitled_bare (segment : Segment) : isTitled segment.bare = isTitled segment := by
  cases segment <;> rfl

@[simp] theorem startsSection_bare (segment : Segment) :
    startsSection segment.bare = startsSection segment := by
  cases segment <;> rfl

@[simp] theorem entryOf?_bare (segment : Segment) : entryOf? segment.bare = entryOf? segment := by
  cases segment <;> rfl

@[simp] theorem countP_isTitled_bare (segments : List Segment) :
    (segments.map Segment.bare).countP isTitled = segments.countP isTitled := by
  rw [List.countP_map]
  exact List.countP_congr fun segment _ => by rw [Function.comp_apply, isTitled_bare]

@[simp] theorem any_startsSection_bare (segments : List Segment) :
    (segments.map Segment.bare).any startsSection = segments.any startsSection := by
  rw [List.any_map]
  exact congrArg segments.any (funext startsSection_bare)

theorem headings_bare (doc : Document) : headings doc.bare = headings doc := by
  rw [headings, headings, contents_eq, contents_eq, Document.bare, List.filterMap_map]
  exact congrArg (fun f => numbered 1 (doc.body.filterMap f)) (funext entryOf?_bare)

theorem back_bare (doc : Document) : back format doc.bare = back format doc := by
  rw [back, back, Document.bare, countP_isTitled_bare, any_startsSection_bare]
  rfl

/-! ## Results and fragments -/

/-- The place as it is before the code is run. -/
def Place.bare (place : Place) : Place := ⟨place.before.map Segment.bare, place.segment.bare⟩

/-- What the result of a segment adds to its fragment. -/
def outputOf (format : Format) : Segment → Chars
  | .code c => c.result.elim [] (renderResult (backEnd format))
  | .header _ => []

theorem places_bare (before rest : List Segment) :
    places (before.map Segment.bare) (rest.map Segment.bare) =
      (places before rest).map Place.bare := by
  induction rest generalizing before with
  | nil => rfl
  | cons segment rest ih =>
    have hrest := ih (before ++ [segment])
    rw [List.map_append] at hrest
    exact congrArg (Place.bare ⟨before, segment⟩ :: ·) hrest

/-- A place knows where it is. -/
theorem getElem?_of_mem_places {before rest : List Segment} {place : Place}
    (h : place ∈ places before rest) :
    (before ++ rest)[place.before.length]? = some place.segment := by
  induction rest generalizing before with
  | nil => cases h
  | cons segment rest ih =>
    rcases List.mem_cons.mp h with rfl | hrest
    · rw [List.getElem?_append_right (Nat.le_refl _), Nat.sub_self, List.getElem?_cons_zero]
    · rw [List.append_cons]
      exact ih hrest

/-- The fragment of a place ends with the result; before that, results do not matter. -/
theorem fragment_eq_append (format : Format) (showCode : Bool) (place : Place) :
    place.fragment format showCode =
      place.bare.fragment format showCode ++ outputOf format place.segment := by
  obtain ⟨before, segment⟩ := place
  cases segment with
  | code c =>
    have hbare : renderCode (backEnd format) showCode { c with result := none } =
        if showCode then (backEnd format).code c.code else [] := List.append_nil _
    have hshown : renderCode (backEnd format) showCode c =
        (if showCode then (backEnd format).code c.code else []) ++ outputOf format (.code c) := by
      rw [renderCode, outputOf]
      cases c.result <;> rfl
    simp only [Place.fragment, Place.bare, Segment.bare]
    rw [hbare, hshown]
  | header h =>
    have hopening : opening format (before.map Segment.bare) h = opening format before h := by
      cases format with
      | html => simp only [opening, any_startsSection_bare]
      | latex => rfl
    have hheading : Place.heading? (Place.bare ⟨before, .header h⟩) =
        Place.heading? ⟨before, .header h⟩ := by
      simp only [Place.heading?, Place.bare, Segment.bare, countP_isTitled_bare]
    rw [outputOf, List.append_nil, Place.fragment, Place.fragment, hheading]
    simp only [Place.bare, Segment.bare, hopening]

/-- A report in which the texts inserted are the output of the segments. -/
theorem report_eq_reportWith {doc : Document}
    (h : ∀ i c, doc.body[i]? = some (.code c) → inserted i = outputOf format (.code c)) :
    report format showCode doc = reportWith format showCode doc.bare inserted := by
  have hplaces : places [] doc.bare.body = (places [] doc.body).map Place.bare :=
    places_bare [] doc.body
  have hbody : (places [] doc.bare.body).flatMap (·.fragmentWith format showCode inserted) =
      (places [] doc.body).flatMap (·.fragment format showCode) := by
    rw [hplaces, List.flatMap_map]
    refine List.flatMap_congr fun place hplace => ?_
    have hat := getElem?_of_mem_places hplace
    rw [List.nil_append] at hat
    rw [fragment_eq_append, Place.fragmentWith, Place.bare, List.length_map]
    obtain ⟨before, segment⟩ := place
    cases segment with
    | code c => exact congrArg _ (h before.length c hat)
    | header h => rfl
  have hfront : front format doc.bare = front format doc := rfl
  rw [report, (isNumbered_renderDocument format showCode doc {}).page, reportWith, hbody,
    headings_bare, back_bare, hfront]

end ScriptReport.Report

/-
  ScriptReport.Proofs.Viewer.ShownScript

  A script as the viewer shows it, and the HTML report of the same script. The viewer puts a body
  together from fragments by itself; the report has them between a header and a footer. Here both
  are read as a head (the title heading and the introduction) and sections, each of which is in a
  container that is closed again (`flatMap_fragment`). Main statement: `showScript_eq_ok_iff`, by
  which the viewer shows the report that is made without running code and without included files,
  from its `<h1>` to the line feed before its footer, and without the contents.
-/

import ScriptReport.Proofs.Publish.RoundTrip
import ScriptReport.Proofs.Report.HtmlPage
import ScriptReport.Proofs.Report.Numbering
import ScriptReport.Proofs.Viewer.Confinement
import ScriptReport.Viewer.Page

namespace ScriptReport.Report.Html

open ScriptReport.Html (Passage escape escapeMarkup isPlain_escape isPlain_escapeMarkup)
open ScriptReport.Script

/-! ## Sections -/

/-- The fragment of a place without the containers that a header opens and closes. -/
def inside (showCode : Bool) (place : Report.Place) : Chars :=
  match place.segment with
  | .code c => renderCode backEnd showCode c
  | .header h =>
    (place.heading?.elim [] fun heading => heading.text .html) ++ renderItems backEnd h.content

/-- The fragments of places in groups: those before the first section, and those of each section. -/
def grouped (showCode : Bool) : List Report.Place → Chars × List Chars
  | [] => ([], [])
  | place :: rest =>
    let (free, sections) := grouped showCode rest
    if startsSection place.segment then ([], (inside showCode place ++ free) :: sections)
    else (inside showCode place ++ free, sections)

theorem grouped_cons (showCode : Bool) (place : Report.Place) (rest : List Report.Place) :
    grouped showCode (place :: rest) =
      if startsSection place.segment then
        ([], (inside showCode place ++ (grouped showCode rest).1) :: (grouped showCode rest).2)
      else (inside showCode place ++ (grouped showCode rest).1, (grouped showCode rest).2) := rfl

/-- A section in its container. -/
def container (fragments : Chars) : Chars :=
  "<div class=\"section\">\n" ++ fragments ++ "</div>\n"

/-- What closes the container that is open behind segments, if one of them has opened one. -/
def closing (before : List Segment) : Chars :=
  if before.any startsSection then "</div>\n" else []

theorem fragment_eq (showCode : Bool) (before : List Segment) (segment : Segment) :
    Place.fragment .html showCode ⟨before, segment⟩ =
      if startsSection segment then
        closing before ++ "<div class=\"section\">\n" ++ inside showCode ⟨before, segment⟩
      else inside showCode ⟨before, segment⟩ := by
  cases segment with
  | code c => rfl
  | header h =>
    have hfragment : Place.fragment .html showCode ⟨before, .header h⟩ =
        (if h.breaksSection then closing before ++ "<div class=\"section\">\n" else []) ++
          (Place.heading? ⟨before, .header h⟩).elim [] (fun heading => heading.text .html) ++
            renderItems backEnd h.content := rfl
    have hinside : inside showCode ⟨before, .header h⟩ =
        (Place.heading? ⟨before, .header h⟩).elim [] (fun heading => heading.text .html) ++
          renderItems backEnd h.content := rfl
    have hstarts : startsSection (.header h) = h.breaksSection := rfl
    rw [hfragment, hstarts, hinside]
    cases h.breaksSection with
    | true => exact List.append_assoc _ _ _
    | false => rfl

theorem closing_append (before : List Segment) (segment : Segment) :
    closing (before ++ [segment]) =
      if startsSection segment then "</div>\n".toList else closing before := by
  have hany : (before ++ [segment]).any startsSection =
      (before.any startsSection || startsSection segment) := by
    rw [List.any_append, List.any_cons, List.any_nil, Bool.or_false]
  unfold closing
  rw [hany]
  cases startsSection segment with
  | true => rw [Bool.or_true]; rfl
  | false => rw [Bool.or_false]; rfl

/-- A container is open exactly from one header that starts a section to the next one, so that each
    section stands in a container of its own. -/
theorem flatMap_fragment (showCode : Bool) (before rest : List Segment) :
    (places before rest).flatMap (·.fragment .html showCode) ++ closing (before ++ rest) =
      (grouped showCode (places before rest)).1 ++ closing before ++
        Text.concatMap container (grouped showCode (places before rest)).2 := by
  induction rest generalizing before with
  | nil => simp [places, grouped, Text.concatMap]
  | cons segment rest ih =>
    have hrest := ih (before ++ [segment])
    rw [List.append_assoc, List.singleton_append] at hrest
    rw [places, List.flatMap_cons, List.append_assoc, hrest, fragment_eq, closing_append,
      grouped_cons]
    by_cases hstarts : startsSection segment = true
    · unfold container
      rw [if_pos hstarts, if_pos hstarts, if_pos hstarts, Text.concatMap, Text.concatMap,
        List.map_cons, List.flatten_cons]
      simp only [List.append_assoc, List.nil_append]
    · rw [if_neg hstarts, if_neg hstarts, if_neg hstarts]
      simp only [List.append_assoc]

/-- There is a container for each header that starts a section. -/
theorem length_grouped (showCode : Bool) (before rest : List Segment) :
    (grouped showCode (places before rest)).2.length = rest.countP startsSection := by
  induction rest generalizing before with
  | nil => rfl
  | cons segment rest ih =>
    rw [places, grouped, List.countP_cons, ← ih (before ++ [segment])]
    cases startsSection segment <;> simp

/-! ## The body of a document -/

/-- The title heading and the introduction. -/
def headPart (doc : Document) : Chars :=
  titleHeading doc.shownTitle ++ renderItems backEnd doc.intro

/-- What comes before the first section, then each section in a container. -/
def sectionsPart (showCode : Bool) (doc : Document) : Chars :=
  (grouped showCode (places [] doc.body)).1 ++
    Text.concatMap container (grouped showCode (places [] doc.body)).2

/-- The segments of a document, rendered from the beginning, with the last container closed. -/
theorem renderBody_close (showCode : Bool) (doc : Document) :
    (renderBody backEnd showCode doc.body {}).1 ++
        (closeSection (renderBody backEnd showCode doc.body {}).2).1 =
      sectionsPart showCode doc := by
  have hstart : At .html [] ({} : State) := ⟨rfl, fun _ => rfl⟩
  obtain ⟨htext, hend⟩ := renderBody_at showCode doc.body hstart
  have hclose : (closeSection (renderBody backEnd showCode doc.body {}).2).1 =
      closing doc.body := by
    have hinside : (renderBody backEnd showCode doc.body {}).2.insideSection =
        doc.body.any startsSection := hend.inside rfl
    unfold closeSection closing
    rw [hinside]
    cases doc.body.any startsSection <;> rfl
  have hsections := flatMap_fragment showCode [] doc.body
  have hnone : closing [] = [] := rfl
  rw [List.nil_append, hnone, List.append_nil] at hsections
  rw [hclose, show (renderBody backEnd showCode doc.body {}).1 = _ from htext, hsections,
    sectionsPart]

/-! ## Where the title heading and the footer stand -/

/-- A report from the first `<h1>` to the line feed before the last `<footer>`. -/
def shownPart (page : Chars) : Option Chars := do
  let start ← Text.find? "<h1>" page
  let stop ← Text.findLast? "\n<footer>" page
  return (page.take stop).drop start

section Tags

variable {name text rest : Chars} {c : Char}

/-- An element does not begin where another one does, nor in text without angle brackets. -/
theorem find?_tag (hname : name.head? ≠ some c) (hne : name ≠ []) (hc : c ≠ '<')
    (htext : '<' ∉ text) (hrest : Text.find? ('<' :: name) rest = none) :
    Text.find? ('<' :: name) ('<' :: (c :: text ++ rest)) = none := by
  have hmem : '<' ∉ c :: text := by
    rw [List.mem_cons, not_or]
    exact ⟨Ne.symm hc, htext⟩
  have hprefix : ¬ ('<' :: name).isPrefixOf ('<' :: (c :: text ++ rest)) = true := by
    obtain ⟨x, name, rfl⟩ := List.exists_cons_of_ne_nil hne
    have hx : x ≠ c := by simpa using hname
    simp [List.isPrefixOf, hx]
  rw [Text.find?, if_neg hprefix, Text.find?_append_of_not_mem hmem, hrest]
  rfl

/-- The same behind a text where the element does not begin. -/
theorem find?_append_tag {front : Chars} (hfront : Text.find? ('<' :: name) front = none)
    (hbracket : '<' ∉ name) (hname : name.head? ≠ some c) (hne : name ≠ []) (hc : c ≠ '<')
    (htext : '<' ∉ text) (hrest : Text.find? ('<' :: name) rest = none) :
    Text.find? ('<' :: name) (front ++ '<' :: (c :: text ++ rest)) = none := by
  have htail : '<' ∉ ('<' :: name).tail := hbracket
  rw [Text.find?_append_cons htail, hfront, find?_tag hname hne hc htext hrest]
  rfl

end Tags

theorem find?_h1_prolog (title : Chars) : Text.find? "<h1>" (prolog title) = none := by
  have hprolog : prolog title =
      ("<!DOCTYPE html>\n<html>\n<head>\n<meta charset=\"UTF-8\">\n<meta name=\"generator\" content=\"" ++
        generator ++ "\">\n") ++
      '<' :: ('t' :: ("itle>" ++ escape title) ++
        ("</title>\n<script type=\"text/javascript\" async src=\"" ++ mathScript ++
          "\"></script>\n</head>\n<body>\n")) := by
    have htitle : ("\">\n<title>" : Chars) = "\">\n" ++ '<' :: 't' :: "itle>".toList := rfl
    unfold prolog
    rw [htitle]
    simp only [List.append_assoc, List.cons_append]
  have hescape : '<' ∉ ("itle>" : Chars) ++ escape title := by
    rw [List.mem_append, not_or]
    exact ⟨by decide, (isPlain_escape title).1⟩
  rw [hprolog]
  exact find?_append_tag (by decide +kernel) (by decide) (by decide) (by decide) (by decide)
    hescape (by decide +kernel)

/-- What a report ends with, behind its last section. -/
def footerTail (source : Chars) : Chars :=
  "\n<footer>Published with " ++ generator ++ "</footer>\n" ++ sourceComment source ++
    "</body>\n</html>\n"

/-- No footer begins behind the one of the report: the script is kept without angle brackets. -/
theorem findLast?_footerTail (source : Chars) :
    Text.findLast? "\n<footer>" (footerTail source) = some 0 := by
  obtain ⟨rest, htail, hname, hrest⟩ : ∃ rest, footerTail source = '\n' :: '<' :: rest ∧
      "footer>".toList <+: rest ∧ Text.find? "<footer>" rest = none := by
    refine ⟨"footer>Published with " ++ generator ++ "</footer>\n" ++
      '<' :: ('!' :: ("--\n" ++ sourceBegin ++ "\n" ++ escapeMarkup source) ++
        ("\n" ++ sourceEnd ++ "\n-->\n</body>\n</html>\n")), ?_, ?_, ?_⟩
    · have hfooter : ("\n<footer>Published with " : Chars) =
          '\n' :: '<' :: "footer>Published with ".toList := rfl
      have hcomment : ("<!--\n" : Chars) = '<' :: '!' :: "--\n".toList := rfl
      have hend : ("\n-->\n</body>\n</html>\n" : Chars) = "\n-->\n" ++ "</body>\n</html>\n" := rfl
      unfold footerTail sourceComment
      rw [hfooter, hcomment, hend]
      simp only [List.append_assoc, List.cons_append]
    · exact ⟨_, rfl⟩
    · have hsource : '<' ∉ ("--\n" : Chars) ++ sourceBegin ++ "\n" ++ escapeMarkup source := by
        rw [List.mem_append, not_or]
        exact ⟨by decide, (isPlain_escapeMarkup source).1⟩
      exact find?_append_tag (by decide) (by decide) (by decide) (by decide) (by decide) hsource
        (by decide +kernel)
  have hlast : Text.findLast? "\n<footer>" rest = none := by
    have hfooter : Text.contains "<footer>" rest = false := by rw [Text.contains, hrest]; rfl
    have hcontains : Text.contains "\n<footer>" rest = false :=
      Text.contains_eq_false_of_infix hfooter ⟨"\n", [], rfl⟩
    exact Text.findLast?_eq_none (Text.contains_eq_false_iff.mp hcontains)
  have hpattern : ("\n<footer>" : Chars) = '\n' :: '<' :: "footer>".toList := rfl
  have hlater : ¬ ("\n<footer>" : Chars).isPrefixOf ('<' :: rest) = true := by
    rw [hpattern, List.isPrefixOf_iff_prefix, List.cons_prefix_cons]
    exact fun h => absurd h.1 (by decide)
  have hhere : ("\n<footer>" : Chars).isPrefixOf ('\n' :: '<' :: rest) = true := by
    rw [hpattern, List.isPrefixOf_iff_prefix, List.cons_prefix_cons, List.cons_prefix_cons]
    exact ⟨rfl, rfl, hname⟩
  rw [htail, Text.findLast?, Text.findLast?, hlast]
  simp only [if_neg hlater, if_pos hhere]

/-! ## The body of a report -/

theorem page_eq (showCode : Bool) (doc : Document) (before : State) :
    (renderDocument backEnd showCode doc before).1 =
      prolog doc.shownTitle ++
        ((headPart doc ++ contentsBlock doc.contents ++ sectionsPart showCode doc) ++
          footerTail doc.sourceText) := by
  have hfooter : (footer doc.sourceText (renderBody backEnd showCode doc.body {}).2).1 =
      (closeSection (renderBody backEnd showCode doc.body {}).2).1 ++ footerTail doc.sourceText := by
    unfold footer footerTail
    simp only [List.append_assoc]
  rw [renderDocument_eq, hfooter, ← renderBody_close, headPart]
  simp only [List.append_assoc]

/-- Between the lines that only a report has stand the head, the contents and the sections. -/
theorem shownPart_page (showCode : Bool) (doc : Document) (before : State) :
    shownPart (renderDocument backEnd showCode doc before).1 =
      some (headPart doc ++ contentsBlock doc.contents ++ sectionsPart showCode doc) := by
  rw [page_eq]
  generalize hmiddle :
    headPart doc ++ contentsBlock doc.contents ++ sectionsPart showCode doc = middle
  have hstart : Text.find? "<h1>"
      (prolog doc.shownTitle ++ (middle ++ footerTail doc.sourceText)) =
        some (prolog doc.shownTitle).length := by
    obtain ⟨rest, hrest⟩ : ∃ rest, middle ++ footerTail doc.sourceText = "<h1>" ++ rest := by
      rw [← hmiddle]
      unfold headPart titleHeading
      simp only [List.append_assoc]
      exact ⟨_, rfl⟩
    have hfound : Text.find? ('<' :: "h1>".toList)
        (prolog doc.shownTitle ++ ('<' :: "h1>".toList ++ rest)) =
          (Text.find? ('<' :: "h1>".toList) (prolog doc.shownTitle)).or
            (some (prolog doc.shownTitle).length) :=
      Text.find?_append_self (by decide)
    rw [hrest]
    exact hfound.trans (by rw [show Text.find? ('<' :: "h1>".toList) _ = none from
      find?_h1_prolog doc.shownTitle, Option.none_or])
  have hstop : Text.findLast? "\n<footer>"
      (prolog doc.shownTitle ++ (middle ++ footerTail doc.sourceText)) =
        some (prolog doc.shownTitle ++ middle).length := by
    rw [← List.append_assoc]
    exact Text.findLast?_append (findLast?_footerTail doc.sourceText) _
  have hcut : ((prolog doc.shownTitle ++ middle ++ footerTail doc.sourceText).take
      (prolog doc.shownTitle ++ middle).length).drop (prolog doc.shownTitle).length = middle := by
    rw [List.take_left, List.drop_left]
  rw [shownPart, hstart, hstop, ← List.append_assoc]
  simp only [Option.bind_eq_bind, Option.bind_some, hcut]
  rfl

end ScriptReport.Report.Html

namespace ScriptReport.Viewer

open ScriptReport.Report (State renderDocument renderItems startsSection places)
open ScriptReport.Report.Html (HasNoRaw closeTags bodyTags contentsBlock grouped headPart
  openContainers passage_body passage_close passage_items passage_titleHeading sectionsPart
  shownPart)
open ScriptReport.Html (Passage)
open ScriptReport.Script

/-! ## The body that is shown -/

/-- What a body has of a report of a document. -/
structure IsBodyOf (showCode : Bool) (doc : Document) (page body : Chars) : Prop where
  /-- From its `<h1>` to the line feed before the footer, the report has the head and the sections,
      with the contents between them. -/
  part : shownPart page =
    some (headPart doc ++ contentsBlock doc.contents ++ sectionsPart showCode doc)
  /-- The body has just the head and the sections. -/
  body_eq : body = headPart doc ++ sectionsPart showCode doc
  /-- There is a container for each header that starts a section. -/
  containers : (grouped showCode (places [] doc.body)).2.length = doc.body.countP startsSection
  /-- Without raw HTML every element that the body opens is closed in it. -/
  closed : HasNoRaw doc → ∃ ms, Passage [] body ms []

theorem documentBody_eq (showCode : Bool) (doc : Document) :
    documentBody showCode doc = headPart doc ++ sectionsPart showCode doc := by
  rw [← Report.Html.renderBody_close, documentBody, headPart]
  simp only [List.append_assoc]

theorem passage_documentBody {doc : Document} (hraw : HasNoRaw doc) (showCode : Bool) :
    ∃ ms, Passage [] (documentBody showCode doc) ms [] := by
  have htitle : Passage [] _ _ [] := passage_titleHeading doc.shownTitle
  have hhead := htitle.append (passage_items hraw.1)
  have hbody : Passage [] _ (bodyTags showCode doc.body {}) _ := passage_body hraw.2 showCode {}
  exact ⟨_, (hhead.append hbody).append (passage_close _)⟩

theorem isBodyOf_documentBody (showCode : Bool) (doc : Document) (before : State) :
    IsBodyOf showCode doc (renderDocument Report.Html.backEnd showCode doc before).1
      (documentBody showCode doc) where
  part := Report.Html.shownPart_page showCode doc before
  body_eq := documentBody_eq showCode doc
  containers := Report.Html.length_grouped showCode [] doc.body
  closed := fun hraw => passage_documentBody hraw showCode

/-! ## Options -/

/-- The options of a configuration, for an HTML report whose code is not run. -/
def shownOptions (config : Config) : Options :=
  { Options.ofConfig config with format := Format.html.name, evalCode := false }

theorem fromConfig_eq_ok_iff {config : Config} {o : Options} :
    Options.fromConfig config
        [⟨"format", .text Format.html.name⟩, ⟨"eval_code", .flag false⟩] = .ok o ↔
      (shownOptions config).isValid = true ∧ o = shownOptions config := by
  have hdraft : (Options.Draft.ofOptions (Options.ofConfig config)).overrideAll
      [⟨"format", .text Format.html.name⟩, ⟨"eval_code", .flag false⟩] =
        .ok (Options.Draft.ofOptions (shownOptions config)) := rfl
  rw [Options.fromConfig, hdraft]
  by_cases hvalid : (shownOptions config).isValid = true
  · have hcheck := Options.check_of_isValid hvalid
    simp only [bind, Except.bind, hcheck, Options.Draft.toOptions_ofOptions]
    exact ⟨fun h => ⟨hvalid, (pure_eq_ok_iff.mp h).symm⟩, fun h => pure_eq_ok_iff.mpr h.2.symm⟩
  · have hcheck : (Options.Draft.ofOptions (shownOptions config)).check = .error .badLimit := by
      have hformat : Format.ofName? (shownOptions config).format = some .html :=
        Format.ofName?_name .html
      have hlimit : isLimit (.ofInt? (shownOptions config).maxOutputLines) = false := by
        rw [Options.isValid, hformat, Option.isSome_some, Bool.true_and] at hvalid
        exact Bool.eq_false_iff.mpr hvalid
      simp [Options.Draft.check, Options.Draft.ofOptions, Datum.text?, hformat, hlimit]
    constructor
    · intro h
      simp only [bind, Except.bind, hcheck] at h
      cases h
    · intro h
      exact absurd h.1 hvalid

/-! ## Main statement -/

variable {σ κ : Type}

/-- Without running code and without included files, the report is that of the document as it is
    read. -/
theorem publishText_shownOptions {config : Config} {sourceName : Chars} {lines : List Chars}
    {doc : Document} {warnings : List Warning} (e : Evaluation.Evaluator σ κ) (s : σ)
    (before : State) (hdoc : Publish.documentOf config.comments sourceName lines = .ok (doc, warnings)) :
    Publish.publishText config.comments (shownOptions config) sourceName none e lines s =
      ⟨warnings, .ok (renderDocument Report.Html.backEnd config.showCode doc before).1, s⟩ := by
  have hprepare : Publish.prepare config.comments sourceName none lines = (doc, warnings, none) := by
    rw [Publish.prepare, hdoc]
  have hreport : (renderDocument Report.Html.backEnd config.showCode doc before).1 =
      Report.report .html config.showCode doc :=
    Report.renderDocument_fst .html config.showCode doc before
  have hformat : (shownOptions config).format = Format.html.name := rfl
  rw [hreport]
  exact Publish.publishText_of_prepare hprepare rfl hformat

/-- The viewer shows a script exactly if it can be read and the options of the configuration are
    valid. It shows the report of the script that a renderer in any state makes without running its
    code and without included files, from its `<h1>` to its footer, but for the contents. -/
theorem showScript_eq_ok_iff {config : Config} {disk : Disk} {path : Path} {warnings : List Warning}
    {shown : Shown} (e : Evaluation.Evaluator σ κ) (s : σ) (before : State) :
    showScript config disk path = (warnings, .ok shown) ↔
      (shownOptions config).isValid = true ∧
        ∃ lines doc page, Publish.readScriptLines disk path = .ok lines ∧
          Publish.documentOf config.comments path.name lines = .ok (doc, warnings) ∧
          page = (renderDocument Report.Html.backEnd config.showCode doc before).1 ∧
          Publish.publishText config.comments (shownOptions config) path.name none e lines s =
            ⟨warnings, .ok page, s⟩ ∧
          shown.title = doc.shownTitle ∧ IsBodyOf config.showCode doc page shown.body := by
  constructor
  · intro h
    unfold showScript at h
    split at h
    · cases h
    · next doc found hdoc =>
      obtain ⟨lines, hlines, hdoc⟩ := bind_eq_ok_iff.mp hdoc
      split at h
      · cases h
      · next o ho =>
        obtain ⟨hvalid, rfl⟩ := fromConfig_eq_ok_iff.mp ho
        cases h
        exact ⟨hvalid, lines, doc, _, hlines, hdoc, rfl, publishText_shownOptions e s before hdoc,
          rfl, isBodyOf_documentBody config.showCode doc before⟩
  · rintro ⟨hvalid, lines, doc, page, hlines, hdoc, -, -, htitle, hbody⟩
    have hread : (Publish.readScriptLines disk path >>=
        Publish.documentOf config.comments path.name) = .ok (doc, warnings) :=
      bind_eq_ok_iff.mpr ⟨lines, hlines, hdoc⟩
    have ho := fromConfig_eq_ok_iff.mpr ⟨hvalid, rfl⟩
    have hshown : shown = ⟨doc.shownTitle, documentBody config.showCode doc⟩ := by
      obtain ⟨title, body⟩ := shown
      rw [Shown.mk.injEq]
      exact ⟨htitle, hbody.body_eq.trans (documentBody_eq config.showCode doc).symm⟩
    unfold showScript
    rw [hread]
    simp only [ho, hshown]
    rfl

end ScriptReport.Viewer

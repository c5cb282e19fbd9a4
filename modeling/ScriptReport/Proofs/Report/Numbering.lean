/-
  ScriptReport.Proofs.Report.Numbering

  The numbers of headings. The contents are numbered before the body is rendered, from the titles
  of the document; the anchors come from a counter that the headings advance on their way. Here a
  heading has its number from the titled headers before it (`heading?`), and a report is put
  together from fragments that depend on nothing else. What one segment does to the counter and to
  the open container is `renderSegment_at`, a whole body is `renderBody_at`. Main statement: in
  either format, and in whatever state the renderer is, the report is the one of a fresh renderer,
  and its headings carry the numbers of the contents (`renderDocument_isNumbered`).
-/

import ScriptReport.Report.Render
import Mathlib.Data.List.Basic
import Mathlib.Tactic.SplitIfs

namespace ScriptReport.Report

open ScriptReport.Script

/-! ## Headings -/

/-- A heading of a report: the number of its anchor, its title, and whether it starts a section. -/
structure Heading where
  anchor : Nat
  title : Chars
  breaksSection : Bool
  deriving DecidableEq, Repr

/-- The segment is a header with a title. -/
def isTitled : Segment → Bool
  | .header h => h.title ≠ []
  | .code _ => false

/-- The segment is a header that starts a section. -/
def startsSection : Segment → Bool
  | .header h => h.breaksSection
  | .code _ => false

/-- The entries of contents as headings, the first with the given anchor. -/
def numbered (first : Nat) (entries : List (Chars × Bool)) : List Heading :=
  (entries.zipIdx first).map fun (entry, anchor) => ⟨anchor, entry.1, entry.2⟩

/-- The headings of a document: its titled headers in order, numbered from one. -/
def headings (doc : Document) : List Heading := numbered 1 doc.contents

/-- A segment and the segments before it. -/
structure Place where
  before : List Segment
  segment : Segment
  deriving DecidableEq, Repr

/-- The places of segments that come behind the segments `before`. -/
def places (before : List Segment) : List Segment → List Place
  | [] => []
  | segment :: rest => ⟨before, segment⟩ :: places (before ++ [segment]) rest

/-- The heading of a place: code and untitled headers have none, and a titled header has the number
    that follows the titled headers before it. -/
def Place.heading? (place : Place) : Option Heading :=
  match place.segment with
  | .header h =>
    if h.title = [] then none
    else some ⟨place.before.countP isTitled + 1, h.title, h.breaksSection⟩
  | .code _ => none

/-! ## Fragments -/

/-- The text of a heading: its title, at an anchor or with a label that has its number. -/
def Heading.text : Format → Heading → Chars
  | .html, heading =>
    let element : Chars := if heading.breaksSection then "h2" else "h3"
    "<" ++ element ++ "><a name=\"node" ++ Text.ofNat heading.anchor ++ "\">" ++
      ScriptReport.Html.escape heading.title ++ "</a></" ++ element ++ ">\n"
  | .latex, heading =>
    let title := Latex.escape heading.title
    let mark := Latex.commandLine "label" ("node" ++ Text.ofNat heading.anchor)
    if heading.breaksSection then Latex.command "section" title ++ mark
    else
      Latex.command "subsection*" title ++ mark ++ Latex.command "addcontentsline" "toc" ++
        Latex.group "subsection" ++ Latex.group title ++ "\n"

/-- The entry of a heading in the contents of an HTML report. -/
def Heading.entry (heading : Heading) : Chars :=
  "<li" ++ (if heading.breaksSection then [] else " class=\"no-break\"".toList) ++
    "><a href=\"#node" ++ Text.ofNat heading.anchor ++ "\">" ++
    ScriptReport.Html.escape heading.title ++ "</a></li>\n"

/-- The contents of a report; LaTeX collects the entries by itself. -/
def contentsText : Format → List Heading → Chars
  | _, [] => []
  | .html, headings =>
    "<h2>Contents</h2>\n<ul>\n" ++ Text.concatMap Heading.entry headings ++ "</ul>\n"
  | .latex, _ => "\\tableofcontents\n"

/-- What a header puts before its heading: in HTML the container of a new section, after the end of
    the one before; in LaTeX the space that stands for an untitled section. -/
def opening : Format → List Segment → HeaderSegment → Chars
  | .html, before, h =>
    if h.breaksSection then
      (if before.any startsSection then "</div>\n".toList else []) ++ "<div class=\"section\">\n"
    else []
  | .latex, _, h => if h.breaksSection && h.title = [] then "\\bigskip\n" else []

/-- The fragment of a place. -/
def Place.fragment (format : Format) (showCode : Bool) (place : Place) : Chars :=
  match place.segment with
  | .code c => renderCode (backEnd format) showCode c
  | .header h =>
    opening format place.before h ++ (place.heading?.elim [] fun heading => heading.text format) ++
      renderItems (backEnd format) h.content

/-- A report up to its contents. -/
def front (format : Format) (doc : Document) : Chars :=
  ((backEnd format).header doc.shownTitle (renderItems (backEnd format) doc.intro) [] {}).1

/-- A report from its body on. -/
def back (format : Format) (doc : Document) : Chars :=
  ((backEnd format).footer doc.sourceText
    ⟨doc.body.countP isTitled + 1, doc.body.any startsSection⟩).1

/-- A report and the state after it, with headings numbered as the contents are. -/
structure IsNumbered (format : Format) (showCode : Bool) (doc : Document)
    (result : Chars × State) : Prop where
  /-- The report, fragment by fragment: the contents have the headings of the document, and each
      segment has its own heading or none. -/
  page : result.1 =
    front format doc ++ contentsText format (headings doc) ++
      (places [] doc.body).flatMap (·.fragment format showCode) ++ back format doc
  /-- The headings of the segments in order are those of the contents. -/
  emitted : (places [] doc.body).filterMap Place.heading? = headings doc
  /-- They are numbered from one, and each number is there once. -/
  anchors : (headings doc).map Heading.anchor = List.range' 1 (doc.body.countP isTitled)
  /-- They have the titles and the kinds of the titled headers. -/
  titles : (headings doc).map (fun heading => (heading.title, heading.breaksSection)) = doc.contents
  /-- There are contents exactly if there is a titled header. -/
  contents : contentsText format (headings doc) = [] ↔ doc.body.countP isTitled = 0
  /-- The next anchor is the one after the last heading. -/
  counter : result.2.counter = doc.body.countP isTitled + 1

/-! ## Counting titled headers -/

/-- The titles of segments that have one, and whether each starts a section. -/
def entryOf? : Segment → Option (Chars × Bool)
  | .header h => if h.title = [] then none else some (h.title, h.breaksSection)
  | .code _ => none

theorem contents_eq (doc : Document) : doc.contents = doc.body.filterMap entryOf? := by
  rw [Document.contents]
  congr 1

theorem isSome_entryOf? (segment : Segment) : (entryOf? segment).isSome = isTitled segment := by
  cases segment with
  | code c => rfl
  | header h =>
    rw [entryOf?, isTitled]
    split_ifs with htitle <;> simp [htitle]

theorem length_contents (doc : Document) : doc.contents.length = doc.body.countP isTitled := by
  rw [contents_eq, List.length_filterMap_eq_countP]
  exact List.countP_congr fun segment _ => by rw [isSome_entryOf?]

theorem numbered_cons (first : Nat) (entry : Chars × Bool) (entries : List (Chars × Bool)) :
    numbered first (entry :: entries) =
      ⟨first, entry.1, entry.2⟩ :: numbered (first + 1) entries := by
  rw [numbered, List.zipIdx_cons, List.map_cons, numbered]

/-- The heading of a place is the entry of its segment with the next number. -/
theorem heading?_eq (place : Place) :
    place.heading? = (entryOf? place.segment).map fun entry =>
      ⟨place.before.countP isTitled + 1, entry.1, entry.2⟩ := by
  obtain ⟨before, segment⟩ := place
  cases segment with
  | code c => rfl
  | header h => by_cases htitle : h.title = [] <;> simp [Place.heading?, entryOf?, htitle]

/-- Going along the segments, the headings get the numbers of the contents. -/
theorem filterMap_places (before rest : List Segment) :
    (places before rest).filterMap Place.heading? =
      numbered (before.countP isTitled + 1) (rest.filterMap entryOf?) := by
  induction rest generalizing before with
  | nil => rfl
  | cons segment rest ih =>
    -- the number of titled headers passed so far is the number that the contents have reached
    have hcount : (before ++ [segment]).countP isTitled =
        before.countP isTitled + if (entryOf? segment).isSome then 1 else 0 := by
      rw [List.countP_append, List.countP_singleton, isSome_entryOf?]
    rw [places, List.filterMap_cons, ih, hcount, List.filterMap_cons, heading?_eq]
    cases entryOf? segment with
    | none => rfl
    | some entry => exact (numbered_cons _ _ _).symm

/-! ## The beginning of a report -/

theorem contentsEntries_eq (first : Nat) (entries : List (Chars × Bool)) :
    Html.contentsEntries first entries = Text.concatMap Heading.entry (numbered first entries) := by
  induction entries generalizing first with
  | nil => rfl
  | cons entry entries ih =>
    rw [Html.contentsEntries, ih, numbered_cons]
    rfl

/-- The header has the contents last, numbered as the headings are. -/
theorem header_eq (format : Format) (title intro : Chars) (entries : List (Chars × Bool))
    (s : State) :
    ((backEnd format).header title intro entries s).1 =
      ((backEnd format).header title intro [] {}).1 ++
        contentsText format (numbered 1 entries) := by
  cases entries with
  | nil =>
    rw [numbered, List.zipIdx_nil, List.map_nil, contentsText, List.append_nil]
    cases format <;> rfl
  | cons entry entries =>
    cases format with
    | html =>
      have hcontents : Html.contentsBlock (entry :: entries) =
          contentsText .html (numbered 1 (entry :: entries)) := by
        rw [Html.contentsBlock, if_neg (List.cons_ne_nil _ _), contentsEntries_eq, numbered_cons]
        rfl
      have hnone : Html.contentsBlock [] = [] := rfl
      simp only [backEnd, Html.backEnd, Html.header, hcontents, hnone, List.append_nil]
    | latex =>
      rw [numbered_cons]
      simp only [backEnd, Latex.backEnd, Latex.header, contentsText]
      rw [if_neg (List.cons_ne_nil _ _), if_pos trivial, List.append_nil]

/-! ## The walk over a body -/

/-- A renderer has come as far as the segments `before`: the counter stands behind their headings,
    and in HTML a container is open if one of them has started a section. -/
structure At (format : Format) (before : List Segment) (s : State) : Prop where
  counter : s.counter = before.countP isTitled + 1
  inside : format = .html → s.insideSection = before.any startsSection

/-- The header forgets what was before. -/
theorem header_at (format : Format) (title intro : Chars) (entries : List (Chars × Bool))
    (s : State) : At format [] ((backEnd format).header title intro entries s).2 := by
  cases format with
  | html => exact ⟨rfl, fun _ => rfl⟩
  | latex => exact ⟨rfl, fun h => by cases h⟩

variable {format : Format} {before : List Segment} {s : State}

theorem At.append {segment : Segment} {t : State} (h : At format before s)
    (hcounter : t.counter = s.counter + if isTitled segment then 1 else 0)
    (hinside : format = .html → t.insideSection = (s.insideSection || startsSection segment)) :
    At format (before ++ [segment]) t := by
  refine ⟨?_, fun hhtml => ?_⟩
  · rw [hcounter, h.counter, List.countP_append, List.countP_singleton]
    omega
  · rw [hinside hhtml, h.inside hhtml, List.any_append, List.any_cons, List.any_nil, Bool.or_false]

/-- The heading with the next anchor, if there is a title. -/
def nextHeading (format : Format) (s : State) (title : Chars) (breaksSection : Bool) : Chars :=
  if title = [] then [] else Heading.text format ⟨s.counter, title, breaksSection⟩

/-- The state after a heading: an untitled one takes no anchor. -/
def afterHeading (s : State) (title : Chars) : State :=
  if title = [] then s else { s with counter := s.counter + 1 }

theorem html_section_eq (title : Chars) (s : State) :
    Html.section_ title s =
      ((Html.openSection s).1 ++ nextHeading .html s title true,
        { afterHeading s title with insideSection := true }) := by
  unfold Html.section_ nextHeading afterHeading
  by_cases htitle : title = []
  · simp only [htitle, if_true, List.append_nil]
    rfl
  · simp only [htitle, if_false]
    rfl

theorem html_sectionNoBreak_eq (title : Chars) (s : State) :
    Html.sectionNoBreak title s = (nextHeading .html s title false, afterHeading s title) := by
  unfold Html.sectionNoBreak nextHeading afterHeading
  split_ifs <;> rfl

theorem latex_section_eq (title : Chars) (s : State) :
    Latex.section_ title s =
      ((if title = [] then "\\bigskip\n".toList else []) ++ nextHeading .latex s title true,
        afterHeading s title) := by
  unfold Latex.section_ nextHeading afterHeading
  split_ifs <;> rfl

theorem latex_sectionNoBreak_eq (title : Chars) (s : State) :
    Latex.sectionNoBreak title s = (nextHeading .latex s title false, afterHeading s title) := by
  unfold Latex.sectionNoBreak nextHeading afterHeading
  split_ifs <;> rfl

/-- A heading takes the number that follows the titled headers before it. -/
theorem nextHeading_at {header : HeaderSegment} (h : At format before s) :
    nextHeading format s header.title header.breaksSection =
      (Place.heading? ⟨before, .header header⟩).elim [] fun heading => heading.text format := by
  unfold nextHeading Place.heading?
  by_cases htitle : header.title = []
  · simp only [htitle, if_true, Option.elim_none]
  · simp only [htitle, if_false, Option.elim_some, h.counter]

theorem counter_afterHeading (header : HeaderSegment) (s : State) :
    (afterHeading s header.title).counter =
      s.counter + if isTitled (.header header) then 1 else 0 := by
  unfold afterHeading
  by_cases htitle : header.title = [] <;> simp [isTitled, htitle]

theorem insideSection_afterHeading (title : Chars) (s : State) :
    (afterHeading s title).insideSection = s.insideSection := by
  unfold afterHeading
  split_ifs <;> rfl

/-- The heading that a header asks for. -/
def headingStep (format : Format) (header : HeaderSegment) (s : State) : Chars × State :=
  if header.breaksSection then (backEnd format).section_ header.title s
  else (backEnd format).sectionNoBreak header.title s

/-- What a header puts before its content, and the state that it leaves. -/
theorem headingStep_at {header : HeaderSegment} (h : At format before s) :
    (headingStep format header s).1 =
        opening format before header ++
          (Place.heading? ⟨before, .header header⟩).elim [] (fun heading => heading.text format) ∧
      At format (before ++ [.header header]) (headingStep format header s).2 := by
  rw [← nextHeading_at h]
  -- in HTML a break closes the container that is open, so the state decides about the opening;
  -- in LaTeX only the title does
  cases format with
  | html =>
    cases hbreaks : header.breaksSection with
    | true =>
      have hstep : headingStep .html header s = Html.section_ header.title s := if_pos hbreaks
      rw [hstep, html_section_eq, Html.openSection, h.inside rfl]
      refine ⟨by rw [opening, if_pos hbreaks], h.append (counter_afterHeading header s) fun _ => ?_⟩
      rw [startsSection, hbreaks, Bool.or_true]
    | false =>
      have hstep : headingStep .html header s = Html.sectionNoBreak header.title s :=
        if_neg (by simp [hbreaks])
      rw [hstep, html_sectionNoBreak_eq]
      refine ⟨?_, h.append (counter_afterHeading header s) fun _ => ?_⟩
      · rw [opening, if_neg (by simp [hbreaks]), List.nil_append]
      · rw [startsSection, hbreaks, Bool.or_false, insideSection_afterHeading]
  | latex =>
    have hstep : headingStep .latex header s =
        (opening .latex before header ++
          nextHeading .latex s header.title header.breaksSection, afterHeading s header.title) := by
      cases hbreaks : header.breaksSection with
      | true =>
        have hsection : headingStep .latex header s = Latex.section_ header.title s := if_pos hbreaks
        rw [hsection, latex_section_eq, opening, hbreaks]
        simp only [Bool.true_and, decide_eq_true_eq]
      | false =>
        have hsection : headingStep .latex header s = Latex.sectionNoBreak header.title s :=
          if_neg (by simp [hbreaks])
        rw [hsection, latex_sectionNoBreak_eq, opening, hbreaks]
        rfl
    rw [hstep]
    exact ⟨rfl, h.append (counter_afterHeading header s) fun hhtml => by cases hhtml⟩

/-- One segment: its fragment depends only on the segments before it. -/
theorem renderSegment_at (showCode : Bool) (segment : Segment) (h : At format before s) :
    (renderSegment (backEnd format) showCode segment s).1 =
        Place.fragment format showCode ⟨before, segment⟩ ∧
      At format (before ++ [segment]) (renderSegment (backEnd format) showCode segment s).2 := by
  cases segment with
  | code c => exact ⟨rfl, h.append rfl fun _ => (Bool.or_false _).symm⟩
  | header header =>
    obtain ⟨htext, hstate⟩ := @headingStep_at format before s header h
    have hsegment : renderSegment (backEnd format) showCode (.header header) s =
        ((headingStep format header s).1 ++ renderItems (backEnd format) header.content,
          (headingStep format header s).2) := rfl
    rw [hsegment, htext]
    exact ⟨rfl, hstate⟩

/-- A whole body, segment after segment. -/
theorem renderBody_at (showCode : Bool) (rest : List Segment) (h : At format before s) :
    (renderBody (backEnd format) showCode rest s).1 =
        (places before rest).flatMap (·.fragment format showCode) ∧
      At format (before ++ rest) (renderBody (backEnd format) showCode rest s).2 := by
  induction rest generalizing before s with
  | nil => exact ⟨rfl, by rwa [List.append_nil]⟩
  | cons segment rest ih =>
    obtain ⟨hfirst, hstep⟩ := renderSegment_at showCode segment h
    obtain ⟨hrest, hend⟩ := ih hstep
    rw [List.append_assoc, List.singleton_append] at hend
    rw [places, List.flatMap_cons, ← hfirst, ← hrest]
    exact ⟨rfl, hend⟩

/-! ## Whole reports -/

/-- The footer looks at the open container, and leaves the counter as it is. -/
theorem footer_at {body : List Segment} (h : At format body s) (source : Chars) :
    ((backEnd format).footer source s).1 =
        ((backEnd format).footer source ⟨body.countP isTitled + 1, body.any startsSection⟩).1 ∧
      ((backEnd format).footer source s).2.counter = body.countP isTitled + 1 := by
  cases format with
  | html =>
    -- after the whole body both parts of the state are known
    have hs : s = ⟨body.countP isTitled + 1, body.any startsSection⟩ := by
      rw [← h.counter, ← h.inside rfl]
    rw [hs]
    refine ⟨rfl, ?_⟩
    cases hinside : body.any startsSection <;> rfl
  | latex => exact ⟨rfl, h.counter⟩

theorem anchors_numbered (first : Nat) (entries : List (Chars × Bool)) :
    (numbered first entries).map Heading.anchor = List.range' first entries.length := by
  induction entries generalizing first with
  | nil => rfl
  | cons entry entries ih =>
    rw [numbered_cons, List.map_cons, ih, List.length_cons, List.range'_succ]

theorem titles_numbered (first : Nat) (entries : List (Chars × Bool)) :
    (numbered first entries).map (fun heading => (heading.title, heading.breaksSection)) =
      entries := by
  induction entries generalizing first with
  | nil => rfl
  | cons entry entries ih => rw [numbered_cons, List.map_cons, ih]

theorem contentsText_cons (format : Format) (heading : Heading) (rest : List Heading) :
    contentsText format (heading :: rest) ≠ [] := by
  intro h
  cases format with
  | html =>
    have hfirst : ("<h2>Contents</h2>\n<ul>\n" : Chars) = [] :=
      (List.append_eq_nil_iff.mp (List.append_eq_nil_iff.mp h).1).1
    exact absurd hfirst (by decide)
  | latex =>
    have hfirst : ("\\tableofcontents\n" : Chars) = [] := h
    exact absurd hfirst (by decide)

theorem contentsText_eq_nil_iff {entries : List (Chars × Bool)} :
    contentsText format (numbered 1 entries) = [] ↔ entries.length = 0 := by
  cases entries with
  | nil => cases format <;> exact ⟨fun _ => rfl, fun _ => rfl⟩
  | cons entry entries =>
    rw [numbered_cons, List.length_cons]
    exact ⟨fun h => absurd h (contentsText_cons _ _ _), fun h => absurd h (Nat.succ_ne_zero _)⟩

theorem isNumbered_renderDocument (format : Format) (showCode : Bool) (doc : Document)
    (before : State) :
    IsNumbered format showCode doc (renderDocument (backEnd format) showCode doc before) := by
  have hstart := header_at format doc.shownTitle (renderItems (backEnd format) doc.intro)
    doc.contents before
  obtain ⟨hbody, hend⟩ := renderBody_at showCode doc.body hstart
  rw [List.nil_append] at hend
  obtain ⟨hback, hcounter⟩ := footer_at hend doc.sourceText
  have hfront := header_eq format doc.shownTitle (renderItems (backEnd format) doc.intro)
    doc.contents before
  constructor
  case page =>
    rw [back, ← hback, ← hbody, front, headings, ← hfront]
    rfl
  case emitted => rw [filterMap_places, headings, contents_eq]; rfl
  case anchors => rw [headings, anchors_numbered, length_contents]
  case titles => rw [headings, titles_numbered]
  case contents => rw [headings, contentsText_eq_nil_iff, length_contents]
  case counter => exact hcounter

/-- A report does not depend on the state that earlier calls have left. -/
theorem renderDocument_fst (format : Format) (showCode : Bool) (doc : Document) (before : State) :
    (renderDocument (backEnd format) showCode doc before).1 = report format showCode doc := by
  have hnumbered := isNumbered_renderDocument format showCode doc
  rw [(hnumbered before).page, report, (hnumbered {}).page]

/-- In whatever state the renderer is, a report is the one of a fresh renderer, and its headings are
    numbered as the contents are. -/
theorem renderDocument_isNumbered (format : Format) (showCode : Bool) (doc : Document)
    (before : State) :
    (renderDocument (backEnd format) showCode doc before).1 = report format showCode doc ∧
      IsNumbered format showCode doc (renderDocument (backEnd format) showCode doc before) :=
  ⟨renderDocument_fst format showCode doc before,
    isNumbered_renderDocument format showCode doc before⟩

end ScriptReport.Report

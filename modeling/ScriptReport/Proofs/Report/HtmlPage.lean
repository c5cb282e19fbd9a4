/-
  ScriptReport.Proofs.Report.HtmlPage

  HTML reports are well formed. The invariant of the walk over a document is that the elements open
  behind a segment are those that the state tells: a section container or none. So the report is a
  passage from no open element to none, with the markup that its structure asks for; only the footer
  writes a comment, and outside of the contents every reference goes to a known scheme. Main
  statement: `html_report_wellFormed`.
-/

import ScriptReport.Proofs.Html.Delimiter
import ScriptReport.Proofs.Report.HtmlFragment
import ScriptReport.Proofs.Report.SourceRecovery

namespace ScriptReport.Report.Html

open ScriptReport.Html (Markup Passage IsPlain IsWritable escape escapeMarkup element elementText
  openingText closingText attributeText markup? nest isPlain_escape isPlain_escapeMarkup
  isWritable_escape passage_closingText passage_concatMap passage_nil passage_of_isPlain
  passage_openingText)
open ScriptReport.Script

/-! ## Numbers in attributes -/

theorem isWritable_ofNat {name front : Chars} (hfront : IsWritable (name, front)) (n : Nat) :
    IsWritable (name, front ++ Text.ofNat n) := by
  have hdigit : ∀ c, c.isDigit = false → c ∉ Text.ofNat n := by
    intro c hc hmem
    have := Nat.isDigit_of_mem_toDigits (by decide) (by decide) hmem
    simp [hc] at this
  obtain ⟨hname, hplain, hquote⟩ := hfront
  refine ⟨hname, hplain.append ⟨hdigit _ (by decide), hdigit _ (by decide)⟩, ?_⟩
  rw [List.mem_append, not_or]
  exact ⟨hquote, hdigit _ (by decide)⟩

/-! ## Headings and sections -/

variable {elements : List Chars}

/-- The markup of a heading with an anchor. -/
def headingTags (name : Chars) (s : State) : List Markup :=
  element name [] (element "a" [("name", "node" ++ Text.ofNat s.counter)] [])

theorem heading_eq (name title : Chars) (s : State) :
    (heading name title s).1 =
      elementText name []
        (elementText "a" [("name", "node" ++ Text.ofNat s.counter)] (escape title)) ++ "\n" := by
  unfold heading
  simp [State.nextAnchor, elementText, openingText, closingText, attributeText, Text.concatMap]

theorem passage_heading {name : Chars} (hname : ScriptReport.Html.isName name = true)
    (hvoid : ScriptReport.Html.voidElements.contains name = false) (title : Chars) (s : State) :
    Passage elements (heading name title s).1 (headingTags name s) elements := by
  rw [heading_eq]
  refine Passage.line (passage_bare hname hvoid ?_)
  refine Passage.element (passage_of_isPlain (isPlain_escape title)) (by decide) ?_ (by decide)
  rw [List.forall_mem_singleton]
  exact isWritable_ofNat (by decide) _

/-- The elements that are open in a state: a section container, or none. -/
def openContainers (s : State) : List Chars := if s.insideSection then ["div"] else []

/-- The markup that closes the section container, if one is open. -/
def closeTags (s : State) : List Markup := if s.insideSection then [.closing "div"] else []

/-- The markup of a new section. -/
def sectionTags (title : Chars) (s : State) : List Markup :=
  closeTags s ++ [.opening "div" [("class", some "section")]] ++
    (if title = [] then [] else headingTags "h2" s)

/-- The markup of a heading inside the current section. -/
def sectionNoBreakTags (title : Chars) (s : State) : List Markup :=
  if title = [] then [] else headingTags "h3" s

theorem passage_close (s : State) :
    Passage (openContainers s) (closeSection s).1 (closeTags s) [] := by
  have hclosing : "</div>\n".toList = closingText "div" ++ "\n" := by decide
  unfold openContainers closeSection closeTags
  split
  · rw [hclosing]
    exact Passage.line (passage_closingText (by decide))
  · exact passage_nil

theorem openSection_eq (s : State) :
    (openSection s).1 =
      (closeSection s).1 ++ (openingText "div" [("class", "section")] ++ "\n") := by
  have hopening : "<div class=\"section\">\n".toList =
      openingText "div" [("class", "section")] ++ "\n" := by decide
  unfold openSection closeSection
  rw [← hopening]
  split <;> rfl

theorem passage_open (s : State) :
    Passage (openContainers s) (openSection s).1
      (closeTags s ++ [.opening "div" [("class", some "section")]]) ["div"] := by
  have hdiv : Passage [] (openingText "div" [("class", "section")])
      [.opening "div" [("class", some "section")]] ["div"] :=
    passage_openingText (by decide) (by rw [List.forall_mem_singleton]; decide) (by decide)
  rw [openSection_eq]
  exact (passage_close s).append hdiv.line

/-- A new section leaves its container open, whether one was open before or not. -/
theorem passage_section (title : Chars) (s : State) :
    Passage (openContainers s) (section_ title s).1 (sectionTags title s)
      (openContainers (section_ title s).2) := by
  by_cases htitle : title = []
  · have htags : sectionTags title s =
        closeTags s ++ [.opening "div" [("class", some "section")]] := by
      rw [sectionTags, if_pos htitle, List.append_nil]
    rw [htags, htitle]
    exact passage_open s
  · have htags : sectionTags title s =
        closeTags s ++ [.opening "div" [("class", some "section")]] ++ headingTags "h2" s := by
      rw [sectionTags, if_neg htitle]
    have hsection : section_ title s =
        ((openSection s).1 ++ (heading "h2" title (openSection s).2).1,
          (heading "h2" title (openSection s).2).2) := by
      unfold section_
      exact if_neg htitle
    rw [htags, hsection]
    exact (passage_open s).append (passage_heading (by decide) (by decide) title _)

theorem passage_sectionNoBreak (title : Chars) (s : State) :
    Passage (openContainers s) (sectionNoBreak title s).1 (sectionNoBreakTags title s)
      (openContainers (sectionNoBreak title s).2) := by
  unfold sectionNoBreak sectionNoBreakTags
  split
  · exact passage_nil
  · exact passage_heading (by decide) (by decide) title s

/-! ## Segments -/

/-- The markup of a segment that is rendered in the given state. -/
def segmentTags (showCode : Bool) : Segment → State → List Markup
  | .code segment, _ => codeTags showCode segment
  | .header segment, s =>
    (if segment.breaksSection then sectionTags segment.title s
     else sectionNoBreakTags segment.title s) ++ segment.content.flatMap itemTags

/-- The markup of segments, one after another. -/
def bodyTags (showCode : Bool) : List Segment → State → List Markup
  | [], _ => []
  | segment :: rest, s =>
    segmentTags showCode segment s ++
      bodyTags showCode rest (renderSegment backEnd showCode segment s).2

/-- No header in the segment has raw HTML under it. -/
def isTame : Segment → Bool
  | .code _ => true
  | .header segment => segment.content.all (!isRaw ·)

theorem passage_segment {segment : Segment} (htame : isTame segment = true) (showCode : Bool)
    (s : State) :
    Passage (openContainers s) (renderSegment backEnd showCode segment s).1
      (segmentTags showCode segment s)
      (openContainers (renderSegment backEnd showCode segment s).2) := by
  cases segment with
  | code segment => exact passage_code showCode segment
  | header segment =>
    have hcontent : ∀ item ∈ segment.content, isRaw item = false := by
      intro item hitem
      have := List.all_eq_true.mp htame item hitem
      simpa using this
    have hheading : Passage (openContainers s)
        (if segment.breaksSection then section_ segment.title s
          else sectionNoBreak segment.title s).1
        (if segment.breaksSection then sectionTags segment.title s
          else sectionNoBreakTags segment.title s)
        (openContainers (if segment.breaksSection then section_ segment.title s
          else sectionNoBreak segment.title s).2) := by
      split
      · exact passage_section segment.title s
      · exact passage_sectionNoBreak segment.title s
    exact hheading.append (passage_items hcontent)

/-- The state says which elements are open behind any number of segments. -/
theorem passage_body {segments : List Segment}
    (htame : ∀ segment ∈ segments, isTame segment = true) (showCode : Bool) (s : State) :
    Passage (openContainers s) (renderBody backEnd showCode segments s).1
      (bodyTags showCode segments s)
      (openContainers (renderBody backEnd showCode segments s).2) := by
  induction segments generalizing s with
  | nil => exact passage_nil
  | cons segment rest ih =>
    -- the next segments start with the containers that the first one leaves open
    have hfirst := passage_segment (htame segment List.mem_cons_self) showCode s
    exact hfirst.append (ih (fun x hx => htame x (List.mem_cons_of_mem segment hx)) _)

/-! ## The beginning of a report -/

/-- The elements around everything that is shown. -/
def pageElements : List Chars := ["body", "html"]

/-- The markup before the title heading. -/
def prologTags : List Markup :=
  [.doctype, .opening "html" [], .opening "head" [], .opening "meta" [("charset", some "UTF-8")],
   .opening "meta" [("name", some "generator"), ("content", some generator)],
   .opening "title" [], .closing "title",
   .opening "script" [("type", some "text/javascript"), ("async", none), ("src", some mathScript)],
   .closing "script", .closing "head", .opening "body" []]

theorem passage_prolog (title : Chars) :
    Passage [] (prolog title) prologTags pageElements := by
  have hfront : Passage []
      ("<!DOCTYPE html>\n<html>\n<head>\n<meta charset=\"UTF-8\">\n<meta name=\"generator\" content=\"" ++
        (generator ++ "\">\n<title>"))
      (prologTags.take 6) ["title", "head", "html"] :=
    ⟨by decide +kernel, fun _ => rfl⟩
  have hback : Passage ["title", "head", "html"]
      ("</title>\n<script type=\"text/javascript\" async src=\"" ++
        (mathScript ++ "\"></script>\n</head>\n<body>\n"))
      (prologTags.drop 6) pageElements :=
    ⟨by decide +kernel, fun _ => rfl⟩
  -- only the title between them is not a fixed text
  have hprolog := hfront.append ((passage_of_isPlain (isPlain_escape title)).append hback)
  unfold prolog
  simp only [List.append_assoc] at hprolog ⊢
  exact hprolog

theorem passage_titleHeading (title : Chars) :
    Passage elements (titleHeading title) (element "h1" [] []) elements := by
  have heq : titleHeading title = elementText "h1" [] (escape title) ++ "\n" := by
    unfold titleHeading
    simp [elementText, openingText, closingText, Text.concatMap]
  rw [heq]
  exact Passage.line (passage_bare (by decide) (by decide)
    (passage_of_isPlain (isPlain_escape title)))

/-! ## Contents -/

/-- The markup of an entry of the contents. -/
def contentsEntryTags (anchor : Nat) (entry : Chars × Bool) : List Markup :=
  element "li" (if entry.2 then [] else [("class", "no-break")])
    (element "a" [("href", "#node" ++ Text.ofNat anchor)] [])

/-- The markup of the entries of the contents. -/
def contentsEntriesTags (anchor : Nat) : List (Chars × Bool) → List Markup
  | [] => []
  | entry :: rest => contentsEntryTags anchor entry ++ contentsEntriesTags (anchor + 1) rest

/-- The markup of the contents. -/
def contentsTags (contents : List (Chars × Bool)) : List Markup :=
  if contents = [] then []
  else element "h2" [] [] ++ element "ul" [] (contentsEntriesTags 1 contents)

theorem contentsEntry_eq (anchor : Nat) (entry : Chars × Bool) :
    contentsEntry anchor entry =
      elementText "li" (if entry.2 then [] else [("class", "no-break")])
        (elementText "a" [("href", "#node" ++ Text.ofNat anchor)] (escape entry.1)) ++ "\n" := by
  unfold contentsEntry
  cases entry.2 <;>
    simp [elementText, openingText, closingText, attributeText, Text.concatMap]

theorem passage_contentsEntry (anchor : Nat) (entry : Chars × Bool) :
    Passage elements (contentsEntry anchor entry) (contentsEntryTags anchor entry) elements := by
  rw [contentsEntry_eq]
  refine Passage.line (Passage.element (Passage.element
    (passage_of_isPlain (isPlain_escape entry.1)) (by decide) ?_ (by decide)) (by decide) ?_
    (by decide))
  · rw [List.forall_mem_singleton]
    exact isWritable_ofNat (by decide) anchor
  · cases entry.2 <;> decide

theorem passage_contentsEntries (anchor : Nat) (contents : List (Chars × Bool)) :
    Passage elements (contentsEntries anchor contents) (contentsEntriesTags anchor contents)
      elements := by
  induction contents generalizing anchor with
  | nil => exact passage_nil
  | cons entry rest ih => exact (passage_contentsEntry anchor entry).append (ih (anchor + 1))

theorem passage_contents (contents : List (Chars × Bool)) :
    Passage elements (contentsBlock contents) (contentsTags contents) elements := by
  by_cases hnil : contents = []
  · rw [hnil]
    exact passage_nil
  · have heq : contentsBlock contents =
        elementText "h2" [] "Contents" ++ "\n" ++
          (elementText "ul" [] ("\n" ++ contentsEntries 1 contents) ++ "\n") := by
      unfold contentsBlock
      rw [if_neg hnil]
      simp [elementText, openingText, closingText, Text.concatMap]
    have htitle : Passage elements (elementText "h2" [] "Contents") (element "h2" [] []) elements :=
      passage_bare (by decide) (by decide) (passage_of_isPlain (by decide))
    have hentries : Passage ("ul".toList :: elements) ("\n" ++ contentsEntries 1 contents)
        (contentsEntriesTags 1 contents) ("ul".toList :: elements) :=
      (passage_of_isPlain (show IsPlain "\n" by decide)).append (passage_contentsEntries 1 contents)
    rw [heq, contentsTags, if_neg hnil]
    exact htitle.line.append (passage_bare (by decide) (by decide) hentries).line

/-! ## The end of a report -/

/-- What the comment of the footer holds. -/
def commentText (source : Chars) : Chars :=
  "\n" ++ (sourceBegin ++ ("\n" ++ (escapeMarkup source ++ ("\n" ++ (sourceEnd ++ "\n")))))

/-- The script in the comment cannot end it: it is written without angle brackets. -/
theorem isPlain_commentText (source : Chars) : IsPlain (commentText source) := by
  have hbefore : IsPlain ("\n" ++ (sourceBegin ++ "\n")) := by decide
  have hafter : IsPlain ("\n" ++ (sourceEnd ++ "\n")) := by decide
  have heq : commentText source = "\n" ++ (sourceBegin ++ "\n") ++
      (escapeMarkup source ++ ("\n" ++ (sourceEnd ++ "\n"))) := by
    simp only [commentText, List.append_assoc]
  rw [heq]
  exact hbefore.append ((isPlain_escapeMarkup source).append hafter)

/-- The markup behind the segments, in the state that they leave. -/
def footerTags (source : Chars) (s : State) : List Markup :=
  closeTags s ++ element "footer" [] [] ++ [.comment (commentText source)] ++
    [.closing "body", .closing "html"]

theorem passage_comment (source : Chars) :
    Passage elements (sourceComment source) [.comment (commentText source)] elements := by
  have heq : sourceComment source =
      ('<' :: ("!--" ++ (commentText source ++ "--")) ++ ['>']) ++ "\n" := by
    unfold sourceComment commentText
    simp
  have hplain : IsPlain ("!--" ++ (commentText source ++ "--")) :=
    IsPlain.append (by decide) ((isPlain_commentText source).append (by decide))
  have hcomment : Passage elements ('<' :: ("!--" ++ (commentText source ++ "--")) ++ ['>'])
      [.comment (commentText source)] elements :=
    ⟨ScriptReport.Html.markup?_tag hplain (ScriptReport.Html.tag?_comment _), fun _ => rfl⟩
  rw [heq]
  exact hcomment.line

/-- What comes between the segments and the comment closes the container and shows a line. -/
theorem passage_footerLine (s : State) :
    Passage (openContainers s ++ pageElements)
      ((closeSection s).1 ++ ("\n<footer>Published with " ++ (generator ++ "</footer>\n")))
      (closeTags s ++ element "footer" [] []) pageElements := by
  have heq : ("\n<footer>Published with ".toList ++ (generator ++ "</footer>\n") : Chars) =
      "\n" ++ (elementText "footer" [] ("Published with " ++ generator) ++ "\n") := by
    simp [elementText, openingText, closingText, Text.concatMap]
  have hfooter : Passage pageElements
      (elementText "footer" [] ("Published with " ++ generator)) (element "footer" [] [])
      pageElements :=
    passage_bare (by decide) (by decide) (passage_of_isPlain (by decide))
  have hbreak : Passage pageElements ("\n" : Chars) [] pageElements :=
    passage_of_isPlain (by decide)
  rw [heq]
  -- a container that is open is closed inside of the page
  exact ((passage_close s).within pageElements).append (hbreak.append hfooter.line)

theorem passage_footer (source : Chars) (s : State) :
    Passage (openContainers s ++ pageElements) (footer source s).1 (footerTags source s) [] := by
  have heq : (footer source s).1 =
      (closeSection s).1 ++ ("\n<footer>Published with " ++ (generator ++ "</footer>\n")) ++
        sourceComment source ++ (closingText "body" ++ "\n" ++ (closingText "html" ++ "\n")) := by
    unfold footer
    simp [closingText]
  have hbody : Passage pageElements (closingText "body" ++ "\n") [.closing "body"] ["html"] :=
    Passage.line (passage_closingText (by decide))
  have hhtml : Passage ["html"] (closingText "html" ++ "\n") [.closing "html"] [] :=
    Passage.line (passage_closingText (by decide))
  rw [heq]
  exact ((passage_footerLine s).append (passage_comment source)).append (hbody.append hhtml)

/-! ## What a report refers to -/

theorem allInert_heading (name : Chars) (s : State) : AllInert (headingTags name s) := by
  have hanchor : AllInert (element "a" [("name", "node" ++ Text.ofNat s.counter)] []) :=
    allInert_nil.unlinked (show "href".toList ∉ ["name".toList] by decide)
  exact hanchor.unlinked (by decide)

theorem allInert_close (s : State) : AllInert (closeTags s) := by
  unfold closeTags
  split
  · exact allInert_closing _
  · exact allInert_nil

theorem allInert_segment (showCode : Bool) (segment : Segment) (s : State) :
    AllInert (segmentTags showCode segment s) := by
  cases segment with
  | code segment => exact allInert_code showCode segment
  | header segment =>
    have hsection : AllInert (sectionTags segment.title s) := by
      refine AllInert.append ((allInert_close s).append (allInert_opening ?_)) ?_
      · rw [List.forall_mem_singleton]
        exact fun h => absurd h (by decide)
      · split
        · exact allInert_nil
        · exact allInert_heading _ s
    have hnoBreak : AllInert (sectionNoBreakTags segment.title s) := by
      unfold sectionNoBreakTags
      split
      · exact allInert_nil
      · exact allInert_heading _ s
    refine AllInert.append ?_ (allInert_flatMap fun item _ => allInert_item item)
    split
    · exact hsection
    · exact hnoBreak

theorem allInert_body (showCode : Bool) (segments : List Segment) (s : State) :
    AllInert (bodyTags showCode segments s) := by
  induction segments generalizing s with
  | nil => exact allInert_nil
  | cons segment rest ih => exact (allInert_segment showCode segment s).append (ih _)

/-! ## Whole reports -/

/-- The markup before the contents. -/
def frontTags (doc : Document) : List Markup :=
  prologTags ++ element "h1" [] [] ++ doc.intro.flatMap itemTags

/-- The markup behind the contents. -/
def backTags (showCode : Bool) (doc : Document) : List Markup :=
  bodyTags showCode doc.body {} ++
    footerTags doc.sourceText (renderBody backEnd showCode doc.body {}).2

/-- No raw HTML stands in the introduction or under a header. -/
def HasNoRaw (doc : Document) : Prop :=
  (∀ item ∈ doc.intro, isRaw item = false) ∧ ∀ segment ∈ doc.body, isTame segment = true

instance (doc : Document) : Decidable (HasNoRaw doc) := inferInstanceAs (Decidable (_ ∧ _))

variable {doc : Document}

theorem passage_front (hraw : HasNoRaw doc) :
    Passage []
      (prolog doc.shownTitle ++ titleHeading doc.shownTitle ++ renderItems backEnd doc.intro)
      (frontTags doc) pageElements :=
  ((passage_prolog doc.shownTitle).append (passage_titleHeading doc.shownTitle)).append
    (passage_items hraw.1)

theorem passage_pageBody (hraw : HasNoRaw doc) (showCode : Bool) :
    Passage pageElements (renderBody backEnd showCode doc.body {}).1
      (bodyTags showCode doc.body {})
      (openContainers (renderBody backEnd showCode doc.body {}).2 ++ pageElements) :=
  (passage_body hraw.2 showCode {}).within pageElements

theorem passage_back (hraw : HasNoRaw doc) (showCode : Bool) :
    Passage pageElements
      ((renderBody backEnd showCode doc.body {}).1 ++
        (footer doc.sourceText (renderBody backEnd showCode doc.body {}).2).1)
      (backTags showCode doc) [] :=
  (passage_pageBody hraw showCode).append (passage_footer doc.sourceText _)

theorem renderDocument_eq (showCode : Bool) (doc : Document) (before : State) :
    (renderDocument backEnd showCode doc before).1 =
      (prolog doc.shownTitle ++ titleHeading doc.shownTitle ++ renderItems backEnd doc.intro) ++
        contentsBlock doc.contents ++
          ((renderBody backEnd showCode doc.body {}).1 ++
            (footer doc.sourceText (renderBody backEnd showCode doc.body {}).2).1) := by
  rw [← List.append_assoc]
  rfl

/-! ## Comments and references of whole reports -/

theorem countP_isComment_of_allInert {ms : List Markup} (h : AllInert ms) :
    ms.countP Markup.isComment = 0 := by
  rw [List.countP_eq_zero]
  intro m hm
  rw [(h m hm).1]
  exact Bool.false_ne_true

theorem countP_isComment_element (name : Chars) (attributes : List (Chars × Chars))
    (ms : List Markup) :
    (element name attributes ms).countP Markup.isComment = ms.countP Markup.isComment := by
  simp [element, Markup.isComment]

theorem countP_isComment_contents (contents : List (Chars × Bool)) :
    (contentsTags contents).countP Markup.isComment = 0 := by
  have hentries : ∀ anchor, (contentsEntriesTags anchor contents).countP Markup.isComment = 0 := by
    induction contents with
    | nil => exact fun _ => rfl
    | cons entry rest ih =>
      intro anchor
      rw [contentsEntriesTags, List.countP_append, ih, contentsEntryTags, countP_isComment_element,
        countP_isComment_element]
      rfl
  unfold contentsTags
  split
  · rfl
  · rw [List.countP_append, countP_isComment_element, countP_isComment_element, hentries]
    rfl

theorem allInert_prolog : AllInert prologTags := by
  have h : ∀ m ∈ prologTags, m.isComment = false ∧ m.references = [] := by decide +kernel
  intro m hm
  refine ⟨(h m hm).1, ?_⟩
  rw [(h m hm).2]
  exact fun _ hurl => absurd hurl List.not_mem_nil

theorem allInert_front (doc : Document) : AllInert (frontTags doc) :=
  (allInert_prolog.append (allInert_nil.unlinked (by decide))).append
    (allInert_flatMap fun item _ => allInert_item item)

/-- The markup between the contents and the comment. -/
theorem allInert_beforeComment (showCode : Bool) (doc : Document) :
    AllInert (bodyTags showCode doc.body {} ++
      (closeTags (renderBody backEnd showCode doc.body {}).2 ++ element "footer" [] [])) :=
  (allInert_body showCode doc.body {}).append
    ((allInert_close _).append (allInert_nil.unlinked (by decide)))

/-- Behind the contents there is inert markup, one comment, and inert markup again. -/
theorem backTags_eq (showCode : Bool) (doc : Document) :
    ∃ before after, AllInert before ∧ AllInert after ∧
      backTags showCode doc = before ++ .comment (commentText doc.sourceText) :: after := by
  have hafter : AllInert ([.closing "body"] ++ [.closing "html"]) :=
    (allInert_closing _).append (allInert_closing _)
  refine ⟨_, _, allInert_beforeComment showCode doc, hafter, ?_⟩
  unfold backTags footerTags
  simp only [List.append_assoc, List.singleton_append]

/-- The page holds the markup `ms`, each of its angle brackets is one of a pair that holds some of
    it, its tags are nested, and it has one place where a comment starts and one where a comment
    ends. -/
structure IsWellFormed (page : Chars) (ms : List Markup) : Prop where
  read : markup? page = some ms
  opening_brackets : page.count '<' = ms.length
  closing_brackets : page.count '>' = ms.length
  nested : nest [] ms = some []
  comment_start : Text.occurrences "<!--" page = 1
  comment_end : Text.occurrences "-->" page = 1

/-- The markup of the report of a document. -/
def pageTags (showCode : Bool) (doc : Document) : List Markup :=
  frontTags doc ++ contentsTags doc.contents ++ backTags showCode doc

theorem countP_isComment_pageTags (showCode : Bool) (doc : Document) :
    (pageTags showCode doc).countP Markup.isComment = 1 := by
  obtain ⟨ms, ns, hms, hns, heq⟩ := backTags_eq showCode doc
  rw [pageTags, heq, List.countP_append, List.countP_append, List.countP_append, List.countP_cons,
    countP_isComment_of_allInert (allInert_front doc), countP_isComment_contents,
    countP_isComment_of_allInert hms, countP_isComment_of_allInert hns]
  rfl

theorem hasScheme_of_mem_references (showCode : Bool) {m : Markup} {url : Chars}
    (hm : m ∈ frontTags doc ++ backTags showCode doc) (hurl : url ∈ m.references) :
    HasScheme url := by
  obtain ⟨ms, ns, hms, hns, heq⟩ := backTags_eq showCode doc
  rw [heq] at hm
  simp only [List.mem_append, List.mem_cons] at hm
  -- the comment refers to nothing, and all other markup is inert
  rcases hm with hm | hm | rfl | hm
  · exact (allInert_front doc m hm).2 url hurl
  · exact (hms m hm).2 url hurl
  · exact absurd hurl List.not_mem_nil
  · exact (hns m hm).2 url hurl

/-- The report of a document without raw HTML, by a renderer in any state, is well formed: it has
    just the markup that the structure of the document asks for, and in front of the contents and
    behind them every reference has one of the schemes of links. -/
theorem html_report_wellFormed (showCode : Bool) (before : State) (hraw : HasNoRaw doc) :
    IsWellFormed (renderDocument backEnd showCode doc before).1 (pageTags showCode doc) ∧
      ∃ front back, (renderDocument backEnd showCode doc before).1 =
          front ++ contentsBlock doc.contents ++ back ∧
        markup? front = some (frontTags doc) ∧
        markup? (contentsBlock doc.contents) = some (contentsTags doc.contents) ∧
        markup? back = some (backTags showCode doc) ∧
        ∀ m ∈ frontTags doc ++ backTags showCode doc, ∀ url ∈ m.references, HasScheme url := by
  have hfront := passage_front hraw
  have hcontents : Passage pageElements (contentsBlock doc.contents) (contentsTags doc.contents)
      pageElements :=
    passage_contents doc.contents
  have hback := passage_back hraw showCode
  have hpage : Passage [] (renderDocument backEnd showCode doc before).1 (pageTags showCode doc)
      [] := by
    rw [renderDocument_eq]
    exact (hfront.append hcontents).append hback
  -- that the page is read as markup tells the rest
  obtain ⟨hopening, hclosing⟩ := ScriptReport.Html.count_brackets hpage.read
  obtain ⟨hstart, hend⟩ := ScriptReport.Html.occurrences_comment hpage.read
  rw [countP_isComment_pageTags] at hstart hend
  refine ⟨⟨hpage.read, hopening, hclosing, hpage.nested [], hstart, hend⟩, _, _,
    renderDocument_eq showCode doc before, hfront.read, hcontents.read, hback.read, ?_⟩
  exact fun m hm url hurl => hasScheme_of_mem_references showCode hm hurl

/-- A script whose texts look like markup. -/
def markupScript : List Chars :=
  ["%% <b>T</b> \"-->", "% see <http://x.org/?a=1&b=<2 <i>me>", "y = 1; % --></body>"]

/-- Nothing in the texts of the script becomes markup of its report. -/
theorem html_report_of_markupScript :
    HasNoRaw (Script.read ["%", "#"] [] markupScript).1 ∧
      IsWellFormed (renderDocument backEnd true (Script.read ["%", "#"] [] markupScript).1 {}).1
        (pageTags true (Script.read ["%", "#"] [] markupScript).1) := by
  have hraw : HasNoRaw (Script.read ["%", "#"] [] markupScript).1 := by decide +kernel
  exact ⟨hraw, (html_report_wellFormed true {} hraw).1⟩

/-! ## Recovering the script -/

theorem occurrences_htmlFront (hraw : HasNoRaw doc) (showCode : Bool) :
    Text.occurrences "<!--" (htmlFront showCode doc) = 0 := by
  have hcontents : Passage pageElements (contentsBlock doc.contents) (contentsTags doc.contents)
      pageElements :=
    passage_contents doc.contents
  have hfront : Passage [] (htmlFront showCode doc) _ pageElements :=
    ((passage_front hraw).append hcontents).append
      ((passage_pageBody hraw showCode).append (passage_footerLine _))
  rw [(ScriptReport.Html.occurrences_comment hfront.read).1, List.countP_append,
    List.countP_append, countP_isComment_of_allInert (allInert_front doc),
    countP_isComment_contents, countP_isComment_of_allInert (allInert_beforeComment showCode doc)]

theorem contains_htmlOpener_htmlFront (hraw : HasNoRaw doc) (showCode : Bool) :
    Text.contains htmlOpener (htmlFront showCode doc) = false := by
  have hopener : "<!--".toList <:+: htmlOpener := Text.contains_eq_true_iff.mp (by decide)
  have hnone : Text.contains "<!--" (htmlFront showCode doc) = false :=
    Text.contains_eq_false_of_occurrences (occurrences_htmlFront hraw showCode) (by decide)
  exact Text.contains_eq_false_of_infix hnone hopener

/-- The report of a document without raw HTML gives its script back. -/
theorem extractSource_report_of_hasNoRaw (hraw : HasNoRaw doc) (showCode : Bool) :
    extractSource (report .html showCode doc) = .ok doc.sourceText := by
  rw [report_html, extractSource_htmlReport_iff]
  exact contains_htmlOpener_htmlFront hraw showCode

end ScriptReport.Report.Html

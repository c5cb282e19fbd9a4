/-
  ScriptReport.Proofs.Report.HtmlFragment

  The markup of what HTML reports are made of. Each fragment is written as elements with escaped
  text in them, so its markup can be told without looking at the texts: the functions below give it
  for tokens, items and results, and each fragment is a passage with just this markup
  (`passage_item`).
-/

import ScriptReport.Proofs.Html.Nesting
import ScriptReport.Proofs.Script.Link
import ScriptReport.Report.Render

namespace ScriptReport.Report.Html

open ScriptReport.Html (Markup Passage IsPlain IsWritable escape isName element elementText
  openingText closingText attributeText voidElements passage_concatMap passage_nil
  passage_of_isPlain passage_void isPlain_escape isWritable_escape)
open ScriptReport.Script

/-! ## Fragments as elements -/

theorem pre_eq (cls text : Chars) :
    pre cls text = elementText "pre" [("class", cls)] (escape text) ++ "\n" := by
  unfold pre
  simp [elementText, openingText, closingText, attributeText, Text.concatMap]

theorem link_eq (url label : Chars) :
    backEnd.link url label = elementText "a" [("href", escape url)] label := by
  unfold backEnd
  simp [elementText, openingText, closingText, attributeText, Text.concatMap]

theorem styled_eq (style : Style) (rendered : Chars) :
    backEnd.styled style rendered = elementText (styleElement style) [] rendered := by
  unfold backEnd
  simp [elementText, openingText, closingText, Text.concatMap]

theorem text_eq (rendered : Chars) :
    backEnd.text rendered = elementText "p" [] rendered ++ "\n" := by
  unfold backEnd
  simp [elementText, openingText, closingText, Text.concatMap]

theorem list_eq (name : Chars) (items : List Chars) :
    list name items = elementText name [] (Text.concatMap (elementText "li" []) items) ++ "\n" := by
  have hitem : (fun item : Chars => "<li>" ++ item ++ "</li>") = elementText "li" [] := by
    funext item
    simp [elementText, openingText, closingText, Text.concatMap]
  unfold list
  rw [hitem]
  simp [elementText, openingText, closingText, Text.concatMap]

theorem image_eq (path : Chars) :
    image path = openingText "img" [("src", escape path), ("alt", escape path)] := by
  unfold image
  simp [openingText, attributeText, Text.concatMap]

theorem gallery_eq (paths : List Chars) :
    backEnd.gallery paths =
      elementText "div" [("class", "oct-figures")] (Text.concatMap image paths) ++ "\n" := by
  unfold backEnd
  simp [elementText, openingText, closingText, attributeText, Text.concatMap]

theorem included_eq (path text : Chars) :
    included path (some text) =
      elementText "pre" [("class", "oct-code"), ("data-include", escape path)] (escape text) ++
        "\n" := by
  unfold included
  simp [elementText, openingText, closingText, attributeText, Text.concatMap]

/-! ## The markup of running text -/

mutual

/-- The markup of a token. -/
def tokenTags : Inline → List Markup
  | .link target => element "a" [("href", escape (unpackLink target).1)] []
  | .span style children => element (styleElement style) [] (tokensTags children)
  | _ => []

/-- The markup of tokens, in order. -/
def tokensTags : List Inline → List Markup
  | [] => []
  | token :: rest => tokenTags token ++ tokensTags rest

end

/-- The markup of running text. -/
def inlineTags (text : Chars) : List Markup := tokensTags (readInline text)

variable {elements : List Chars}

/-- An element without attributes around a passage. -/
theorem passage_bare {name inside : Chars} {ms : List Markup} (hname : isName name = true)
    (hvoid : voidElements.contains name = false)
    (h : Passage (name :: elements) inside ms (name :: elements)) :
    Passage elements (elementText name [] inside) (element name [] ms) elements :=
  h.element hname (fun _ ha => absurd ha List.not_mem_nil) hvoid

theorem styleElement_ok (style : Style) :
    isName (styleElement style) = true ∧ voidElements.contains (styleElement style) = false := by
  cases style <;> decide

mutual

theorem passage_token : ∀ (elements : List Chars) (token : Inline),
    Passage elements (renderToken backEnd token) (tokenTags token) elements
  | _, .plain text => passage_of_isPlain (isPlain_escape text)
  | elements, .link target => by
    rw [renderToken, link_eq, tokenTags]
    refine Passage.element (passage_of_isPlain (isPlain_escape _)) (by decide) ?_ (by decide)
    rw [List.forall_mem_singleton]
    exact isWritable_escape (by decide) _
  | _, .mathInline source => by
    refine passage_of_isPlain (IsPlain.append (IsPlain.append ?_ (isPlain_escape source)) ?_)
    · decide
    · decide
  | _, .mathBlock source => by
    refine passage_of_isPlain (IsPlain.append (IsPlain.append ?_ (isPlain_escape source)) ?_)
    · decide
    · decide
  | _, .trademark => passage_of_isPlain (by decide)
  | _, .registered => passage_of_isPlain (by decide)
  | elements, .span style children => by
    obtain ⟨hname, hvoid⟩ := styleElement_ok style
    rw [renderToken, styled_eq, tokenTags]
    exact passage_bare hname hvoid (passage_tokens _ children)

theorem passage_tokens : ∀ (elements : List Chars) (tokens : List Inline),
    Passage elements (renderTokens backEnd tokens) (tokensTags tokens) elements
  | _, [] => passage_nil
  | elements, token :: rest =>
    (passage_token elements token).append (passage_tokens elements rest)

end

theorem passage_inline (text : Chars) :
    Passage elements (renderInline backEnd text) (inlineTags text) elements :=
  passage_tokens elements (readInline text)

/-! ## The markup of items -/

/-- The markup of preformatted text. -/
def preTags (cls : Chars) : List Markup := element "pre" [("class", cls)] []

/-- The markup of a list of running texts. -/
def listTags (name : Chars) (items : List Chars) : List Markup :=
  element name [] (items.flatMap fun item => element "li" [] (inlineTags item))

/-- The markup of an image. -/
def imageTags (path : Chars) : List Markup :=
  [.opening "img" [("src", some (escape path)), ("alt", some (escape path))]]

/-- The markup of an item. Raw regions count as none. -/
def itemTags : Item → List Markup
  | .text text => (paragraphs text).flatMap fun p => element "p" [] (inlineTags p)
  | .codeLiteral _ => preTags "pre-code"
  | .preformatted _ => preTags "pre-text"
  | .bulletedList items => listTags "ul" items
  | .numberedList items => listTags "ol" items
  | .included path (some _) =>
    element "pre" [("class", "oct-code"), ("data-include", escape path)] []
  | .included _ none => []
  | .graphic path => imageTags path
  | .html _ => []
  | .latex _ => []

theorem passage_pre {cls : Chars} (hcls : IsWritable ("class", cls)) (text : Chars) :
    Passage elements (pre cls text) (preTags cls) elements := by
  rw [pre_eq]
  refine Passage.line (Passage.element (passage_of_isPlain (isPlain_escape text)) (by decide) ?_
    (by decide))
  rwa [List.forall_mem_singleton]

theorem passage_list {name : Chars} (hname : isName name = true)
    (hvoid : voidElements.contains name = false) (items : List Chars) :
    Passage elements (list name (items.map (renderInline backEnd))) (listTags name items)
      elements := by
  have hitems : Text.concatMap (elementText "li" []) (items.map (renderInline backEnd)) =
      Text.concatMap (fun item => elementText "li" [] (renderInline backEnd item)) items := by
    rw [Text.concatMap, List.map_map]
    rfl
  rw [list_eq, hitems]
  refine Passage.line (passage_bare hname hvoid (passage_concatMap fun item _ => ?_))
  exact passage_bare (by decide) (by decide) (passage_inline item)

theorem passage_image (path : Chars) :
    Passage elements (image path) (imageTags path) elements := by
  rw [image_eq]
  refine passage_void (by decide) ?_ (by decide)
  rw [List.forall_mem_cons, List.forall_mem_singleton]
  exact ⟨isWritable_escape (by decide) path, isWritable_escape (by decide) path⟩

/-- The item is a region of raw HTML. -/
def isRaw : Item → Bool
  | .html _ => true
  | _ => false

/-- An item that is no raw HTML is a passage with its markup. -/
theorem passage_item {item : Item} (hraw : isRaw item = false) :
    Passage elements (renderItem backEnd item) (itemTags item) elements := by
  cases item with
  | text text =>
    refine passage_concatMap fun p _ => ?_
    rw [text_eq]
    exact Passage.line (passage_bare (by decide) (by decide) (passage_inline p))
  | codeLiteral text => exact passage_pre (by decide) text
  | preformatted text => exact passage_pre (by decide) text
  | bulletedList items => exact passage_list (by decide) (by decide) items
  | numberedList items => exact passage_list (by decide) (by decide) items
  | included path text =>
    cases text with
    | none => exact passage_nil
    | some text =>
      -- the path is the value of an attribute, and the text stands in the element
      change Passage elements (included path (some text)) _ elements
      rw [included_eq]
      refine Passage.line (Passage.element (passage_of_isPlain (isPlain_escape text)) (by decide) ?_
        (by decide))
      rw [List.forall_mem_cons, List.forall_mem_singleton]
      exact ⟨by decide, isWritable_escape (by decide) path⟩
  | graphic path => exact Passage.line (passage_image path)
  | html raw => cases hraw
  | latex raw => exact passage_nil

theorem passage_items {items : List Item} (hraw : ∀ item ∈ items, isRaw item = false) :
    Passage elements (renderItems backEnd items) (items.flatMap itemTags) elements :=
  passage_concatMap fun item hitem => passage_item (hraw item hitem)

/-! ## The markup of code -/

/-- The markup of captured output and figures. -/
def resultTags (result : ExecutionResult) : List Markup :=
  (if result.outputLines = [] then []
   else preTags (if result.error.isSome then "oct-code-output error" else "oct-code-output")) ++
  (if result.graphics = [] then []
   else element "div" [("class", "oct-figures")] (result.graphics.flatMap imageTags))

/-- The markup of a code segment. -/
def codeTags (showCode : Bool) (segment : CodeSegment) : List Markup :=
  (if showCode then preTags "oct-code" else []) ++ (segment.result.map resultTags).getD []

theorem passage_result (result : ExecutionResult) :
    Passage elements (renderResult backEnd result) (resultTags result) elements := by
  unfold renderResult resultTags
  have houtput : Passage elements
      (if result.outputLines = [] then []
       else backEnd.codeOutput (Text.unlines result.outputLines) result.error.isSome)
      (if result.outputLines = [] then []
       else preTags (if result.error.isSome then "oct-code-output error" else "oct-code-output"))
      elements := by
    split
    · exact passage_nil
    · refine passage_pre ?_ _
      split <;> decide
  -- figures follow what was printed
  apply houtput.append
  split
  · exact passage_nil
  · rw [gallery_eq]
    refine Passage.line (Passage.element (passage_concatMap fun path _ => passage_image path)
      (by decide) ?_ (by decide))
    rw [List.forall_mem_singleton]
    decide

theorem passage_code (showCode : Bool) (segment : CodeSegment) :
    Passage elements (renderCode backEnd showCode segment) (codeTags showCode segment)
      elements := by
  unfold renderCode codeTags
  have hshown : Passage elements (if showCode then backEnd.code segment.code else [])
      (if showCode then preTags "oct-code" else []) elements := by
    split
    · exact passage_pre (by decide) _
    · exact passage_nil
  apply hshown.append
  cases segment.result with
  | none => exact passage_nil
  | some result => exact passage_result result

/-! ## What fragments refer to -/

/-- The markup is no comment, and what it refers to has one of the schemes of links. -/
def IsInert (m : Markup) : Prop := m.isComment = false ∧ ∀ url ∈ m.references, HasScheme url

/-- Each piece of the markup is inert. -/
def AllInert (ms : List Markup) : Prop := ∀ m ∈ ms, IsInert m

theorem allInert_nil : AllInert [] := fun _ hm => absurd hm List.not_mem_nil

theorem AllInert.append {ms ns : List Markup} (hm : AllInert ms) (hn : AllInert ns) :
    AllInert (ms ++ ns) :=
  List.forall_mem_append.mpr ⟨hm, hn⟩

theorem allInert_flatMap {α : Type} {f : α → List Markup} {xs : List α}
    (h : ∀ x ∈ xs, AllInert (f x)) : AllInert (xs.flatMap f) := by
  intro m hm
  obtain ⟨x, hx, hmx⟩ := List.mem_flatMap.mp hm
  exact h x hx m hmx

theorem allInert_opening {name : Chars} {attributes : List ScriptReport.Html.Attribute}
    (h : ∀ a ∈ attributes, a.1 = "href".toList → HasScheme (a.2.getD [])) :
    AllInert [.opening name attributes] := by
  intro m hm
  rw [List.mem_singleton] at hm
  subst hm
  refine ⟨rfl, fun url hurl => ?_⟩
  obtain ⟨a, ha, rfl⟩ := List.mem_map.mp hurl
  obtain ⟨hmem, hname⟩ := List.mem_filter.mp ha
  exact h a hmem (of_decide_eq_true hname)

theorem allInert_closing (name : Chars) : AllInert [.closing name] := by
  intro m hm
  rw [List.mem_singleton] at hm
  subst hm
  exact ⟨rfl, fun _ hurl => absurd hurl List.not_mem_nil⟩

/-- An element is inert if its attributes and what is in it are. -/
theorem AllInert.element {name : Chars} {attributes : List (Chars × Chars)} {ms : List Markup}
    (h : AllInert ms) (hattrs : ∀ a ∈ attributes, a.1 = "href".toList → HasScheme a.2) :
    AllInert (element name attributes ms) := by
  have hopening : AllInert [.opening name (attributes.map fun a => (a.1, some a.2))] :=
    allInert_opening (List.forall_mem_map.mpr hattrs)
  exact hopening.append (h.append (allInert_closing name))

/-- An element that refers to nothing is inert if what is in it is. -/
theorem AllInert.unlinked {name : Chars} {attributes : List (Chars × Chars)} {ms : List Markup}
    (h : AllInert ms) (hattrs : "href".toList ∉ attributes.map Prod.fst) :
    AllInert (ScriptReport.Html.element name attributes ms) :=
  h.element fun a ha hname => absurd (List.mem_map.mpr ⟨a, ha, hname⟩) hattrs

/-- Escaping leaves a scheme as it is. -/
theorem hasScheme_escape {url : Chars} (h : HasScheme url) : HasScheme (escape url) := by
  obtain ⟨scheme, hscheme, rest, rfl⟩ := h
  have hsame : ∀ scheme ∈ linkSchemes, escape scheme = scheme := by decide
  have happend : escape (scheme ++ rest) = escape scheme ++ escape rest := by
    simp [escape, Text.concatMap]
  -- no scheme has a character that is escaped
  refine ⟨scheme, hscheme, ?_⟩
  rw [happend, hsame scheme hscheme]
  exact List.prefix_append _ _

mutual

theorem allInert_token : ∀ token : Inline,
    (∀ target ∈ token.links, HasScheme (unpackLink target).1) → AllInert (tokenTags token)
  | .link target, h => by
    apply allInert_nil.element
    rw [List.forall_mem_singleton]
    exact fun _ => hasScheme_escape (h target List.mem_cons_self)
  | .span _ children, h => (allInert_tokens children h).unlinked (by decide)
  | .plain _, _ => allInert_nil
  | .mathInline _, _ => allInert_nil
  | .mathBlock _, _ => allInert_nil
  | .trademark, _ => allInert_nil
  | .registered, _ => allInert_nil

theorem allInert_tokens : ∀ tokens : List Inline,
    (∀ target ∈ linksOf tokens, HasScheme (unpackLink target).1) → AllInert (tokensTags tokens)
  | [], _ => allInert_nil
  | token :: rest, h =>
    (allInert_token token fun target ht => h target (List.mem_append_left _ ht)).append
      (allInert_tokens rest fun target ht => h target (List.mem_append_right _ ht))

end

theorem allInert_inline (text : Chars) : AllInert (inlineTags text) :=
  allInert_tokens _ fun _ ht => hasScheme_of_mem_linksOf ht

theorem allInert_pre (cls : Chars) : AllInert (preTags cls) :=
  allInert_nil.unlinked (show "href".toList ∉ ["class".toList] by decide)

theorem allInert_list (name : Chars) (items : List Chars) : AllInert (listTags name items) :=
  (allInert_flatMap fun item _ => (allInert_inline item).unlinked (by decide)).unlinked (by decide)

theorem allInert_image (path : Chars) : AllInert (imageTags path) := by
  apply allInert_opening
  rw [List.forall_mem_cons, List.forall_mem_singleton]
  have hsrc : "src".toList ≠ "href".toList := by decide
  have halt : "alt".toList ≠ "href".toList := by decide
  exact ⟨fun h => absurd h hsrc, fun h => absurd h halt⟩

theorem allInert_item (item : Item) : AllInert (itemTags item) := by
  cases item with
  | text text => exact allInert_flatMap fun p _ => (allInert_inline p).unlinked (by decide)
  | codeLiteral text => exact allInert_pre _
  | preformatted text => exact allInert_pre _
  | bulletedList items => exact allInert_list _ items
  | numberedList items => exact allInert_list _ items
  | included path text =>
    cases text with
    | none => exact allInert_nil
    | some text =>
      exact allInert_nil.unlinked
        (show "href".toList ∉ ["class".toList, "data-include".toList] by decide)
  | graphic path => exact allInert_image path
  | html raw => exact allInert_nil
  | latex raw => exact allInert_nil

theorem allInert_code (showCode : Bool) (segment : CodeSegment) :
    AllInert (codeTags showCode segment) := by
  have hresult : ∀ result : ExecutionResult, AllInert (resultTags result) := by
    intro result
    apply AllInert.append
    · split
      · exact allInert_nil
      · exact allInert_pre _
    · split
      · exact allInert_nil
      · exact (allInert_flatMap fun path _ => allInert_image path).unlinked (by decide)
  apply AllInert.append
  · split
    · exact allInert_pre _
    · exact allInert_nil
  · cases segment.result with
    | none => exact allInert_nil
    | some result => exact hresult result

end ScriptReport.Report.Html

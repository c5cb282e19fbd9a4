/-
  ScriptReport.Proofs.Report.LatexPage

  The groups of LaTeX reports. What a script says is escaped where it is text; the addresses of
  links and the paths of graphics are written into braces with less or no escaping, and the lines of
  code, output, files and the script itself go into environments that are not read. So if a report
  has no formulas and no regions of LaTeX and none of the lines ends its environment, the report and
  all that is written into groups in it are balanced exactly if these addresses and paths are. Main
  statement: `latex_report_isBalanced_iff`.
-/

import ScriptReport.Proofs.Report.LatexReading
import ScriptReport.Report.Render

namespace ScriptReport.Report.Latex

open ScriptReport.Script

/-! ## What is written into braces -/

/-- An argument in braces, made of what a script says. -/
structure Argument where
  /-- What the script says in it is escaped, and not the address of a link or a path. -/
  isEscaped : Bool
  text : Chars
  deriving DecidableEq, Repr

/-- Each of the arguments is balanced, so that it cannot close or take in the group around it. -/
def AreBalanced (arguments : List Argument) : Prop :=
  ∀ argument ∈ arguments, IsBalanced argument.text

/-- Each address and path of the arguments is balanced. -/
def AreContained (arguments : List Argument) : Prop :=
  ∀ argument ∈ arguments, argument.isEscaped = false → IsBalanced argument.text

instance (arguments : List Argument) : Decidable (AreContained arguments) :=
  inferInstanceAs (Decidable (∀ _ ∈ _, _))

mutual

/-- The arguments that a token writes. -/
def tokenArguments : Inline → List Argument
  | .link target =>
    [⟨false, escapeUrl (unpackLink target).1⟩, ⟨true, escape (unpackLink target).2⟩]
  | .span _ children => ⟨true, renderTokens backEnd children⟩ :: tokensArguments children
  | _ => []

/-- The arguments that tokens write. -/
def tokensArguments : List Inline → List Argument
  | [] => []
  | token :: rest => tokenArguments token ++ tokensArguments rest

end

/-- The arguments that running text writes. -/
def inlineArguments (text : Chars) : List Argument := tokensArguments (readInline text)

/-- The running texts of an item. -/
def runningTexts : Item → List Chars
  | .text text => paragraphs text
  | .bulletedList items => items
  | .numberedList items => items
  | _ => []

/-- The arguments that an item writes. -/
def itemArguments : Item → List Argument
  | .graphic path => [⟨false, path⟩]
  | .included path (some _) => [⟨true, escape path⟩]
  | item => (runningTexts item).flatMap inlineArguments

/-! ## Formulas and lines -/

mutual

/-- A formula stands in the token. -/
def hasFormula : Inline → Bool
  | .mathInline _ => true
  | .mathBlock _ => true
  | .span _ children => anyFormula children
  | _ => false

/-- A formula stands in one of the tokens. -/
def anyFormula : List Inline → Bool
  | [] => false
  | token :: rest => hasFormula token || anyFormula rest

end

/-- The running text has no formulas. -/
def isPlainText (text : Chars) : Bool := !anyFormula (readInline text)

/-- The item is no region of LaTeX and has no formulas. -/
def isPlainItem : Item → Bool
  | .latex _ => false
  | item => (runningTexts item).all isPlainText

/-- The lines of an item that are not read, with the environment around them. -/
def itemLines : Item → List (RawEnvironment × Chars)
  | .codeLiteral text => [(.listing, text)]
  | .preformatted text => [(.verbatim, text)]
  | .included _ (some text) => [(.listing, text)]
  | _ => []

/-! ## Running text -/

variable {text : Chars} {arguments others : List Argument}

theorem AreContained.append_iff : AreContained (arguments ++ others) ↔
    AreContained arguments ∧ AreContained others := List.forall_mem_append

theorem AreBalanced.append (h : AreBalanced arguments) (ho : AreBalanced others) :
    AreBalanced (arguments ++ others) := List.forall_mem_append.mpr ⟨h, ho⟩

theorem areBalanced_nil : AreBalanced [] := fun _ h => absurd h List.not_mem_nil

theorem isBalanced_escape (text : Chars) : IsBalanced (escape text) :=
  (leads_escape (flows_inText 0) text).isBalanced

mutual

/-- A token leads nowhere else at any depth, if the addresses in it are balanced. -/
theorem leads_token : ∀ (depth : Nat) (token : Inline), hasFormula token = false →
    AreContained (tokenArguments token) →
    Leads (.inText depth) (renderToken backEnd token) (.inText depth)
  | depth, .plain text, _, _ => leads_escape (flows_inText depth) text
  | depth, .link target, _, h => by
    have hcommand : Leads (.inText depth) ('\\' :: "href") (.inText depth) :=
      leads_name (flows_inText depth).reads (by decide)
    have haddress := leads_argument (h _ List.mem_cons_self rfl) depth
    have hlabel : Leads (.inText depth) (group (escape (unpackLink target).2)) (.inText depth) :=
      leads_group (flows_inText depth).reads (leads_escape (flows_inText _) _)
    exact (hcommand.append haddress).append hlabel
  | _, .mathInline _, hformula, _ => nomatch hformula
  | _, .mathBlock _, hformula, _ => nomatch hformula
  | depth, .trademark, _, _ => leads_command (flows_inText depth).reads (by decide) Leads.nil
  | depth, .registered, _, _ => leads_command (flows_inText depth).reads (by decide) Leads.nil
  | depth, .span style children, hformula, h => by
    have hstyle : IsPlainName (styleCommand style) := by cases style <;> decide
    have hinside := leads_tokens (depth + 1) children hformula (List.forall_mem_cons.mp h).2
    exact leads_command (flows_inText depth).reads hstyle hinside

theorem leads_tokens : ∀ (depth : Nat) (tokens : List Inline), anyFormula tokens = false →
    AreContained (tokensArguments tokens) →
    Leads (.inText depth) (renderTokens backEnd tokens) (.inText depth)
  | _, [], _, _ => Leads.nil
  | depth, token :: rest, hformula, h => by
    rw [anyFormula, Bool.or_eq_false_iff] at hformula
    rw [tokensArguments, AreContained.append_iff] at h
    exact (leads_token depth token hformula.1 h.1).append
      (leads_tokens depth rest hformula.2 h.2)

end

mutual

/-- With the addresses, labels and styled texts are balanced too. -/
theorem areBalanced_token : ∀ token : Inline, hasFormula token = false →
    AreContained (tokenArguments token) → AreBalanced (tokenArguments token)
  | .plain _, _, _ => areBalanced_nil
  | .link target, _, h => by
    refine List.forall_mem_cons.mpr ⟨h _ List.mem_cons_self rfl, ?_⟩
    exact List.forall_mem_singleton.mpr (isBalanced_escape _)
  | .mathInline _, hformula, _ => nomatch hformula
  | .mathBlock _, hformula, _ => nomatch hformula
  | .trademark, _, _ => areBalanced_nil
  | .registered, _, _ => areBalanced_nil
  | .span style children, hformula, h => by
    have hchildren := (List.forall_mem_cons.mp h).2
    have hinside := (leads_tokens 0 children hformula hchildren).isBalanced
    exact List.forall_mem_cons.mpr ⟨hinside, areBalanced_tokens children hformula hchildren⟩

theorem areBalanced_tokens : ∀ tokens : List Inline, anyFormula tokens = false →
    AreContained (tokensArguments tokens) → AreBalanced (tokensArguments tokens)
  | [], _, _ => areBalanced_nil
  | token :: rest, hformula, h => by
    rw [anyFormula, Bool.or_eq_false_iff] at hformula
    rw [tokensArguments, AreContained.append_iff] at h
    exact (areBalanced_token token hformula.1 h.1).append
      (areBalanced_tokens rest hformula.2 h.2)

end

/-- A fragment that leads nowhere else, with arguments that are all balanced, if the addresses and
    paths among them are. -/
def IsSound (arguments : List Argument) (text : Chars) : Prop :=
  AreContained arguments → Leads {} text {} ∧ AreBalanced arguments

variable {a b : Chars}

theorem IsSound.append (ha : IsSound arguments a) (hb : IsSound others b) :
    IsSound (arguments ++ others) (a ++ b) := by
  intro h
  obtain ⟨hfirst, hsecond⟩ := AreContained.append_iff.mp h
  exact ⟨(ha hfirst).1.append (hb hsecond).1, (ha hfirst).2.append (hb hsecond).2⟩

theorem IsSound.line (h : IsSound arguments a) : IsSound arguments (a ++ "\n") :=
  fun hcontained => ⟨(h hcontained).1.append (leads_lineEnd (flows_inText 0)), (h hcontained).2⟩

/-- A fragment without arguments. -/
theorem isSound_of_leads (h : Leads {} a {}) : IsSound [] a := fun _ => ⟨h, areBalanced_nil⟩

theorem isSound_nil : IsSound [] [] := isSound_of_leads Leads.nil

theorem isSound_concatMap {α : Type} {f : α → Chars} {args : α → List Argument} {xs : List α}
    (h : ∀ x ∈ xs, IsSound (args x) (f x)) : IsSound (xs.flatMap args) (Text.concatMap f xs) := by
  induction xs with
  | nil => exact isSound_nil
  | cons x rest ih =>
    rw [List.forall_mem_cons] at h
    exact h.1.append (ih h.2)

/-- A command with an escaped argument. -/
theorem isSound_command {name : Chars} (hname : IsPlainName name) (text : Chars) :
    IsSound [⟨true, escape text⟩] (command name (escape text)) := by
  refine fun _ => ⟨?_, List.forall_mem_singleton.mpr (isBalanced_escape text)⟩
  exact leads_command (flows_inText 0).reads hname (leads_escape (flows_inText 1) text)

/-- A graphic, its path as it is. -/
theorem isSound_graphic {name : Chars} (hname : IsPlainName name) (path : Chars) :
    IsSound [⟨false, path⟩] ('\\' :: name ++ group path ++ "\n") := by
  refine IsSound.line fun h => ?_
  have hpath : IsBalanced path := h _ List.mem_cons_self rfl
  refine ⟨?_, List.forall_mem_singleton.mpr hpath⟩
  exact (leads_name (flows_inText 0).reads hname).append (leads_argument hpath 0)

/-- An environment around a fragment. -/
theorem isSound_environment {name : Chars} (hbegin : IsBalanced (beginEnv name []))
    (hend : IsBalanced (endEnv name)) (h : IsSound arguments a) :
    IsSound arguments (environment name [] a) :=
  fun hcontained => ⟨leads_environment hbegin hend (h hcontained).1, (h hcontained).2⟩

theorem isSound_listing {options : Chars}
    (hbegin : scan {} (beginEnv RawEnvironment.listing.name options) =
      some RawEnvironment.listing.place)
    (h : RawEnvironment.listing.Keeps text) : IsSound [] (listing options text) :=
  isSound_of_leads (leads_listing (leads_beginEnv hbegin) h)

theorem isSound_inline (hplain : isPlainText text = true) :
    IsSound (inlineArguments text) (renderInline backEnd text) := by
  rw [isPlainText, Bool.not_eq_true'] at hplain
  exact fun h => ⟨leads_tokens 0 _ hplain h, areBalanced_tokens _ hplain h⟩

theorem isSound_list {name : Chars} {texts : List Chars} (hbegin : IsBalanced (beginEnv name []))
    (hend : IsBalanced (endEnv name)) (hplain : texts.all isPlainText = true) :
    IsSound (texts.flatMap inlineArguments) (list name (texts.map (renderInline backEnd))) := by
  have hitem : Leads {} ("\\item ".toList) {} :=
    leads_name (flows_inText 0).reads (show IsPlainName "item " by decide)
  have hbody : Text.concatMap (fun item => "\\item " ++ item ++ "\n")
      (texts.map (renderInline backEnd)) =
      Text.concatMap (fun text => "\\item " ++ renderInline backEnd text ++ "\n") texts := by
    rw [Text.concatMap, List.map_map]
    rfl
  rw [list, hbody]
  refine isSound_environment hbegin hend (isSound_concatMap fun text htext => ?_)
  have hinline := isSound_inline (List.all_eq_true.mp hplain text htext)
  exact ((isSound_of_leads hitem).append hinline).line

/-! ## Items -/

/-- A file that is shown, its path in the options of the listing. -/
theorem isSound_included (path : Chars) (htext : RawEnvironment.listing.Keeps text) :
    IsSound [⟨true, escape path⟩] (included path (some text)) := by
  -- the options are read in the line that begins the listing
  let options : Place := { mode := .options .listing 0 }
  have hoptions : options.Reads := ⟨rfl, le_refl 0⟩
  have hbegin : Leads {} (command "begin" RawEnvironment.listing.name) options :=
    leads_of_scan isBorder_brace (by decide) (by decide)
  have hstyle : Leads options "[style=source,title=".toList options :=
    leads_own hoptions (by decide)
  have htitle : Leads options (group (escape path)) options :=
    leads_group hoptions (leads_escape hoptions.inner path)
  have hend : Leads options "]\n".toList RawEnvironment.listing.place :=
    leads_of_scan isBorder_lineEnd (by decide) (by decide)
  have hline : Leads {} (beginEnv RawEnvironment.listing.name
      ("[style=source,title=" ++ group (escape path) ++ "]")) RawEnvironment.listing.place := by
    have heq : beginEnv RawEnvironment.listing.name
        ("[style=source,title=" ++ group (escape path) ++ "]") =
        command "begin" RawEnvironment.listing.name ++
          ("[style=source,title=".toList ++ (group (escape path) ++ "]\n".toList)) := by
      simp [beginEnv]
    rw [heq]
    exact hbegin.append (hstyle.append (htitle.append hend))
  exact fun _ => ⟨leads_listing hline htext, List.forall_mem_singleton.mpr (isBalanced_escape path)⟩

variable {item : Item} {items : List Item}

/-- Items other than regions of LaTeX are sound if their lines do not end what is around them. -/
theorem isSound_item (hplain : isPlainItem item = true)
    (hlines : ∀ entry ∈ itemLines item, entry.1.Keeps entry.2) :
    IsSound (itemArguments item) (renderItem backEnd item) := by
  cases item with
  | text text =>
    refine isSound_concatMap fun p hp => ?_
    have hparagraph := isSound_inline (List.all_eq_true.mp hplain p hp)
    have heq : backEnd.text (renderInline backEnd p) = renderInline backEnd p ++ "\n" ++ "\n" := by
      rw [List.append_assoc]
      rfl
    rw [heq]
    exact hparagraph.line.line
  | codeLiteral text =>
    exact isSound_listing (by decide) (hlines (.listing, text) List.mem_cons_self)
  | preformatted text =>
    have hkeeps := hlines (.verbatim, text) List.mem_cons_self
    exact isSound_of_leads
      (leads_rawEnvironment (e := .verbatim) (leads_beginEnv (by decide)) (leads_raw hkeeps))
  | bulletedList items => exact isSound_list (by decide) (by decide) hplain
  | numberedList items => exact isSound_list (by decide) (by decide) hplain
  | included path text =>
    cases text with
    | none => exact isSound_nil
    | some text => exact isSound_included path (hlines (.listing, text) List.mem_cons_self)
  | graphic path =>
    refine isSound_environment (by decide) (by decide) ?_
    exact isSound_graphic (show IsPlainName "includegraphics" by decide) path
  | html raw => exact isSound_nil
  | latex raw => cases hplain

theorem isSound_items (hplain : ∀ item ∈ items, isPlainItem item = true)
    (hlines : ∀ entry ∈ items.flatMap itemLines, entry.1.Keeps entry.2) :
    IsSound (items.flatMap itemArguments) (renderItems backEnd items) := by
  rw [List.forall_mem_flatMap] at hlines
  exact isSound_concatMap fun item hitem => isSound_item (hplain item hitem) (hlines item hitem)

/-! ## Segments -/

/-- The items under a header. -/
def segmentItems : Segment → List Item
  | .code _ => []
  | .header segment => segment.content

/-- The arguments that a heading writes. -/
def headingArguments (title : Chars) : List Argument :=
  if title = [] then [] else [⟨true, escape title⟩]

/-- The arguments that figures write. -/
def figureArguments (result : ExecutionResult) : List Argument :=
  result.graphics.flatMap fun path => [⟨false, path⟩]

/-- The arguments that a segment writes. -/
def segmentArguments : Segment → List Argument
  | .code segment => (segment.result.map figureArguments).getD []
  | .header segment => headingArguments segment.title ++ segment.content.flatMap itemArguments

/-- The lines of captured output. -/
def resultLines (result : ExecutionResult) : List (RawEnvironment × Chars) :=
  [(.listing, Text.unlines result.outputLines)]

/-- The lines of a segment that are not read, with the environment around them. -/
def segmentLines (showCode : Bool) : Segment → List (RawEnvironment × Chars)
  | .code segment =>
    (if showCode then [(.listing, segment.code)] else []) ++
      (segment.result.map resultLines).getD []
  | .header segment => segment.content.flatMap itemLines

variable {showCode : Bool} {segment : Segment}

theorem isSound_result {result : ExecutionResult}
    (hlines : ∀ entry ∈ resultLines result, entry.1.Keeps entry.2) :
    IsSound (figureArguments result) (renderResult backEnd result) := by
  have houtput : IsSound [] (if result.outputLines = [] then []
      else backEnd.codeOutput (Text.unlines result.outputLines) result.error.isSome) := by
    split
    · exact isSound_nil
    · refine isSound_listing ?_ (hlines (.listing, _) List.mem_cons_self)
      cases result.error.isSome <;> decide
  have hgallery : IsSound (figureArguments result)
      (if result.graphics = [] then [] else backEnd.gallery result.graphics) := by
    split
    · next hnone => rw [figureArguments, hnone]; exact isSound_nil
    · refine isSound_environment (by decide) (by decide) (isSound_concatMap fun path _ => ?_)
      exact isSound_graphic (show IsPlainName "includegraphics[scale=0.6]" by decide) path
  exact houtput.append hgallery

theorem isSound_code {segment : CodeSegment}
    (hlines : ∀ entry ∈ segmentLines showCode (.code segment), entry.1.Keeps entry.2) :
    IsSound (segmentArguments (.code segment)) (renderCode backEnd showCode segment) := by
  obtain ⟨hcode, hresult⟩ := List.forall_mem_append.mp hlines
  have hshown : IsSound [] (if showCode then backEnd.code segment.code else []) := by
    cases showCode with
    | true => exact isSound_listing (by decide) (hcode (.listing, _) List.mem_cons_self)
    | false => exact isSound_nil
  unfold renderCode segmentArguments
  refine hshown.append ?_
  cases h : segment.result with
  | none => exact isSound_nil
  | some result =>
    rw [h] at hresult
    exact isSound_result hresult

theorem isSound_label (s : State) : IsSound [] (label s).1 := by
  have hnumber : Leads (Place.inText 1) ("node" ++ Text.ofNat s.counter) (.inText 1) := by
    have hdigits : (Text.ofNat s.counter).all isOwn = true := List.all_eq_true.mpr fun c hc =>
      isOwn_of_isDigit (Nat.isDigit_of_mem_toDigits (by decide) (by decide) hc)
    refine leads_own (flows_inText 1).reads ?_
    rw [List.all_append, hdigits]
    decide
  have hcommand : Leads {} (command "label" ("node" ++ Text.ofNat s.counter)) {} :=
    leads_command (flows_inText 0).reads (by decide) hnumber
  exact (isSound_of_leads hcommand).line

theorem isSound_section (title : Chars) (s : State) :
    IsSound (headingArguments title) (section_ title s).1 := by
  unfold section_ headingArguments
  split
  · show IsSound [] "\\bigskip\n".toList
    exact isSound_of_leads (leads_of_scan isBorder_lineEnd (by decide) (by decide))
  · exact (isSound_command (show IsPlainName "section" by decide) title).append (isSound_label s)

/-- A heading that is listed in the contents writes its title twice. -/
theorem isSound_sectionNoBreak (title : Chars) (s : State) :
    IsSound (headingArguments title) (sectionNoBreak title s).1 := by
  unfold sectionNoBreak headingArguments
  split
  · exact isSound_nil
  · have hcommand : Leads {} (command "addcontentsline" "toc") {} :=
      leads_of_scan isBorder_brace (by decide) (by decide)
    have hlevel : Leads {} (group "subsection") {} :=
      leads_of_scan isBorder_brace (by decide) (by decide)
    have htitle : Leads {} (group (escape title)) {} :=
      leads_group (flows_inText 0).reads (leads_escape (flows_inText 1) title)
    have hheading : IsSound [⟨true, escape title⟩]
        (command "subsection*" (escape title) ++ (label s).1) :=
      (isSound_command (by decide) title).append (isSound_label s)
    exact (((hheading.append (isSound_of_leads hcommand)).append (isSound_of_leads hlevel)).append
      (isSound_of_leads htitle)).line

/-- The fragment of one segment, in any state. -/
theorem isSound_segment (hplain : ∀ item ∈ segmentItems segment, isPlainItem item = true)
    (hlines : ∀ entry ∈ segmentLines showCode segment, entry.1.Keeps entry.2) (s : State) :
    IsSound (segmentArguments segment) (renderSegment backEnd showCode segment s).1 := by
  cases segment with
  | code segment => exact isSound_code hlines
  | header segment =>
    unfold renderSegment segmentArguments
    refine IsSound.append ?_ (isSound_items hplain hlines)
    split
    · exact isSound_section segment.title s
    · exact isSound_sectionNoBreak segment.title s

/-- The fragments of all segments of a body. -/
theorem isSound_body {segments : List Segment}
    (hplain : ∀ item ∈ segments.flatMap segmentItems, isPlainItem item = true)
    (hlines : ∀ entry ∈ segments.flatMap (segmentLines showCode), entry.1.Keeps entry.2)
    (s : State) :
    IsSound (segments.flatMap segmentArguments) (renderBody backEnd showCode segments s).1 := by
  induction segments generalizing s with
  | nil => exact isSound_nil
  | cons segment rest ih =>
    rw [List.flatMap_cons, List.forall_mem_append] at hplain hlines
    exact (isSound_segment hplain.1 hlines.1 s).append (ih hplain.2 hlines.2 _)

/-! ## Whole reports -/

/-- The items of a document. -/
def documentItems (doc : Document) : List Item := doc.intro ++ doc.body.flatMap segmentItems

/-- The arguments that the report of a document writes. -/
def documentArguments (doc : Document) : List Argument :=
  ⟨true, escape doc.shownTitle⟩ :: doc.intro.flatMap itemArguments ++
    doc.body.flatMap segmentArguments

/-- The lines of a document that are not read, with the environment around them. The last are those
    of the script itself. -/
def documentLines (showCode : Bool) (doc : Document) : List (RawEnvironment × Chars) :=
  doc.intro.flatMap itemLines ++ doc.body.flatMap (segmentLines showCode) ++
    [(.comment, doc.sourceText)]

/-- The document has no formulas and no regions of LaTeX. -/
def HasNoLatex (doc : Document) : Prop := ∀ item ∈ documentItems doc, isPlainItem item = true

/-- The lines that are not read do not end the environments around them. -/
def KeepsLines (showCode : Bool) (doc : Document) : Prop :=
  ∀ entry ∈ documentLines showCode doc, entry.1.Keeps entry.2

instance (doc : Document) : Decidable (HasNoLatex doc) := inferInstanceAs (Decidable (∀ _ ∈ _, _))

instance (showCode : Bool) (doc : Document) : Decidable (KeepsLines showCode doc) :=
  inferInstanceAs (Decidable (∀ _ ∈ _, _))

theorem leads_preamble : Leads {} preamble {} :=
  leads_of_scan isBorder_lineEnd (by decide +kernel) (by decide +kernel)

theorem isSound_header (title : Chars) {intro : Chars} (hintro : IsSound arguments intro)
    (contents : List (Chars × Bool)) :
    IsSound (⟨true, escape title⟩ :: arguments) (header title intro contents) := by
  have hdocument : Leads {} (beginEnv "document" []) {} := leads_beginEnv (by decide)
  have htitle : IsSound [⟨true, escape title⟩] (commandLine "title" (escape title)) :=
    (isSound_command (by decide) title).line
  have hdate : Leads {} (commandLine "date" []) {} :=
    leads_of_scan isBorder_lineEnd (by decide) (by decide)
  have hmake : Leads {} "\\maketitle\n".toList {} :=
    leads_of_scan isBorder_lineEnd (by decide) (by decide)
  have hcontents : Leads {} (if contents = [] then [] else "\\tableofcontents\n".toList) {} := by
    split
    · exact Leads.nil
    · exact leads_of_scan isBorder_lineEnd (by decide) (by decide)
  have hfront := (isSound_of_leads (leads_preamble.append hdocument)).append htitle
  have hshown := (hfront.append (isSound_of_leads hdate)).append (isSound_of_leads hmake)
  have hall := (hshown.append hintro).append (isSound_of_leads hcontents)
  rwa [List.append_nil] at hall

theorem leads_footer {source : Chars} (h : RawEnvironment.comment.Keeps source) (s : State) :
    Leads {} (footer source s).1 {} := by
  have hbegin : RawEnvironment.comment.Keeps sourceBegin := by decide
  have hend : RawEnvironment.comment.Keeps sourceEnd := by decide
  have heq : sourceBegin ++ "\n" ++ source ++ "\n" ++ sourceEnd ++ "\n" =
      (sourceBegin ++ "\n") ++ ((source ++ "\n") ++ (sourceEnd ++ "\n")) := by
    simp only [List.append_assoc]
  have hlines := (leads_raw hbegin).append ((leads_raw h).append (leads_raw hend))
  have hcomment : Leads {} (environment "comment" []
      (sourceBegin ++ "\n" ++ source ++ "\n" ++ sourceEnd ++ "\n")) {} := by
    rw [heq]
    exact leads_rawEnvironment (e := .comment) (leads_beginEnv (by decide)) hlines
  exact hcomment.append (leads_of_scan isBorder_lineEnd (by decide) (by decide))

variable {doc : Document}

theorem isSound_report (before : State) (hplain : HasNoLatex doc)
    (hlines : KeepsLines showCode doc) :
    IsSound (documentArguments doc) (renderDocument backEnd showCode doc before).1 := by
  rw [HasNoLatex, documentItems, List.forall_mem_append] at hplain
  rw [KeepsLines, documentLines, List.forall_mem_append, List.forall_mem_append] at hlines
  obtain ⟨⟨hintroLines, hbodyLines⟩, hsource⟩ := hlines
  have hheader := isSound_header doc.shownTitle (isSound_items hplain.1 hintroLines) doc.contents
  have hbody := isSound_body hplain.2 hbodyLines before.resetCounter
  have hfooter := leads_footer (hsource (.comment, _) List.mem_cons_self)
    (renderBody backEnd showCode doc.body before.resetCounter).2
  have hall := (hheader.append hbody).append (isSound_of_leads hfooter)
  rwa [List.append_nil] at hall

/-- A report without formulas and regions of LaTeX, whose lines do not end the environments around
    them, is balanced and so are all arguments in it, exactly if the addresses and paths are. -/
theorem latex_report_isBalanced_iff (before : State) (hplain : HasNoLatex doc)
    (hlines : KeepsLines showCode doc) :
    (IsBalanced (renderDocument backEnd showCode doc before).1 ∧
      AreBalanced (documentArguments doc)) ↔ AreContained (documentArguments doc) := by
  constructor
  · exact fun h argument hargument _ => h.2 argument hargument
  · intro h
    obtain ⟨hleads, hbalanced⟩ := isSound_report before hplain hlines h
    exact ⟨hleads.isBalanced, hbalanced⟩

/-- A script with braces in title, text, label, code and output. -/
def bracedScript : List Chars :=
  ["%% \x7bT\\", "% *see _<https://e.org/a%20b x\x7d % y>_*", "%", "% <<a_1.png>>", "x = '\x7d';"]

/-- The document of the script, its code run. -/
def bracedDocument : Document :=
  let doc := (Script.read ["%", "#"] [] bracedScript).1
  let result : ExecutionResult := { outputLines := ["x = \x7d"], graphics := ["fig_01_01.png"] }
  (doc.attach 1 result none).toOption.getD doc

theorem latex_report_of_bracedDocument :
    HasNoLatex bracedDocument ∧ KeepsLines true bracedDocument ∧
      IsBalanced (renderDocument backEnd true bracedDocument {}).1 ∧
      AreBalanced (documentArguments bracedDocument) := by
  have hplain : HasNoLatex bracedDocument := by decide +kernel
  have hlines : KeepsLines true bracedDocument := by decide +kernel
  have hcontained : AreContained (documentArguments bracedDocument) := by decide +kernel
  exact ⟨hplain, hlines, (latex_report_isBalanced_iff {} hplain hlines).mpr hcontained⟩

/-- The document of a script with a closing brace in an address and in a path. -/
def closingDocument : Document :=
  (Script.read ["%", "#"] []
    ["%% T", "% see <https://e.org/a\x7db x>", "%", "% <<a\x7db.png>>", "x = 1;"]).1

/-- The document of a script with a percent sign in a path. -/
def hidingDocument : Document :=
  (Script.read ["%", "#"] [] ["%% T", "% <<a%b.png>>", "x = 1;"]).1

/-- A closing brace closes the group around the address or path before its end, and a percent sign
    hides the brace that should close the group around the path. -/
theorem latex_report_notBalanced :
    HasNoLatex closingDocument ∧ KeepsLines true closingDocument ∧
      scan {} (report .latex true closingDocument) = none ∧
      HasNoLatex hidingDocument ∧ KeepsLines true hidingDocument ∧
      scan {} (report .latex true hidingDocument) = some { depth := 1 } := by
  refine ⟨?_, ?_, ?_, ?_, ?_, ?_⟩ <;> decide +kernel

/-! ## Addresses and paths that do no harm -/

/-- A path of characters that only stand for themselves is balanced. -/
theorem isBalanced_path {path : Chars} (h : path.all isOwn = true) : IsBalanced path :=
  Leads.isBalanced (leads_own (flows_inText 0).reads h)

/-- An address may have percent signs too. -/
theorem isBalanced_address {url : Chars} (h : ∀ c ∈ url, c = '%' ∨ isOwn c = true) :
    IsBalanced (escapeUrl url) := by
  have hreads : (Place.inText 0).Reads := (flows_inText 0).reads
  refine Leads.isBalanced (leads_concatMap fun c hc => ?_)
  show Leads (.inText 0) (escapeUrlChar c) (.inText 0)
  unfold escapeUrlChar
  split
  · next hspecial =>
    refine leads_escaped hreads ?_
    rintro rfl
    exact absurd hspecial (by decide)
  · next hspecial =>
    rcases h c hc with rfl | hown
    · exact absurd (by decide) hspecial
    · exact leads_own hreads (by rw [List.all_cons, hown]; rfl)

end ScriptReport.Report.Latex

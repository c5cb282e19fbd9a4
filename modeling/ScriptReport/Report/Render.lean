/-
  ScriptReport.Report.Render

  The walk over a document: from tokens, items and segments to a report in any format.
-/

import ScriptReport.Report.Html
import ScriptReport.Report.Latex
import ScriptReport.Script.Document
import ScriptReport.Settings.Options

namespace ScriptReport.Report

open ScriptReport.Script

/-! ## Formats -/

/-- The fragments of a format. -/
def backEnd : Format → BackEnd
  | .html => Html.backEnd
  | .latex => Latex.backEnd

/-! ## Running text -/

mutual

/-- The fragment of a token. -/
def renderToken (b : BackEnd) : Inline → Chars
  | .plain text => b.escape text
  | .link target => b.link (unpackLink target).1 (b.escape (unpackLink target).2)
  | .mathInline source => b.mathInline source
  | .mathBlock source => b.mathBlock source
  | .trademark => b.trademark
  | .registered => b.registered
  | .span style children => b.styled style (renderTokens b children)

/-- The fragments of tokens, one after another. -/
def renderTokens (b : BackEnd) : List Inline → Chars
  | [] => []
  | token :: rest => renderToken b token ++ renderTokens b rest

end

/-- Running text, its inline markup read. -/
def renderInline (b : BackEnd) (text : Chars) : Chars := renderTokens b (readInline text)

/-! ## Items -/

/-- The paragraphs of running text: its parts between empty lines that are not blank. -/
def paragraphs (text : Chars) : List Chars :=
  (Text.splitOn "\n\n" text).filter (!Text.isBlank ·)

/-- The fragment of an item. -/
def renderItem (b : BackEnd) : Item → Chars
  | .text text => Text.concatMap (fun p => b.text (renderInline b p)) (paragraphs text)
  | .codeLiteral text => b.preformattedCode text
  | .preformatted text => b.preformattedText text
  | .bulletedList items => b.bulletedList (items.map (renderInline b))
  | .numberedList items => b.numberedList (items.map (renderInline b))
  | .included path text => b.included path text
  | .graphic path => b.graphic path
  | .html raw => b.html raw
  | .latex raw => b.latex raw

/-- The fragments of items, one after another. -/
def renderItems (b : BackEnd) (items : List Item) : Chars := Text.concatMap (renderItem b) items

/-! ## Segments -/

/-- Captured output and figures, each left out if there is none. -/
def renderResult (b : BackEnd) (result : ExecutionResult) : Chars :=
  (if result.outputLines = [] then []
   else b.codeOutput (Text.unlines result.outputLines) result.error.isSome) ++
  (if result.graphics = [] then [] else b.gallery result.graphics)

/-- The fragment of code: the code itself if it is shown, then its result if it has one. -/
def renderCode (b : BackEnd) (showCode : Bool) (segment : CodeSegment) : Chars :=
  (if showCode then b.code segment.code else []) ++
  (match segment.result with
   | none => []
   | some result => renderResult b result)

/-- The fragment of a segment. -/
def renderSegment (b : BackEnd) (showCode : Bool) : Segment → State → Chars × State
  | .code segment, s => (renderCode b showCode segment, s)
  | .header segment, s =>
    let (heading, s) :=
      if segment.breaksSection then b.section_ segment.title s
      else b.sectionNoBreak segment.title s
    (heading ++ renderItems b segment.content, s)

/-- The fragments of segments, one after another. -/
def renderBody (b : BackEnd) (showCode : Bool) : List Segment → State → Chars × State
  | [], s => ([], s)
  | segment :: rest, s =>
    let (first, s) := renderSegment b showCode segment s
    let (others, s) := renderBody b showCode rest s
    (first ++ others, s)

/-! ## Documents -/

/-- The report of a document, by a renderer in the state that earlier calls have left. -/
def renderDocument (b : BackEnd) (showCode : Bool) (doc : Document) (before : State) :
    Chars × State :=
  let (start, s) := b.header doc.shownTitle (renderItems b doc.intro) doc.contents before
  let (body, s) := renderBody b showCode doc.body s
  let (stop, s) := b.footer doc.sourceText s
  (start ++ body ++ stop, s)

/-- The report of a document by a fresh renderer. -/
def report (format : Format) (showCode : Bool) (doc : Document) : Chars :=
  (renderDocument (backEnd format) showCode doc {}).1

end ScriptReport.Report

/-
  ScriptReport.Report.Renderer

  A renderer that is asked for single fragments: one of the report formats, or the bare contract,
  which has no fragments of its own and can only render what needs none.
-/

import ScriptReport.Report.Render

namespace ScriptReport.Report

open ScriptReport.Script

/-! ## Renderers -/

/-- A renderer. -/
inductive Renderer where
  | format (f : Format)
  | bare
  deriving DecidableEq, Repr

/-- Why a renderer has no answer. -/
inductive RendererFault where
  /-- A fragment is needed that the contract leaves open. -/
  | noFragment
  /-- Only HTML reports have section containers. -/
  | noContainer
  | unknownToken (kind : Chars)
  | unknownSegment (kind : Chars)
  deriving DecidableEq, Repr

/-- The text that reports the fault. -/
def RendererFault.message : RendererFault → Chars
  | .noFragment => []
  | .noContainer => "no section containers"
  | .unknownToken kind => "Unknown inline token: " ++ kind
  | .unknownSegment kind => "Unknown segment type: " ++ kind

namespace Renderer

/-! ## Fragments -/

/-- An answer, and the state after it. -/
abbrev Step (α : Type) := State → Except RendererFault α × State

/-- A fragment that depends on the state. -/
def fragmentIn (r : Renderer) (f : BackEnd → State → Chars × State) : Step Chars := fun s =>
  match r with
  | .format kind =>
    let (text, s) := f (backEnd kind) s
    (.ok text, s)
  | .bare => (.error .noFragment, s)

/-- A fragment that does not depend on the state. -/
def fragment (r : Renderer) (f : BackEnd → Chars) : Step Chars :=
  r.fragmentIn fun b s => (f b, s)

/-- The fragments that are made of one text and do not depend on the state, by their names. -/
def textFragments : List (Chars × (BackEnd → Chars → Chars)) :=
  [("escape", BackEnd.escape), ("code", BackEnd.code), ("preformatted_code", BackEnd.preformattedCode),
   ("preformatted_text", BackEnd.preformattedText), ("graphic", BackEnd.graphic),
   ("html", BackEnd.html), ("latex", BackEnd.latex), ("text", BackEnd.text),
   ("bold", (·.styled .bold)), ("italic", (·.styled .italic)),
   ("monospaced", (·.styled .monospaced)), ("math_inline", BackEnd.mathInline),
   ("math_block", BackEnd.mathBlock), ("trademark", fun b _ => b.trademark),
   ("registered_trademark", fun b _ => b.registered), ("render_inline", renderInline)]

/-- The fragment of a name, made of the given text. -/
def named? (r : Renderer) (name text : Chars) : Option (Step Chars) :=
  (textFragments.lookup name).map fun f => r.fragment (f · text)

/-- The beginning of a report. -/
def header (r : Renderer) (title intro : Chars) (contents : List (Chars × Bool)) : Step Chars :=
  r.fragmentIn fun b => b.header title intro contents

/-- A section container is opened or closed. -/
def container (r : Renderer) (f : State → Chars × State) : Step Chars := fun s =>
  if r = .format .html then
    let (text, s) := f s
    (.ok text, s)
  else (.error .noContainer, s)

/-! ## Tokens by name -/

/-- A token as it is given from outside: by the name of its kind. -/
inductive NamedToken where
  | leaf (kind text : Chars)
  | span (kind : Chars) (children : List NamedToken)
  deriving Inhabited, Repr

/-- The style of a name. -/
def styleOf? (kind : Chars) : Option Style :=
  if kind = "bold".toList then some .bold
  else if kind = "italic".toList then some .italic
  else if kind = "monospaced".toList then some .monospaced
  else none

/-- The token of a name, with its text. -/
def leafOf? (kind text : Chars) : Option Inline :=
  if kind = "plaintext".toList then some (.plain text)
  else if kind = "link".toList then some (.link text)
  else if kind = "math_inline".toList then some (.mathInline text)
  else if kind = "math_block".toList then some (.mathBlock text)
  else if kind = "trademark".toList then some .trademark
  else if kind = "registered_trademark".toList then some .registered
  else none

mutual

/-- The fragment of a named token; what is inside a span is rendered first. -/
def renderNamed (r : Renderer) : NamedToken → Except RendererFault Chars
  | .leaf kind text =>
    match leafOf? kind text, r with
    | none, _ => .error (.unknownToken kind)
    | some token, .format f => .ok (renderToken (backEnd f) token)
    | some _, .bare => .error .noFragment
  | .span kind children =>
    match styleOf? kind with
    | none => .error (.unknownToken kind)
    | some style => do
      let inside ← renderAllNamed r children
      match r with
      | .format f => return (backEnd f).styled style inside
      | .bare => throw .noFragment

/-- The fragments of named tokens, one after another. -/
def renderAllNamed (r : Renderer) : List NamedToken → Except RendererFault Chars
  | [] => .ok []
  | token :: rest => do
    let first ← renderNamed r token
    return first ++ (← renderAllNamed r rest)

end

/-- The fragments of named tokens. -/
def tokens (r : Renderer) (named : List NamedToken) : Step Chars := fun s =>
  (renderAllNamed r named, s)

/-! ## Items, segments and documents -/

/-- Rendering the item needs no fragment: it is running text without paragraphs. -/
def needsNone : Item → Bool
  | .text text => paragraphs text = []
  | _ => false

/-- The fragments of items. -/
def items (r : Renderer) (list : List Item) : Step Chars :=
  if list.all needsNone then fun s => (.ok [], s) else r.fragment (renderItems · list)

/-- Rendering the segment needs no fragment: it is code that is not shown and has no result. -/
def needsNoneIn (showCode : Bool) : Segment → Bool
  | .code segment =>
    !showCode &&
      (match segment.result with
       | none => true
       | some result => result.outputLines = [] && result.graphics = [])
  | .header _ => false

/-- The fragment of a segment. -/
def segment (r : Renderer) (showCode : Bool) (segment : Segment) : Step Chars :=
  if needsNoneIn showCode segment then fun s => (.ok [], s)
  else r.fragmentIn (renderSegment · showCode segment)

/-- An item that stands where a segment is expected. -/
def strayItem (_r : Renderer) (item : Item) : Step Chars := fun s =>
  (.error (.unknownSegment item.kindName), s)

/-- The report of a document. -/
def document (r : Renderer) (showCode : Bool) (doc : Document) : Step Chars :=
  r.fragmentIn (renderDocument · showCode doc)

end Renderer

end ScriptReport.Report

/-
  ScriptReport.Script.Document

  A script as a document: title, introduction, segments with their content, and the lines it was
  read from.
-/

import ScriptReport.Script.Paragraph
import ScriptReport.Script.Segment

namespace ScriptReport.Script

/-! ## Documents -/

/-- A document. The source name stands in for a missing title. -/
structure Document where
  title : Chars := []
  intro : List Item := []
  body : List Segment := []
  sourceLines : List Chars := []
  sourceName : Chars := []
  deriving DecidableEq, Repr

namespace Document

/-- The script that the document was read from. -/
def sourceText (doc : Document) : Chars := Text.unlines doc.sourceLines

/-- The title that is shown. -/
def shownTitle (doc : Document) : Chars := if doc.title = [] then doc.sourceName else doc.title

/-- The titles of the headers that have one, and whether each starts a section. -/
def contents (doc : Document) : List (Chars × Bool) :=
  doc.body.filterMap fun segment =>
    match segment with
    | .header h => if h.title = [] then none else some (h.title, h.breaksSection)
    | .code _ => none

/-- The code segments, with their positions in the body. -/
def codeSegments (doc : Document) : List (Nat × CodeSegment) :=
  doc.body.zipIdx.filterMap fun (segment, i) =>
    match segment with
    | .code c => some (i, c)
    | .header _ => none

/-- The results of all code segments, in order. -/
def results (doc : Document) : List (Option ExecutionResult) :=
  doc.codeSegments.map fun (_, c) => c.result

/-! ## Attaching results -/

/-- Why a result cannot be attached. -/
inductive AttachFault where
  /-- There is no segment at the position. -/
  | outOfRange
  /-- The segment at the position is no code. -/
  | notCode (index : Int)
  deriving DecidableEq, Repr

/-- The text that reports the fault. -/
def AttachFault.message : AttachFault → Chars
  | .outOfRange => "list index out of range"
  | .notCode index => "body[" ++ Text.ofInt index ++ "] is not a code segment"

/-- The position that an index means, which counts from the end if it is negative. -/
def position? (length : Nat) : Int → Option Nat
  | .ofNat n => if n < length then some n else none
  | .negSucc n => if n < length then some (length - (n + 1)) else none

/-- The document with the result of the code segment at the index, cut to the limit. -/
def attach (doc : Document) (index : Int) (result : ExecutionResult) (limit : Option Int) :
    Except AttachFault Document :=
  match position? doc.body.length index with
  | none => .error .outOfRange
  | some i =>
    match doc.body[i]? with
    | some (.code c) =>
      let c := { c with result := some (result.truncated limit) }
      .ok { doc with body := doc.body.set i (.code c) }
    | _ => .error (.notCode index)

end Document

/-! ## Reading a script -/

/-- The segments with the items under their headers, and the warnings. -/
def withContent : List Segment → List Segment × List Warning
  | [] => ([], [])
  | .code c :: rest =>
    let (segments, warnings) := withContent rest
    (.code c :: segments, warnings)
  | .header h :: rest =>
    let (content, first) := readItems h.body
    let (segments, warnings) := withContent rest
    (.header { h with content } :: segments, first ++ warnings)

/-- The document of a script, and the warnings in order. -/
def read (comments : List Chars) (sourceName : Chars) (lines : List Chars) :
    Document × List Warning :=
  let (title, segments) := segmentation comments lines
  let (body, warnings) := withContent segments
  match title with
  | some t =>
    let (intro, first) := readItems t.body
    ({ title := t.title, intro, body, sourceLines := lines, sourceName }, first ++ warnings)
  | none => ({ body, sourceLines := lines, sourceName }, warnings)

end ScriptReport.Script

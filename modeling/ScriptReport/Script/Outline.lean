/-
  ScriptReport.Script.Outline

  The structure of a document as lines of text, one for the title, each segment and each item.
-/

import ScriptReport.Script.Document

namespace ScriptReport.Script

/-! ## Items -/

/-- What an item holds, quoted. A file to include that has not been read shows its path. -/
def Item.shown : Item → Chars
  | .text t => Text.quoted t
  | .codeLiteral t => Text.quoted t
  | .preformatted t => Text.quoted t
  | .bulletedList items => if items = [] then Text.quoted [] else Text.quotedList items
  | .numberedList items => if items = [] then Text.quoted [] else Text.quotedList items
  | .included _ (some t) => Text.quoted t
  | .included path none => Text.quoted path
  | .graphic path => Text.quoted path
  | .html raw => Text.quoted raw
  | .latex raw => Text.quoted raw

/-- The line of an item. -/
def Item.outline (item : Item) : Chars := item.kindName ++ ": " ++ item.shown

/-! ## Documents -/

/-- A range of lines, counted from one. -/
def lineRange (start stop : Nat) : Chars :=
  " lines " ++ Text.ofNat (start + 1) ++ "-" ++ Text.ofNat (stop + 1)

/-- The lines of the segment at a position. -/
def Segment.outline (index : Nat) : Segment → List Chars
  | .code c => ["[" ++ Text.ofNat index ++ "] code" ++ lineRange c.start c.stop]
  | .header h =>
    ("[" ++ Text.ofNat index ++ "] " ++
        (if h.breaksSection then "section ".toList else "section_no_break ".toList) ++
        Text.quoted h.title ++ lineRange h.start h.stop) ::
      h.content.map fun item => "  " ++ item.outline

/-- The lines of a document. -/
def Document.outline (doc : Document) : List Chars :=
  (if doc.title = [] && doc.intro = [] then []
   else
    ("title: " ++ Text.quoted doc.title) ::
      doc.intro.map fun item => "  intro " ++ item.outline) ++
  (doc.body.zipIdx.map fun (segment, i) => segment.outline i).flatten

end ScriptReport.Script

/-
  ScriptReport.Script.Paragraph

  From the lines under a header to items. Each block is, in this order of preference, a code
  literal (two spaces before every line), preformatted text (one space), a bulleted or numbered
  list, an included file, a graphic, or running text with regions of raw markup between its lines.
-/

import ScriptReport.Script.Block
import ScriptReport.Script.Item
import ScriptReport.Text.Lower

namespace ScriptReport.Script

/-! ## Blocks of one item -/

/-- The items of a list block: its lines joined, cut before each line with the marker. -/
def listItems? (marker : Chars) (lines : List Chars) : Option (List Chars) :=
  match lines with
  | [] => none
  | first :: _ =>
    if marker.isPrefixOf first then
      some (Text.splitOn ('\n' :: marker) ((Text.unlines lines).drop marker.length))
    else none

/-- A pair of tags. -/
structure Tags where
  opening : Chars
  closing : Chars
  deriving DecidableEq, Repr

/-- The tags around the path of a file to include. -/
def includeTags : Tags := ⟨"<include>", "</include>"⟩

/-- The tags around the path of a graphic. -/
def graphicTags : Tags := ⟨"<<", ">>"⟩

/-- The text between the tags that enclose the whole of `markup`, trimmed, unless nothing is left.
    Tags are compared in lower case. If the text holds the closing tag, it ends before the first
    one, and a warning says so. -/
def delimited (tags : Tags) (markup : Chars) : Option Chars × List Warning :=
  let lowered := Text.lower markup
  if markup.length < tags.opening.length + tags.closing.length then (none, [])
  else if !(tags.opening.isPrefixOf lowered && tags.closing.isSuffixOf lowered) then (none, [])
  else
    let inner := (markup.take (markup.length - tags.closing.length)).drop tags.opening.length
    let (inner, warnings) := match Text.find? tags.closing (Text.lower inner) with
      | some i => (inner.take i, [Warning.ambiguous markup tags.closing])
      | none => (inner, [])
    let path := Text.trim inner
    (if path = [] then none else some path, warnings)

/-- The item that the whole of a block is, if it is one. -/
def blockItem (lines : List Chars) : Option Item × List Warning :=
  if lines.all ("  ".toList.isPrefixOf ·) then
    (some (.codeLiteral (Text.unlines (lines.map (·.drop 2)))), [])
  else if lines.all (" ".toList.isPrefixOf ·) then
    (some (.preformatted (Text.unlines (lines.map (·.drop 1)))), [])
  else
    match listItems? "* " lines, listItems? "# " lines with
    | some items, _ => (some (.bulletedList items), [])
    | none, some items => (some (.numberedList items), [])
    | none, none =>
      match delimited includeTags lines.flatten with
      | (some path, warnings) => (some (.included path none), warnings)
      | (none, warnings) =>
        match delimited graphicTags lines.flatten with
        | (some path, more) => (some (.graphic path), warnings ++ more)
        | (none, more) => (none, warnings ++ more)

/-! ## Running text with regions -/

/-- The kinds of raw regions. -/
inductive Region where
  | html
  | latex
  deriving DecidableEq, Repr

/-- The line that opens a region. -/
def Region.opening : Region → Chars
  | .html => "<html>"
  | .latex => "<latex>"

/-- The line that closes a region. -/
def Region.closing : Region → Chars
  | .html => "</html>"
  | .latex => "</latex>"

/-- The item of a region with the given text. -/
def Region.item : Region → Chars → Item
  | .html, raw => .html raw
  | .latex, raw => .latex raw

/-- A line as tags are compared with it. -/
def tagOf (line : Chars) : Chars := Text.lower (Text.trim line)

/-- The region that a line opens. -/
def opens? (line : Chars) : Option Region :=
  if tagOf line = Region.html.opening then some .html
  else if tagOf line = Region.latex.opening then some .latex
  else none

/-- The line closes the region. -/
def closes (region : Region) (line : Chars) : Bool := tagOf line = region.closing

/-- What a block of running text falls into. -/
inductive Piece where
  /-- Consecutive lines of running text. -/
  | text (lines : List Chars)
  /-- The lines inside a region, and whether it is closed. -/
  | region (kind : Region) (lines : List Chars) (closed : Bool)
  deriving DecidableEq, Repr

/-- The pieces of a block, in order. -/
def pieces : List Chars → List Piece
  | [] => []
  | line :: rest =>
    match opens? line with
    | some region =>
      match _h : rest.dropWhile (!closes region ·) with
      | [] => [.region region (rest.takeWhile (!closes region ·)) false]
      | _ :: after => .region region (rest.takeWhile (!closes region ·)) true :: pieces after
    | none =>
      .text (line :: rest.takeWhile (fun l => (opens? l).isNone)) ::
        pieces (rest.dropWhile fun l => (opens? l).isNone)
termination_by lines => lines.length
decreasing_by
  · have := length_dropWhile_le (!closes region ·) rest
    simp only [_h, List.length_cons] at this ⊢; omega
  · have := length_dropWhile_le (fun l => (opens? l).isNone) rest
    simp only [List.length_cons]; omega

/-! ## Collecting the items -/

/-- Blocks of these kinds run on over blank lines. -/
inductive Running where
  | codeLiteral
  | preformatted
  deriving DecidableEq, Repr

/-- The items read so far, the latest first, and the kind of the last block if it may run on. -/
structure Reading where
  items : List Item := []
  running : Option Running := none
  warnings : List Warning := []
  deriving Repr

/-- The items with running text at the end, joined to running text that is there already. -/
def addText (separator : Chars) (lines : List Chars) (items : List Item) : List Item :=
  match items with
  | .text before :: rest => .text (before ++ separator ++ Text.unlines lines) :: rest
  | items => .text (Text.unlines lines) :: items

/-- The items with a piece at the end. The first piece of a block, if it is text, is a paragraph
    of its own. -/
def addPiece (first : Bool) (items : List Item) : Piece → List Item
  | .text lines => addText (if first then "\n\n" else "\n") lines items
  | .region _ [] _ => items
  | .region kind lines _ => kind.item (Text.unlines lines) :: items

/-- The items with all pieces of a block at the end. -/
def addPieces (items : List Item) : List Piece → List Item
  | [] => items
  | piece :: rest => rest.foldl (addPiece false) (addPiece true items piece)

/-- The warning that a piece gives. -/
def Piece.warning? : Piece → Option Warning
  | .region kind _ false => some (.unclosed kind.closing)
  | _ => none

/-- The items with an item that is a whole block at the end. A block of code or preformatted text
    after one of its kind is joined to it, with the blank lines between them. -/
def addItem (gap : Nat) (running : Option Running) (items : List Item) (item : Item) :
    List Item × Option Running :=
  match item, running, items with
  | .codeLiteral text, some .codeLiteral, .codeLiteral before :: rest =>
    (.codeLiteral (before ++ List.replicate (gap + 1) '\n' ++ text) :: rest, some .codeLiteral)
  | .preformatted text, some .preformatted, .preformatted before :: rest =>
    (.preformatted (before ++ List.replicate (gap + 1) '\n' ++ text) :: rest, some .preformatted)
  | .codeLiteral text, _, items => (.codeLiteral text :: items, some .codeLiteral)
  | .preformatted text, _, items => (.preformatted text :: items, some .preformatted)
  | item, _, items => (item :: items, none)

/-- The reading after one more block. -/
def Reading.add (r : Reading) (block : Block) : Reading :=
  match blockItem block.lines with
  | (some item, warnings) =>
    let (items, running) := addItem block.gap r.running r.items item
    ⟨items, running, r.warnings ++ warnings⟩
  | (none, warnings) =>
    let ps := pieces block.lines
    ⟨addPieces r.items ps, none, r.warnings ++ warnings ++ ps.filterMap Piece.warning?⟩

/-- The items of the lines under a header, without their comment characters, and the warnings. -/
def readItems (lines : List Chars) : List Item × List Warning :=
  let r := (blocks lines).foldl Reading.add {}
  (r.items.reverse, r.warnings)

end ScriptReport.Script

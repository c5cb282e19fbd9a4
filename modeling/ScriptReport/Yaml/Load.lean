/-
  ScriptReport.Yaml.Load

  From the text of a YAML document to its value. A text becomes a value as soon as it is met; a
  collection gets an empty cell first, and the cells are filled one after another in the order in
  which they were met.
-/

import ScriptReport.Text.Base64
import ScriptReport.Text.Lower
import ScriptReport.Yaml.Node
import ScriptReport.Yaml.Value

namespace ScriptReport.Yaml

/-! ## Texts as values -/

/-- The decimal digits that a number starts with, after blanks and its sign. -/
def leadingDigits (text : Chars) : Nat :=
  let (_, digits) := Text.cutSign (text.dropWhile Text.isNumberBlank)
  (digits.takeWhile fun c => (Text.digitValue? c).isSome).length

/-- The integer of decimal digits. -/
def readDecimal (text : Text.Wide) : Except Fault Int :=
  let digits := leadingDigits text.marked
  if Text.maxDigits < digits then .error (.overlongInteger digits)
  else
    match Text.readIntIn? 10 text.marked with
    | some n => .ok n
    | none => .error (.noInteger 10 text)

/-- The integer in another base. -/
def readBase (base : Nat) (text : Text.Wide) : Except Fault Int :=
  match Text.readIntIn? base text.marked with
  | some n => .ok n
  | none => .error (.noInteger base text)

/-- The integer that a text without sign and underscores spells. -/
def readUnsigned (text : Text.Wide) : Except Fault Int :=
  match text with
  | [] => .error .emptyNumber
  | [.char '0'] => .ok 0
  | .char '0' :: .char 'b' :: digits => readBase 2 digits
  | .char '0' :: .char 'x' :: digits => readBase 16 digits
  | .char '0' :: digits => readBase 8 (.char '0' :: digits)
  | text =>
    if text.contains (.char ':') then do
      let places ← (text.splitOn ':').mapM readDecimal
      return places.foldl (fun n place => n * 60 + place) 0
    else readDecimal text

/-- The integer that a text spells. -/
def readInteger (text : Text.Wide) : Except Fault Int := do
  let text := text.without '_'
  if text = [] then throw .emptyNumber
  let (negative, digits) := text.cutSign
  let n ← readUnsigned digits
  return if negative then -n else n

/-- The real number of one part of a text. -/
def readRealPart (text : Text.Wide) : Except Fault Text.Double :=
  match Text.Double.read? text.marked with
  | some x => .ok x
  | none => .error (.noReal text)

/-- The sum of places in base sixty, the last of which comes first here and is worth `base`. -/
def sumSixtieths (base : Int) (sum : Text.Double) : List Text.Double → Except Fault Text.Double
  | [] => .ok sum
  | place :: rest =>
    match Text.Double.ofInt base with
    | .finite negative mantissa exponent =>
      sumSixtieths (base * 60) (sum.add (place.mul (.finite negative mantissa exponent))) rest
    | _ => .error .hugeInteger

/-- The spelling of the value that is no number. -/
def nanWord : Chars := ".nan"

/-- The parts of the spelling of a real number: whether it is negative, and the rest. -/
def cutReal (text : Text.Wide) : Bool × Text.Wide := (text.without '_').lower.cutSign

/-- The real number that a text spells. -/
def readReal (text : Text.Wide) : Except Fault Text.Double := do
  if text.without '_' = [] then throw .emptyNumber
  let (negative, body) := cutReal text
  let x ←
    if body.marked = ".inf".toList then pure (.infinite false)
    else if body.marked = nanWord then pure .nan
    else if body.contains (.char ':') then do
      let places ← (body.splitOn ':').mapM readRealPart
      sumSixtieths 1 (Text.Double.ofInt 0) places.reverse
    else readRealPart body
  return if negative then x.neg else x

/-- The value of a real number that the text of a node spells. -/
def realValue (node : NodeId) (text : Text.Wide) : Text.Double → Value
  | .nan => .nan (if (cutReal text).2.marked = nanWord then none else some node)
  | x => .real x

/-- What the words for truth values mean. -/
def readFlag (text : Text.Wide) : Except Fault Bool :=
  let word := text.lower
  if ["yes".toList, "true", "on"].contains word.marked then .ok true
  else if ["no".toList, "false", "off"].contains word.marked then .ok false
  else .error (.noFlag word)

/-- The date or time that a text spells. -/
def readMoment (text : Chars) : Except Fault Moment :=
  match readMoment? text with
  | none => .error .noMoment
  | some m => m.value.mapError Fault.moment

/-- The octets that a text spells. -/
def readOctets (text : Chars) : Except Fault Text.Octets :=
  match Text.Base64.decode? text with
  | some content => .ok content
  | none => .error .malformed

/-- The value of the text of a node, for a type of texts. -/
def readScalar (node : NodeId) (tag : Tag) (text : Text.Wide) : Except Fault Value :=
  match tag with
  | .null => .ok .null
  | .flag => (readFlag text).map Value.flag
  | .integer => (readInteger text).map Value.integer
  | .real => (readReal text).map (realValue node text)
  | .octets => (readOctets text.marked).map Value.octets
  | .moment => (readMoment text.marked).map Value.moment
  | .text => .ok (.text text)
  | _ => .error .malformed

/-! ## Loading -/

/-- The nodes, the values they have so far, and the cells, with those that wait to be filled and
    the nodes they belong to. -/
structure Loading where
  graph : Graph
  values : List (NodeId × Value) := []
  cells : Array Cell := #[]
  waiting : List (CellId × NodeId) := []

/-- Making values of nodes. -/
abbrev Loader := StateT Loading (Except Fault)

namespace Loader

/-- The document is malformed. -/
def refuse {α : Type} : Loader α := throw .malformed

/-- The text of a node: that of a text, or of the default value of a mapping. A longer way than
    there are nodes does not end. -/
def textOf : Nat → NodeId → Loader Text.Wide
  | 0, _ => throw .endlessDefault
  | fuel + 1, id => do
    let g := (← get).graph
    match (g.node id).content with
    | .scalar text => return text
    | .sequence _ => refuse
    | .mapping entries =>
      match entries.find? fun entry => g.tag entry.1 = .default with
      | some entry => textOf fuel entry.2
      | none => refuse

/-- The value of a node with a type of texts. A date is looked for in the text of the node
    itself. -/
def scalarValue (id : NodeId) (tag : Tag) : Loader Value := do
  let g := (← get).graph
  let text ← textOf (g.size + 1) id
  if tag = .moment && g.isMapping id then throw .noMomentText
  readScalar id tag text

/-- A cell for the content of a node, which waits to be filled. -/
def newCell (id : NodeId) : Loader Value := do
  let l ← get
  let cell := l.cells.size
  set { l with cells := l.cells.push (.list []), waiting := l.waiting ++ [(cell, id)] }
  return .collection cell

/-- The value of a node, which is made only once. -/
def value (id : NodeId) : Loader Value := do
  match (← get).values.lookup id with
  | some value => return value
  | none =>
    let tag := (← get).graph.tag id
    let value ← if tag.isCollection then newCell id else scalarValue id tag
    modify fun l => { l with values := (id, value) :: l.values }
    return value

/-! ## Cells -/

/-- The values of the members of a sequence. -/
def items (id : NodeId) : Loader (List Value) := do
  match ((← get).graph.node id).content with
  | .sequence items => items.mapM value
  | _ => refuse

/-- The pair of a mapping with one entry. -/
def pair (id : NodeId) : Loader (Value × Value) := do
  match ((← get).graph.node id).content with
  | .mapping [(key, content)] => return (← value key, ← value content)
  | _ => refuse

/-- The pairs of a sequence. -/
def pairs (id : NodeId) : Loader (List (Value × Value)) := do
  match ((← get).graph.node id).content with
  | .sequence items => items.mapM pair
  | _ => refuse

/-- The entries of a mapping in its final form. -/
def entries (id : NodeId) : Loader (List (Value × Value)) := do
  let g := (← get).graph
  if !g.isMapping id then refuse
  let g ← g.settle id
  modify fun l => { l with graph := g }
  (g.entries id).foldlM (fun all entry => do
    let key ← value entry.1
    if !key.isKey then refuse
    return Value.put key (← value entry.2) all) []

/-- The collection of a node. -/
def cell (id : NodeId) : Loader Cell := do
  match (← get).graph.tag id with
  | .orderedMapping | .pairs => return .pairs (← pairs id)
  | .mapping => return .mapping (← entries id)
  | .set => return .set ((← entries id).map Prod.fst)
  | _ => return .list (← items id)

/-- Fills the waiting cells, and those that come to wait meanwhile. -/
def fill : Nat → Loader Unit
  | 0 => pure ()
  | fuel + 1 => do
    match (← get).waiting with
    | [] => pure ()
    | (number, id) :: rest =>
      modify fun l => { l with waiting := rest }
      let content ← cell id
      modify fun l => { l with cells := l.cells.setIfInBounds number content }
      fill fuel

end Loader

/-! ## Documents -/

/-- The value of a document, no value if there is none. There is at most one cell for each
    node. -/
def load (text : Chars) : Except Fault Document := do
  match ← nodesOf (tokensOf text) with
  | (none, _) => return { root := .null }
  | (some root, graph) =>
    let make : Loader Value := do
      let value ← Loader.value root
      Loader.fill (graph.size + 1)
      return value
    let (root, l) ← make.run { graph }
    return { root, cells := l.cells }

end ScriptReport.Yaml

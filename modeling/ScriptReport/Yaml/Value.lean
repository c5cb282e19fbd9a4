/-
  ScriptReport.Yaml.Value

  The values that a YAML document describes, and the two ways of writing them as text: a text by
  itself stands for itself, and inside a collection it is quoted. Collections lie in cells, so one
  can be held by several others and even by itself.
-/

import ScriptReport.Text.Double
import ScriptReport.Text.Utf8
import ScriptReport.Text.Wide
import ScriptReport.Yaml.Graph
import ScriptReport.Yaml.SetOrder

namespace ScriptReport.Yaml

/-! ## Values -/

/-- The number of a cell. -/
abbrev CellId := Nat

/-- A value. -/
inductive Value where
  | null
  | flag (b : Bool)
  | integer (n : Int)
  | real (x : Text.Double)
  /-- No number. There is one that all documents share, and others are made by single nodes. -/
  | nan (maker : Option NodeId)
  | text (t : Text.Wide)
  | octets (content : Text.Octets)
  | moment (m : Moment)
  /-- The collection in a cell. -/
  | collection (cell : CellId)
  deriving DecidableEq, Repr

/-- A collection. -/
inductive Cell where
  | list (items : List Value)
  | pairs (items : List (Value × Value))
  | mapping (entries : List (Value × Value))
  | set (items : List Value)
  deriving DecidableEq, Repr

/-- What a document describes: a value, and the collections that it leads to. -/
structure Document where
  root : Value
  cells : Array Cell := #[]
  deriving Repr

namespace Value

/-! ## Keys -/

/-- The value may be a key. -/
def isKey : Value → Bool
  | .collection _ => false
  | _ => true

/-- The integer that a key counts as. -/
def number? : Value → Option Int
  | .flag b => some (if b then 1 else 0)
  | .integer n => some n
  | .real x => x.toInt?
  | _ => none

/-- The two keys are the same. -/
def sameKey (a b : Value) : Bool :=
  match a.number?, b.number? with
  | some m, some n => m = n
  | none, none =>
    match a, b with
    | .moment s, .moment t => s.isSame t
    | a, b => a = b
  | _, _ => false

/-- The entries with a value for a key: in the place of an earlier value, or else at the end. -/
def put (key value : Value) : List (Value × Value) → List (Value × Value)
  | [] => [(key, value)]
  | (k, v) :: rest => if sameKey k key then (k, value) :: rest else (k, v) :: put key value rest

/-- The value for a key that is a text. -/
def lookup? (key : Chars) : List (Value × Value) → Option Value
  | [] => none
  | (.text t, v) :: rest => if t = Text.Wide.ofChars key then some v else lookup? key rest
  | _ :: rest => lookup? key rest

/-! ## Sets -/

/-- The machine word of a number. -/
def word? : Value → Option Nat
  | .flag b => some (if b then 1 else 0)
  | .integer n => some (SetOrder.ofInt n)
  | .real x => some (SetOrder.ofDouble x)
  | _ => none

/-- The members of a set as they are shown: numbers by their places, others as they are given. -/
def inSetOrder (items : List Value) : List Value :=
  if items.all fun item => item.word?.isSome then
    SetOrder.arrange (fun item => item.word?.getD 0) items
  else items

/-! ## Text -/

/-- An octet between quotes. -/
def quotedOctet (quote : Char) (b : UInt8) : Chars :=
  let c := Char.ofNat b.toNat
  if c = quote || c = '\\' then ['\\', c]
  else if c = '\n' then "\\n"
  else if c = '\r' then "\\r"
  else if c = '\t' then "\\t"
  else if 32 ≤ b && b < 127 then [c]
  else "\\x" ++ Text.hex 2 b.toNat

/-- Octets between quotes. -/
def quotedOctets (content : Text.Octets) : Chars :=
  let quote := Text.quoteFor (content.map fun b => Char.ofNat b.toNat)
  'b' :: quote :: Text.concatMap (quotedOctet quote) content ++ [quote]

/-- An integer in decimal digits, unless these are too many. -/
def integerText? (n : Int) : Option Chars :=
  if Nat.pow 10 Text.maxDigits ≤ n.natAbs then none else some (Text.ofInt n)

/-- Texts between an opening and a closing one, separated by commas. -/
def enclose (opening closing : Chars) (parts : List Chars) : Chars :=
  opening ++ Text.join ", " parts ++ closing

/-- A pair, whose members are written by the given function. -/
def enclosePair (write : Value → Option Chars) (pair : Value × Value) : Option Chars := do
  return enclose "(" ")" [← write pair.1, ← write pair.2]

/-- An entry of a mapping, whose key and value are written by the given function. -/
def encloseEntry (write : Value → Option Chars) (entry : Value × Value) : Option Chars := do
  return (← write entry.1) ++ ": " ++ (← write entry.2)

/-- The value as it is written inside a collection, if it can be written. The collections around
    it are `outer`; one of them is not written again inside itself. No more collections can lie in
    each other than there are, which bounds the steps. -/
def quotedIn? (cells : Array Cell) : Nat → List CellId → Value → Option Chars
  | fuel, outer, value =>
    match value with
    | .null => some "None"
    | .flag b => some (if b then "True" else "False")
    | .integer n => integerText? n
    | .real x => some x.text
    | .nan _ => some Text.Double.nan.text
    | .text t => some t.quoted
    | .octets content => some (quotedOctets content)
    | .moment m => some m.quoted
    | .collection cell =>
      match fuel with
      | 0 => some []
      | fuel + 1 =>
        let isOuter := outer.contains cell
        let write := quotedIn? cells fuel (cell :: outer)
        match cells.getD cell (.list []) with
        | .list items =>
          if isOuter then some "[...]" else (items.mapM write).map (enclose "[" "]")
        | .pairs items =>
          if isOuter then some "[...]"
          else (items.mapM (enclosePair write)).map (enclose "[" "]")
        | .mapping entries =>
          if isOuter then some "\x7b...\x7d"
          else (entries.mapM (encloseEntry write)).map (enclose "\x7b" "\x7d")
        | .set [] => some "set()"
        | .set (item :: items) =>
          ((inSetOrder (item :: items)).mapM write).map (enclose "\x7b" "\x7d")

/-- A pair as it is written, if it can be written. -/
def quotedPair? (cells : Array Cell) (pair : Value × Value) : Option Chars :=
  enclosePair (quotedIn? cells (cells.size + 1) []) pair

/-- The value as a text by itself, if it can be written. -/
def shown? (cells : Array Cell) : Value → Option Text.Wide
  | .text t => some t
  | .moment m => some (.ofChars m.text)
  | value => (quotedIn? cells (cells.size + 1) [] value).map .ofChars

end Value

end ScriptReport.Yaml

/-
  ScriptReport.Yaml.Tag

  The types of the values in a YAML document. A plain text without a tag has the type that its
  spelling shows, and is a text if it shows none.
-/

import ScriptReport.Text.Integer
import ScriptReport.Yaml.Moment

namespace ScriptReport.Yaml

/-! ## Types -/

/-- The type of a value. -/
inductive Tag where
  | null
  | flag
  | integer
  | real
  | octets
  | moment
  | text
  | sequence
  | mapping
  | set
  | orderedMapping
  | pairs
  /-- A key whose value is merged into the mapping. -/
  | merge
  /-- The key of a mapping that stands for its default value. -/
  | default
  | other (name : Chars)
  deriving DecidableEq, Repr

/-- A type of collections. -/
def Tag.isCollection : Tag → Bool
  | .sequence => true
  | .mapping => true
  | .set => true
  | .orderedMapping => true
  | .pairs => true
  | _ => false

/-- The beginning of the names of the common types. -/
def commonPrefix : Chars := "tag:yaml.org,2002:"

/-- The common types by the rest of their names. -/
def commonTags : List (Chars × Tag) :=
  [("null", .null), ("bool", .flag), ("int", .integer), ("float", .real), ("binary", .octets),
   ("timestamp", .moment), ("str", .text), ("seq", .sequence), ("map", .mapping), ("set", .set),
   ("omap", .orderedMapping), ("pairs", .pairs), ("merge", .merge), ("value", .default)]

/-- The type of a full name. -/
def Tag.ofName (name : Chars) : Tag :=
  match (Text.afterOpening? commonPrefix name).bind (commonTags.lookup ·) with
  | some tag => tag
  | none => .other name

/-! ## Spellings -/

/-- The spellings of no value, the empty one included. -/
def nullWords : List Chars := ["", "~", "null", "Null", "NULL"]

/-- The words for truth values: each in lower case, capitalised and in capitals. -/
def flagWords : List Chars :=
  ["yes", "Yes", "YES", "no", "No", "NO", "true", "True", "TRUE", "false", "False", "FALSE",
   "on", "On", "ON", "off", "Off", "OFF"]

/-- A decimal digit, or an underscore between digits. -/
def isDigitOrGap (c : Char) : Bool := c.isDigit || c = '_'

/-- One or two digits below sixty. -/
def isSixtieth : Chars → Bool
  | [c] => c.isDigit
  | [c, d] => '0' ≤ c && c ≤ '5' && d.isDigit
  | _ => false

/-- Digits that start with the given class. -/
def startsWithDigit (p : Char → Bool) : Chars → Bool
  | [] => false
  | c :: rest => p c && rest.all isDigitOrGap

/-- The spelling of an integer: binary, octal, decimal, hexadecimal, or in base sixty. -/
def isIntegerText (text : Chars) : Bool :=
  match (Text.cutSign text).2 with
  | ['0'] => true
  | '0' :: 'b' :: digits => digits ≠ [] && digits.all fun c => c = '0' || c = '1' || c = '_'
  | '0' :: 'x' :: digits => digits ≠ [] && digits.all fun c => (Text.hexDigit? c).isSome || c = '_'
  | '0' :: digits => digits.all fun c => ('0' ≤ c && c ≤ '7') || c = '_'
  | body =>
    match Text.splitOn ":" body with
    | [] => false
    | first :: rest =>
      startsWithDigit (fun c => c.isDigit && c ≠ '0') first && rest.all isSixtieth

/-- The spelling of a decimal exponent, whose sign is always written. -/
def isExponentText : Chars → Bool
  | [] => true
  | e :: sign :: digits =>
    (e = 'e' || e = 'E') && (sign = '+' || sign = '-') && digits ≠ [] && digits.all Char.isDigit
  | _ => false

/-- The spelling of a number with a point: decimal or in base sixty. -/
def isPointText (text : Chars) : Bool :=
  match Text.cutAt? '.' text with
  | none => false
  | some (whole, rest) =>
    match Text.splitOn ":" whole with
    | [_] =>
      startsWithDigit Char.isDigit whole && isExponentText (rest.dropWhile isDigitOrGap)
    | first :: sixtieths =>
      startsWithDigit Char.isDigit first && sixtieths.all isSixtieth && rest.all isDigitOrGap
    | [] => false

/-- The spelling of a real number. A sign may not stand right before a point and digits. -/
def isRealText (text : Chars) : Bool :=
  match text with
  | '.' :: c :: rest =>
    (c.isDigit && isExponentText (rest.dropWhile isDigitOrGap)) ||
      ["inf".toList, "Inf", "INF", "nan", "NaN", "NAN"].contains (c :: rest)
  | text =>
    let body := (Text.cutSign text).2
    [".inf".toList, ".Inf", ".INF"].contains body || isPointText body

/-- The type of a plain text without a tag. -/
def Tag.ofPlain (text : Chars) : Tag :=
  let text := withoutLineEnd text
  if flagWords.contains text then .flag
  else if isRealText text then .real
  else if isIntegerText text then .integer
  else if text = "<<".toList then .merge
  else if nullWords.contains text then .null
  else if isMomentText text then .moment
  else if text = "=".toList then .default
  else .text

end ScriptReport.Yaml

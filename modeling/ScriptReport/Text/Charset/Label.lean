/-
  ScriptReport.Text.Charset.Label

  The labels of host names. A label with other characters than those of ASCII is prepared, so that
  labels that look alike become equal, and then written in Punycode behind a mark.
-/

import ScriptReport.Text.Lower
import ScriptReport.Text.Normal
import ScriptReport.Text.Quoted
import ScriptReport.Text.Charset.LabelTables
import ScriptReport.Text.Charset.Punycode

namespace ScriptReport.Text.Label

/-! ## Faults -/

/-- Why a text is no label. -/
inductive Fault where
  /-- A label is empty, or has more than 63 characters. -/
  | emptyOrLong
  /-- The last label has more than 63 characters. -/
  | long
  | forbidden (c : Char)
  /-- Letters of both directions. -/
  | mixed
  /-- A label from right to left has another character at an end. -/
  | openEnd
  /-- A label with other characters than ASCII begins with the mark. -/
  | marked
  deriving DecidableEq, Repr

/-- The text that reports the fault. -/
def Fault.message : Fault → Chars
  | .emptyOrLong => "label empty or too long"
  | .long => "label too long"
  | .forbidden c => "Invalid character " ++ quoted [c]
  | .mixed => "Violation of BIDI requirement 2"
  | .openEnd => "Violation of BIDI requirement 3"
  | .marked => "Label starts with ACE prefix"

/-! ## Preparing -/

/-- The character lies in one of the ranges. -/
def isIn (ranges : List (Nat × Nat)) (c : Char) : Bool :=
  ranges.any fun (least, greatest) => least ≤ c.toNat && c.toNat ≤ greatest

/-- A character of an expanded text as it is compared. -/
def foldedPart (c : Char) : Chars :=
  if c.toNat = 0x345 then [Char.ofNat 0x3B9]
  else if c.toNat = 0x3C2 then [Char.ofNat 0x3C3]
  else if c.toNat = 0xDF then ['s', 's']
  else lowerChar c

/-- A character as it is compared. -/
def folded (c : Char) : Chars := concatMap foldedPart (expanded (lowerChar c))

/-- Letters from right to left stand between two of them, and without others. -/
def checkDirections (label : Chars) : Except Fault Unit :=
  if !label.any (isIn leftward) then .ok ()
  else if label.any (isIn rightward) then .error .mixed
  else if (label.head?.any (isIn leftward)) && (label.getLast?.any (isIn leftward)) then .ok ()
  else .error .openEnd

/-- A label as it is compared. -/
def prepare (label : Chars) : Except Fault Chars := do
  let label := normalForm (concatMap folded (label.filter (!isIn vanishing ·)))
  match label.find? (isIn forbidden) with
  | some c => throw (.forbidden c)
  | none =>
    checkDirections label
    return label

/-! ## In ASCII -/

/-- The text has only characters of ASCII. -/
def isAscii (text : Chars) : Bool := text.all (·.toNat < 0x80)

/-- What stands before a label in Punycode. -/
def mark : Chars := "xn--"

/-- A label has from 1 to 63 characters. -/
def sized (label : Chars) : Except Fault Chars :=
  if label = [] || 64 ≤ label.length then .error .emptyOrLong else .ok label

/-- A label in ASCII. -/
def toAscii (label : Chars) : Except Fault Chars := do
  if isAscii label then sized label
  else
    let label ← prepare label
    if isAscii label then sized label
    else if mark.isPrefixOf label then throw .marked
    else sized (mark ++ Punycode.encode label)

end ScriptReport.Text.Label

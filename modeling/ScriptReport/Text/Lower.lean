/-
  ScriptReport.Text.Lower

  Full lower-casing: each character by its own mapping, `İ` to an `i` with a dot above, and a
  capital sigma by its neighbours. ASCII is mapped without the table.
-/

import ScriptReport.Text.Chars
import ScriptReport.Text.CaseTable

namespace ScriptReport.Text

/-! ## One character -/

/-- The lower-case form of a character beyond ASCII, by the table. -/
def lowerByTable (c : Char) : Char :=
  match lowerRuns.find? (·.covers c.toNat) with
  | some run => Char.ofNat (c.toNat + run.shift).toNat
  | none => c

/-- The lower-case form of a character that stands by itself. -/
def lowerChar (c : Char) : Chars :=
  if c.toNat < 128 then [c.toLower]
  else if c = 'İ' then ['i', Char.ofNat 0x307]
  else [lowerByTable c]

/-! ## The sigma at the end of a word -/

/-- The character belongs to one of the ranges. -/
def inRanges (ranges : List (Nat × Nat)) (c : Char) : Bool :=
  ranges.any fun r => r.1 ≤ c.toNat && c.toNat ≤ r.2

/-- The first character that is not skipped, if any, is cased. -/
def meetsCased (neighbours : Chars) : Bool :=
  match neighbours.dropWhile (inRanges caseIgnorableRanges) with
  | [] => false
  | c :: _ => inRanges casedRanges c

/-- A sigma ends a word if a cased character stands before it and none after it; `before` is
    read backwards. -/
def lowerSigma (before after : Chars) : Char :=
  if meetsCased before && !meetsCased after then 'ς' else 'σ'

/-! ## Texts -/

/-- `lower` with the characters already passed, the latest first. -/
def lowerFrom (before : Chars) : Chars → Chars
  | [] => []
  | c :: rest =>
    (if c = 'Σ' then [lowerSigma before rest] else lowerChar c) ++ lowerFrom (c :: before) rest

/-- The text in lower case. -/
def lower (text : Chars) : Chars := lowerFrom [] text

theorem lowerChar_of_ascii {c : Char} (h : c.toNat < 128) : lowerChar c = [c.toLower] := by
  simp [lowerChar, h]

end ScriptReport.Text

/-
  ScriptReport.Text.Charset.CodeTable

  Looking up characters in code tables. Long tables are cut in pieces of equal length; where
  neighbours in a table are neighbours among the characters too, runs are shorter.
-/

import ScriptReport.Text.Utf8

namespace ScriptReport.Text.CodeTable

/-! ## Tables in pieces -/

/-- The length of the pieces of a table. -/
def pieceLength : Nat := 47

/-- The character at a place of a table. A space stands where there is none. -/
def charAt? (table : List String) (index : Nat) : Option Char := do
  let piece ← table[index / pieceLength]?
  let c ← piece.toList[index % pieceLength]?
  if c = ' ' then none else some c

/-! ## Runs -/

/-- A stretch of a table: the places from `start` on stand for the characters from `first` on. -/
structure CodeRun where
  start : Nat
  first : Nat
  count : Nat
  deriving DecidableEq, Repr

/-- The character at a place that lies in one of the runs. -/
def runChar? (runs : List CodeRun) (index : Nat) : Option Char := do
  let run ← runs.find? fun run => run.start ≤ index && index < run.start + run.count
  return Char.ofNat (run.first + (index - run.start))

/-! ## Octets in groups -/

/-- The place of an octet in a row whose octets are numbered from `least` on. -/
def from? (least greatest : Nat) (b : UInt8) : Option Nat :=
  if least ≤ b.toNat && b.toNat ≤ greatest then some (b.toNat - least) else none

/-- The character at a column of one of the rows that are given. -/
def rowChar? (rows : List (Nat × List String)) (row column : Nat) : Option Char :=
  (rows.lookup row).bind (charAt? · column)

/-- The text of octets, which stand for characters by themselves or in pairs. -/
def decodeSpelled (single : UInt8 → Option Char) (pair : UInt8 → UInt8 → Option Chars) :
    Octets → Option Chars
  | [] => some []
  | a :: rest =>
    match single a, rest with
    | some c, rest => (decodeSpelled single pair rest).map (c :: ·)
    | none, [] => none
    | none, b :: rest =>
      match pair a b with
      | some text => (decodeSpelled single pair rest).map (text ++ ·)
      | none => none

/-- The text of octets, of which each pair stands for a single character. -/
def decodePairs (single : UInt8 → Option Char) (pair : UInt8 → UInt8 → Option Char) :
    Octets → Option Chars :=
  decodeSpelled single fun a b => (pair a b).map ([·])

/-- The octets of ASCII by themselves. -/
def asciiChar? (b : UInt8) : Option Char := if b < 128 then some (Char.ofNat b.toNat) else none

end ScriptReport.Text.CodeTable

/-
  ScriptReport.Text.Charset.Japanese

  Decoding the Japanese character sets. All of them arrange the same squares of characters: by
  octets above 128, or by the shifted rows of Shift JIS.
-/

import ScriptReport.Text.Charset.CodeTable
import ScriptReport.Text.Charset.JapaneseTables
import ScriptReport.Text.Charset.Jis2004Tables

namespace ScriptReport.Text.Japanese

open CodeTable

/-! ## Squares -/

/-- The number of rows and of columns of a square. -/
def side : Nat := 94

/-- The character of JIS X 0208 in a row and column. -/
def basic? (row column : Nat) : Option Char := charAt? jisX0208 (row * side + column)

/-- The character of JIS X 0212 in a row and column. -/
def supplementary? (row column : Nat) : Option Char := charAt? jisX0212 (row * side + column)

/-- A katakana of half width, by an octet above 128. -/
def halfKatakana? (b : UInt8) : Option Char :=
  (from? 0xA1 0xDF b).map fun n => Char.ofNat (0xFF61 + n)

/-! ## EUC -/

/-- The text of octets in EUC-JP: one octet of ASCII, two of the basic square, or after a mark one
    for a katakana or two of the supplementary square. -/
def decodeEuc : Octets → Option Chars
  | [] => some []
  | 0x8E :: b :: rest => do return (← halfKatakana? b) :: (← decodeEuc rest)
  | 0x8F :: a :: b :: rest => do
    let c ← supplementary? (← from? 0xA1 0xFE a) (← from? 0xA1 0xFE b)
    return c :: (← decodeEuc rest)
  | [a] => (asciiChar? a).map ([·])
  | a :: b :: rest =>
    match asciiChar? a with
    | some c => (decodeEuc (b :: rest)).map (c :: ·)
    | none => do
      let c ← basic? (← from? 0xA1 0xFE a) (← from? 0xA1 0xFE b)
      return c :: (← decodeEuc rest)

/-! ## Shift JIS -/

/-- The row and column of two octets: each first octet has two rows. -/
def shifted? (a b : UInt8) : Option (Nat × Nat) := do
  let pair ← (from? 0x81 0x9F a).or ((from? 0xE0 0xFC a).map (· + 31))
  match from? 0x9F 0xFC b with
  | some column => return (pair * 2 + 1, column)
  | none =>
    let column ← (from? 0x40 0x7E b).or ((from? 0x80 0x9E b).map (· + 63))
    return (pair * 2, column)

/-- An octet of Shift JIS that stands for a character by itself. -/
def single? (b : UInt8) : Option Char := (asciiChar? b).or (halfKatakana? b)

/-- The text of octets in Shift JIS. -/
def decodeShift : Octets → Option Chars :=
  decodePairs single? fun a b => do
    let (row, column) ← shifted? a b
    if row < side then basic? row column else none

/-! ## Code page 932 -/

/-- An octet of code page 932 that stands for a character by itself. -/
def single932? (b : UInt8) : Option Char :=
  if b = 0x80 then some (Char.ofNat 0x80)
  else if b = 0xA0 then some (Char.ofNat 0xF8F0)
  else ((from? 0xFD 0xFF b).map fun n => Char.ofNat (0xF8F1 + n)).or (single? b)

/-- The character of code page 932 in a row and column: one of its own, one of JIS X 0208, or in
    the rows after its square one of private use. -/
def extended? (row column : Nat) : Option Char :=
  (rowChar? codePage932Rows row column).or
    (if row < side then basic? row column
     else if row < side + 20 then some (Char.ofNat (0xE000 + (row - side) * side + column))
     else none)

/-- The text of octets in code page 932. -/
def decode932 : Octets → Option Chars :=
  decodePairs single932? fun a b => do
    let (row, column) ← shifted? a b
    extended? row column

/-! ## JIS X 0213 -/

/-- The editions of JIS X 0213, by year. -/
inductive Edition where
  | y2000
  | y2004
  deriving DecidableEq, Repr

/-- The text of a place in the first square. -/
def first? (edition : Edition) (row column : Nat) : Option Chars :=
  match jis2004Pairs.lookup (row, column) with
  | some text => some text.toList
  | none =>
    if edition = .y2000 && jis2004Added.contains (row, column) then none
    else ((rowChar? jis2004First row column).or (basic? row column)).map ([·])

/-- The character of a place in the second square. One was replaced in 2004. -/
def second? (edition : Edition) (row column : Nat) : Option Char :=
  if edition = .y2000 && row = 92 && column = 26 then some (Char.ofNat 0x9B1D)
  else rowChar? jis2004Second row column

/-- The text of octets in EUC with the squares of JIS X 0213; JIS X 0212 fills the second one. -/
def decodeEuc2004 (edition : Edition) : Octets → Option Chars
  | [] => some []
  | 0x8E :: b :: rest => do return (← halfKatakana? b) :: (← decodeEuc2004 edition rest)
  | 0x8F :: a :: b :: rest => do
    let row ← from? 0xA1 0xFE a
    let column ← from? 0xA1 0xFE b
    let c ← (second? edition row column).or (supplementary? row column)
    return c :: (← decodeEuc2004 edition rest)
  | [a] => (asciiChar? a).map ([·])
  | a :: b :: rest =>
    match asciiChar? a with
    | some c => (decodeEuc2004 edition (b :: rest)).map (c :: ·)
    | none => do
      let text ← first? edition (← from? 0xA1 0xFE a) (← from? 0xA1 0xFE b)
      return text ++ (← decodeEuc2004 edition rest)

/-- The rows of the second square, in the order of the shifted rows after the first. -/
def secondRows : List Nat := [0, 7, 2, 3, 4, 11, 12, 13, 14] ++ (List.range 17).map (77 + ·)

/-- An octet of Shift JIS with JIS X 0213 that stands for a character by itself. -/
def single2004? (b : UInt8) : Option Char :=
  if b = 0x5C then some (Char.ofNat 0xA5)
  else if b = 0x7E then some (Char.ofNat 0x203E)
  else single? b

/-- The text of a shifted row and column. The backslash and the tilde are in the square, since
    the octets of ASCII stand for others. -/
def shifted2004? (edition : Edition) (row column : Nat) : Option Chars :=
  if row = 0 && column = 31 then some ['\\']
  else if row = 1 && column = 17 then some ['~']
  else if row < side then first? edition row column
  else do return [← second? edition (← secondRows[row - side]?) column]

/-- The text of octets in Shift JIS with the squares of JIS X 0213. -/
def decodeShift2004 (edition : Edition) : Octets → Option Chars :=
  decodeSpelled single2004? fun a b => do
    let (row, column) ← shifted? a b
    shifted2004? edition row column

end ScriptReport.Text.Japanese

/-
  ScriptReport.Text.Charset.Korean

  Decoding the Korean character sets. All of them hold the square KS X 1001. It has 2350 of the
  11172 syllables; the others are spelled by their letters, or get octets of their own.
-/

import ScriptReport.Text.Charset.CodeTable
import ScriptReport.Text.Charset.KoreanTable

namespace ScriptReport.Text.Korean

open CodeTable

/-! ## The square -/

/-- The number of rows and of columns of the square. -/
def side : Nat := 94

/-- The letter that stands for none. -/
def filler : Char := Char.ofNat 0x3164

/-- The character in a row and column of the square. -/
def cell? (row column : Nat) : Option Char :=
  if row = 3 && column = 51 then some filler else charAt? ksX1001 (row * side + column)

/-- The character of two octets of the square. -/
def squareChar? (a b : UInt8) : Option Char := do
  cell? (← from? 0xA1 0xFE a) (← from? 0xA1 0xFE b)

/-! ## Syllables -/

/-- The first syllable. -/
def firstSyllable : Nat := 0xAC00

/-- The number of syllables. -/
def syllables : Nat := 11172

/-- The second octets of the letters that begin a syllable. -/
def initials : List UInt8 :=
  [0xA1, 0xA2, 0xA4, 0xA7, 0xA8, 0xA9, 0xB1, 0xB2, 0xB3, 0xB5, 0xB6, 0xB7, 0xB8, 0xB9, 0xBA, 0xBB,
   0xBC, 0xBD, 0xBE]

/-- The second octet of the first letter in the middle of a syllable. -/
def firstMedial : Nat := 0xBF

/-- The second octets of the letters that end a syllable. The filler is the first. -/
def finals : List UInt8 :=
  [0xD4, 0xA1, 0xA2, 0xA3, 0xA4, 0xA5, 0xA6, 0xA7, 0xA9, 0xAA, 0xAB, 0xAC, 0xAD, 0xAE, 0xAF, 0xB0,
   0xB1, 0xB2, 0xB4, 0xB5, 0xB6, 0xB7, 0xB8, 0xBA, 0xBB, 0xBC, 0xBD, 0xBE]

/-- The syllable of three letters by their numbers. -/
def syllable (a b c : Nat) : Char := Char.ofNat (firstSyllable + (a * 21 + b) * 28 + c)

/-- The syllable of three letters by their second octets. -/
def syllable? (a b c : UInt8) : Option Char := do
  return syllable (← initials.findIdx? (· == a)) (← from? firstMedial 0xD3 b)
    (← finals.findIdx? (· == c))

/-! ## EUC -/

/-- The text of octets in EUC-KR. A filler is followed by the three letters of a syllable. -/
def decodeEuc : Octets → Option Chars
  | [] => some []
  | [a] => (asciiChar? a).map ([·])
  | 0xA4 :: 0xD4 :: rest =>
    match rest with
    | 0xA4 :: a :: 0xA4 :: b :: 0xA4 :: c :: rest => do
      let s ← syllable? a b c
      return s :: (← decodeEuc rest)
    | _ => none
  | a :: b :: rest =>
    match asciiChar? a with
    | some c => (decodeEuc (b :: rest)).map (c :: ·)
    | none => do
      let c ← squareChar? a b
      return c :: (← decodeEuc rest)

/-! ## Code page 949 -/

/-- The place of a second octet in the rows of code page 949 beside the square. -/
def outerColumn? (b : UInt8) : Option Nat :=
  (from? 0x41 0x5A b).or (((from? 0x61 0x7A b).map (· + 26)).or ((from? 0x81 0xFE b).map (· + 52)))

/-- The place of two octets beside the square: there are 178 in a row that the square does not
    reach, and otherwise 84. -/
def outerPlace? (a b : UInt8) : Option Nat := do
  let column ← outerColumn? b
  match from? 0x81 0xA0 a with
  | some row => return row * 178 + column
  | none =>
    let row ← from? 0xA1 0xC6 a
    if column < 84 then return 32 * 178 + row * 84 + column else none

/-- The syllables of the square, ascending. -/
def squareSyllables : List Nat :=
  (((ksX1001.map (·.toList)).flatten.map (·.toNat)).filter fun n =>
    firstSyllable ≤ n && n < firstSyllable + syllables).mergeSort

/-- The number that comes at a place when ascending numbers are left out from `start` on. -/
def skipping (start place : Nat) : List Nat → Nat
  | [] => start + place
  | taken :: rest =>
    if start + place < taken then start + place
    else skipping (taken + 1) (place - (taken - start)) rest

/-- The character of two octets in code page 949. Beside the square are the syllables that it
    lacks, in their order. -/
def extended? (a b : UInt8) : Option Char :=
  (squareChar? a b).or do
    let place ← outerPlace? a b
    if place < syllables - squareSyllables.length then
      return Char.ofNat (skipping firstSyllable place squareSyllables)
    else none

/-- The text of octets in code page 949. -/
def decode949 : Octets → Option Chars := decodePairs asciiChar? extended?

/-! ## Johab -/

/-- What five bits of Johab stand for: a filler or the number of a letter. -/
inductive Part where
  | filler
  | letter (n : Nat)
  deriving DecidableEq, Repr

/-- The letters of a row of numbers in groups, each group by its first and last number. -/
def partOf? (groups : List (Nat × Nat)) (n : Nat) : Option Part :=
  (((groups.map fun (least, greatest) =>
    (List.range (greatest + 1 - least)).map (least + ·)).flatten.findIdx? (· == n))).map .letter

/-- The part that five bits are at the beginning of a syllable. -/
def johabInitial? (n : Nat) : Option Part :=
  if n = 1 then some .filler else partOf? [(2, 20)] n

/-- The part that five bits are in the middle of a syllable. -/
def johabMedial? (n : Nat) : Option Part :=
  if n = 2 then some .filler else partOf? [(3, 7), (10, 15), (18, 23), (26, 29)] n

/-- The part that five bits are at the end of a syllable. -/
def johabFinal? (n : Nat) : Option Part :=
  if n = 1 then some .filler else partOf? [(2, 17), (19, 29)] n

/-- The character of three parts: a syllable, or a letter by itself among fillers. -/
def ofParts? : Part → Part → Part → Option Char
  | .letter a, .letter b, .filler => some (syllable a b 0)
  | .letter a, .letter b, .letter c => some (syllable a b (c + 1))
  | .filler, .filler, .filler => some (Char.ofNat 0x3000)
  | .letter a, .filler, .filler => initials[a]?.bind (squareChar? 0xA4)
  | .filler, .letter b, .filler => squareChar? 0xA4 (UInt8.ofNat (firstMedial + b))
  | .filler, .filler, .letter c => finals[c + 1]?.bind (squareChar? 0xA4)
  | _, _, _ => none

/-- The character of two octets that hold three parts of five bits. -/
def johabSyllable? (a b : UInt8) : Option Char := do
  let n := a.toNat * 256 + b.toNat
  ofParts? (← johabInitial? (n / 1024 % 32)) (← johabMedial? (n / 32 % 32))
    (← johabFinal? (n % 32))

/-- The column of a second octet in two rows of the square at a time. -/
def johabColumn? (b : UInt8) : Option Nat :=
  (from? 0x31 0x7E b).or ((from? 0x91 0xFE b).map (· + 78))

/-- The character of two octets in the rows of the square. Each first octet has two rows, and the
    letters are left out. -/
def johabSquare? (a b : UInt8) : Option Char := do
  let row ← ((from? 0xD9 0xDE a).map (2 * ·)).or ((from? 0xE0 0xF9 a).map (2 * · + 41))
  let column ← johabColumn? b
  if a = 0xDA && 0xA1 ≤ b && b ≤ 0xD3 then none
  else cell? (row + column / side) (column % side)

/-- The text of octets in Johab. -/
def decodeJohab : Octets → Option Chars :=
  decodePairs asciiChar? fun a b => if a < 0xD8 then johabSyllable? a b else johabSquare? a b

end ScriptReport.Text.Korean

/-
  ScriptReport.Text.Charset.Iso2022

  Decoding seven-bit octets among which escapes say from which set the characters come. Three
  sets are at hand: one for plain octets, one behind a shift, and one for single characters.
-/

import ScriptReport.Text.Charset.OctetTables
import ScriptReport.Text.Charset.Japanese
import ScriptReport.Text.Charset.Chinese
import ScriptReport.Text.Charset.Korean

namespace ScriptReport.Text.Iso2022

open CodeTable

/-! ## Sets -/

/-- The sets that escapes ask for. -/
inductive CodeSet where
  | ascii
  /-- ASCII with a yen sign and an overline. -/
  | roman
  | katakana
  /-- The square of JIS X 0208. -/
  | japanese
  /-- The same square by its older name. -/
  | oldJapanese
  /-- The square of JIS X 0212. -/
  | supplementary
  /-- The first square of JIS X 0213 in an edition. -/
  | first (edition : Japanese.Edition)
  /-- The second square of JIS X 0213. -/
  | second
  | korean
  | chinese
  /-- The upper half of Latin-1, for single characters only. -/
  | latin
  /-- The upper half of ISO 8859-7, for single characters only. -/
  | greek
  deriving DecidableEq, Repr

/-- The sets of one octet for a character, by the last octet of their escape. -/
def singles : List (UInt8 × CodeSet) :=
  [(0x41, .latin), (0x42, .ascii), (0x46, .greek), (0x49, .katakana), (0x4A, .roman)]

/-- The sets of two octets for a character, by the last octet of their escape. -/
def doubles : List (UInt8 × CodeSet) :=
  [(0x40, .oldJapanese), (0x41, .chinese), (0x42, .japanese), (0x43, .korean), (0x44, .supplementary),
   (0x4F, .first .y2000), (0x50, .second), (0x51, .first .y2004)]

/-- What a character set with escapes provides, besides ASCII. -/
structure Variant where
  sets : List CodeSet
  /-- Octets shift to the second set and back. -/
  hasShifts : Bool
  /-- Single characters come from the third set. -/
  hasSingle : Bool
  /-- An escape may be announced as that of a revised set. -/
  hasRevisions : Bool
  deriving DecidableEq, Repr

/-- The sets of ISO-2022-JP. -/
def japaneseSets : List CodeSet := [.roman, .japanese, .oldJapanese]

/-- The variant for Korean. -/
def iso2022Kr : Variant := ⟨[.korean], true, false, false⟩

/-- The variant for Japanese. -/
def iso2022Jp : Variant := ⟨japaneseSets, false, false, true⟩

/-- The first extension for Japanese. -/
def iso2022Jp1 : Variant := ⟨.supplementary :: japaneseSets, false, false, true⟩

/-- The extension for Japanese with squares and alphabets of others. -/
def iso2022Jp2 : Variant :=
  ⟨[.supplementary, .korean, .chinese, .latin, .greek] ++ japaneseSets, false, true, true⟩

/-- The first extension with katakana of half width. -/
def iso2022JpExt : Variant :=
  ⟨[.supplementary, .katakana] ++ japaneseSets, false, false, true⟩

/-- The variant for JIS X 0213 in an edition. -/
def iso2022JpOf (edition : Japanese.Edition) : Variant :=
  ⟨[.japanese, .first edition, .second], false, false, true⟩

/-- The text of a row and column of a set, both numbered from zero on. The tilde of JIS X 0213 is
    a narrow one here. -/
def CodeSet.cell? : CodeSet → Nat → Nat → Option Chars
  | .supplementary, row, column => (Japanese.supplementary? row column).map ([·])
  | .first edition, row, column =>
    if row = 1 && column = 17 then some ['~'] else Japanese.first? edition row column
  | .second, row, column => (Japanese.second? .y2004 row column).map ([·])
  | .korean, row, column => (Korean.cell? row column).map ([·])
  | .chinese, row, column =>
    (Chinese.gb2312Char? (UInt8.ofNat (row + 0xA1)) (UInt8.ofNat (column + 0xA1))).map ([·])
  | _, row, column => (Japanese.basic? row column).map ([·])

/-- The text of a set at the front of octets below 128, and how many of them belong to it. -/
def CodeSet.text? : CodeSet → Octets → Option (Chars × Nat)
  | .ascii, a :: _ => some ([Char.ofNat a.toNat], 1)
  | .roman, 0x5C :: _ => some ([Char.ofNat 0xA5], 1)
  | .roman, 0x7E :: _ => some ([Char.ofNat 0x203E], 1)
  | .roman, a :: _ => some ([Char.ofNat a.toNat], 1)
  | .katakana, a :: _ => (Japanese.halfKatakana? (a + 0x80)).map ([·], 1)
  | .latin, _ => none
  | .greek, _ => none
  | set, a :: b :: _ => do
    return (← set.cell? (← from? 0x21 0x7E a) (← from? 0x21 0x7E b), 2)
  | _, _ => none

/-- The single character of a set. -/
def CodeSet.single? (set : CodeSet) (b : UInt8) : Option Char :=
  if 0x80 ≤ b then none
  else
    match set with
    | .ascii => some (Char.ofNat b.toNat)
    | .latin => some (Char.ofNat (b.toNat + 0x80))
    | .greek => do
      let table ← upperHalves.lookup "iso8859_7"
      let c ← (table.map (·.toList)).flatten[b.toNat]?
      if c = Char.ofNat 0xFFFE then none else some c
    | _ => none

/-! ## Escapes -/

/-- What the escapes so far have led to. -/
structure State where
  plain : CodeSet := .ascii
  shifted : CodeSet := .ascii
  single : CodeSet := .ascii
  isShifted : Bool := false
  /-- Inside a foreign escape, whose octets are text. -/
  isForeign : Bool := false
  deriving DecidableEq, Repr

/-- The octet ends an escape. -/
def endsEscape (b : UInt8) : Bool := 0x40 ≤ b && b ≤ 0x5A

/-- A set that an escape may ask for. -/
def Variant.set? (v : Variant) (sets : List (UInt8 × CodeSet)) (last : UInt8) : Option CodeSet := do
  let set ← sets.lookup last
  if set = .ascii || v.sets.contains set then some set else none

/-- The state after the escape whose octets these are, and how many they are. -/
def State.escape? (s : State) (v : Variant) : Octets → Option (State × Nat)
  | 0x24 :: 0x28 :: last :: _ => do return ({ s with plain := ← v.set? doubles last }, 3)
  | 0x24 :: 0x29 :: last :: _ => do return ({ s with shifted := ← v.set? doubles last }, 3)
  | 0x24 :: last :: _ => do return ({ s with plain := ← v.set? doubles last }, 2)
  | 0x28 :: last :: _ => do return ({ s with plain := ← v.set? singles last }, 2)
  | 0x29 :: last :: _ => do return ({ s with shifted := ← v.set? singles last }, 2)
  | 0x2E :: last :: _ => do
    if !v.hasSingle then none
    return ({ s with single := ← v.set? singles last }, 2)
  | 0x26 :: 0x40 :: 0x1B :: 0x24 :: 0x42 :: _ =>
    if v.hasRevisions then some ({ s with plain := .japanese }, 5) else none
  | _ => none

/-- The octet can begin the rest of an escape to a set. -/
def beginsEscape (b : UInt8) : Bool := [0x24, 0x26, 0x28, 0x29, 0x2E].contains b

/-! ## Decoding -/

/-- One step: what is complete, the state after it, and how many of the octets behind the first
    one belong to it. -/
def State.step? (s : State) (v : Variant) (a : UInt8) (rest : Octets) :
    Option (Chars × State × Nat) :=
  let self := Char.ofNat a.toNat
  if s.isForeign then some ([self], { s with isForeign := !endsEscape a }, 0)
  else if a = 0x1B then
    match rest with
    | [] => none
    | b :: more =>
      if beginsEscape b then do
        let (s, size) ← s.escape? v rest
        return ([], s, size)
      else if v.hasSingle && b = 0x4E then do
        let c ← s.single.single? (← more.head?)
        return ([c], s, 2)
      else some ([self], { s with isForeign := true }, 0)
  else if a = 0x0A then some ([self], { s with isShifted := false }, 0)
  else if v.hasShifts && (a = 0x0E || a = 0x0F) then some ([], { s with isShifted := a = 0x0E }, 0)
  else if a < 0x20 then some ([self], s, 0)
  else if 0x80 ≤ a then none
  else do
    let (text, size) ← (if s.isShifted then s.shifted else s.plain).text? (a :: rest)
    return (text, s, size - 1)

/-- The text of octets from a state on; `skip` octets belong to the step before. -/
def decodeFrom (v : Variant) (s : State) : Nat → Octets → Option Chars
  | _, [] => some []
  | skip + 1, _ :: rest => decodeFrom v s skip rest
  | 0, a :: rest => do
    let (text, s, size) ← s.step? v a rest
    return text ++ (← decodeFrom v s size rest)

/-- The text of octets. -/
def decode (v : Variant) (octets : Octets) : Option Chars := decodeFrom v {} 0 octets

end ScriptReport.Text.Iso2022

/-
  ScriptReport.Text.Charset.Utf7

  Decoding UTF-7: ASCII, where a plus sign opens a section of units of sixteen bits that are
  written with sixty-four characters.
-/

import ScriptReport.Text.Base64
import ScriptReport.Text.Wide

namespace ScriptReport.Text.Utf7

/-! ## Sections -/

/-- What is open inside a section. -/
structure Group where
  /-- The number of bits that have been read and not yet used. -/
  bits : Nat
  /-- These bits as a number. -/
  value : Nat
  /-- A first surrogate whose second one may follow. -/
  high : Option Nat
  deriving DecidableEq, Repr

/-- Where the reader is. -/
inductive Place where
  | direct
  /-- Just behind a plus sign. -/
  | opened
  | inside (group : Group)
  deriving DecidableEq, Repr

/-- A first surrogate that stays alone. -/
def alone (high : Option Nat) : Wide := (high.map CodePoint.surrogate).toList

/-- A unit of sixteen bits after a possible first surrogate: what is complete, and the first
    surrogate that is open then. -/
def unit (high : Option Nat) (n : Nat) : Wide × Option Nat :=
  match high.bind (Wide.pair? · n) with
  | some c => ([.char c], none)
  | none =>
    if 0xD800 ≤ n && n ≤ 0xDBFF then (alone high, some n)
    else if 0xDC00 ≤ n && n ≤ 0xDFFF then (alone high ++ [.surrogate n], none)
    else (alone high ++ [.char (Char.ofNat n)], none)

/-- One more digit of a section: what is complete, and what is open then. -/
def Group.push (group : Group) (digit : Nat) : Wide × Group :=
  let value := group.value * 64 + digit
  let bits := group.bits + 6
  if bits < 16 then ([], { group with bits, value })
  else
    let unused := Nat.pow 2 (bits - 16)
    let (text, high) := unit group.high (value / unused)
    (text, { bits := bits - 16, value := value % unused, high })

/-- The bits that are left are only filling. -/
def Group.isFilled (group : Group) : Bool := group.bits < 6 && group.value = 0

/-- The digit of an octet. -/
def digit? (b : UInt8) : Option Nat := Base64.digit? (Char.ofNat b.toNat)

/-- The octet stands for itself outside sections. -/
def isDirect (b : UInt8) : Bool := b < 0x80 && b ≠ 0x2B

/-! ## Decoding -/

/-- The text of octets from a place on. -/
def decodeFrom : Place → Octets → Option Wide
  | .inside group, [] => if group.high.isSome || !group.isFilled then none else some []
  | _, [] => some []
  | .direct, b :: rest =>
    if b = 0x2B then decodeFrom .opened rest
    else if isDirect b then (decodeFrom .direct rest).map (.char (Char.ofNat b.toNat) :: ·)
    else none
  | .opened, b :: rest =>
    if b = 0x2D then (decodeFrom .direct rest).map (.char '+' :: ·)
    else do
      let (_, group) := Group.push ⟨0, 0, none⟩ (← digit? b)
      decodeFrom (.inside group) rest
  | .inside group, b :: rest =>
    match digit? b with
    | some digit =>
      let (text, group) := group.push digit
      (decodeFrom (.inside group) rest).map (text ++ ·)
    | none =>
      if !group.isFilled then none
      else if b = 0x2D then (decodeFrom .direct rest).map (alone group.high ++ ·)
      else if isDirect b then
        (decodeFrom .direct rest).map (alone group.high ++ .char (Char.ofNat b.toNat) :: ·)
      else none

/-- The text of octets. -/
def decode (octets : Octets) : Option Wide := decodeFrom .direct octets

end ScriptReport.Text.Utf7

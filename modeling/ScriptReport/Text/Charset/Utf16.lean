/-
  ScriptReport.Text.Charset.Utf16

  Decoding units of two and of four octets. A mark in front of the text can tell the order of the
  octets in a unit.
-/

import ScriptReport.Text.Wide
import ScriptReport.Text.Utf8

namespace ScriptReport.Text

/-! ## Order -/

/-- Which octet of a unit comes first. -/
inductive ByteOrder where
  /-- The last one of the number. -/
  | little
  /-- The first one of the number. -/
  | big
  deriving DecidableEq, Repr

/-- The number of the octets of a unit. -/
def ByteOrder.number (order : ByteOrder) (octets : Octets) : Nat :=
  let ordered := match order with
    | .little => octets.reverse
    | .big => octets
  ordered.foldl (fun value b => value * 256 + b.toNat) 0

/-- The character of a number, unless it is a surrogate or too great. -/
def scalar? (n : Nat) : Option Char := if n.isValidChar then some (Char.ofNat n) else none

/-! ## UTF-16 -/

namespace Utf16

/-- The text of octets in a known order: one unit for a character, or two surrogates. -/
def decodeIn (order : ByteOrder) : Octets → Option Chars
  | [] => some []
  | [a, b] => (scalar? (order.number [a, b])).map ([·])
  | a :: b :: x :: y :: rest =>
    match Wide.pair? (order.number [a, b]) (order.number [x, y]) with
    | some c => (decodeIn order rest).map (c :: ·)
    | none => do
      let c ← scalar? (order.number [a, b])
      return c :: (← decodeIn order (x :: y :: rest))
  | _ => none

/-- The text of octets whose order a mark can tell. -/
def decode : Octets → Option Chars
  | 0xFF :: 0xFE :: rest => decodeIn .little rest
  | 0xFE :: 0xFF :: rest => decodeIn .big rest
  | octets => decodeIn .little octets

end Utf16

/-! ## UTF-32 -/

namespace Utf32

/-- The text of octets in a known order, one unit for a character. -/
def decodeIn (order : ByteOrder) : Octets → Option Chars
  | [] => some []
  | a :: b :: x :: y :: rest => do
    let c ← scalar? (order.number [a, b, x, y])
    return c :: (← decodeIn order rest)
  | _ => none

/-- The text of octets whose order a mark can tell. -/
def decode : Octets → Option Chars
  | 0xFF :: 0xFE :: 0 :: 0 :: rest => decodeIn .little rest
  | 0 :: 0 :: 0xFE :: 0xFF :: rest => decodeIn .big rest
  | octets => decodeIn .little octets

end Utf32

end ScriptReport.Text

/-
  ScriptReport.Text.Utf8

  UTF-8: the octets of a text, and the text of octets. Decoding refuses overlong forms,
  surrogates and values above U+10FFFF, and says at which octets and why it stopped.
-/

import ScriptReport.Text.Quoted

namespace ScriptReport.Text

/-- A sequence of octets. -/
abbrev Octets := List UInt8

namespace Utf8

/-! ## Encoding -/

/-- The octet of a number below 256. -/
def octet (n : Nat) : UInt8 := UInt8.ofNat n

/-- The octets of one character. -/
def encodeChar (c : Char) : Octets :=
  let n := c.toNat
  if n < 0x80 then [octet n]
  else if n < 0x800 then [octet (0xC0 + n / 64), octet (0x80 + n % 64)]
  else if n < 0x10000 then
    [octet (0xE0 + n / 4096), octet (0x80 + n / 64 % 64), octet (0x80 + n % 64)]
  else
    [octet (0xF0 + n / 262144), octet (0x80 + n / 4096 % 64), octet (0x80 + n / 64 % 64),
     octet (0x80 + n % 64)]

/-- The octets of a text. -/
def encode (text : Chars) : Octets := (text.map encodeChar).flatten

/-! ## Decoding -/

/-- Why octets are no text. -/
inductive Reason where
  /-- No character starts with this octet. -/
  | invalidStart
  /-- The octet cannot follow those before it. -/
  | invalidContinuation
  /-- The octets end inside a character. -/
  | truncated
  deriving DecidableEq, Repr

/-- The octets at which decoding stopped. -/
structure Fault where
  reason : Reason
  /-- The position of the first octet concerned. -/
  start : Nat
  /-- The octets concerned, at least one. -/
  octets : Octets
  deriving DecidableEq, Repr

/-- The octet continues a character. -/
def isTail (b : UInt8) : Bool := 0x80 ≤ b && b ≤ 0xBF

/-- The octet may follow a first octet: besides being a tail it must not begin an overlong form,
    a surrogate or a value above U+10FFFF. -/
def isSecond (first second : UInt8) : Bool :=
  isTail second &&
    (if first = 0xE0 then 0xA0 ≤ second
     else if first = 0xED then second ≤ 0x9F
     else if first = 0xF0 then 0x90 ≤ second
     else if first = 0xF4 then second ≤ 0x8F
     else true)

/-- How many octets a character has that starts with this one. -/
def size? (first : UInt8) : Option Nat :=
  if first < 0x80 then some 1
  else if first < 0xC2 then none
  else if first < 0xE0 then some 2
  else if first < 0xF0 then some 3
  else if first < 0xF5 then some 4
  else none

/-- The character of the given octets of a valid form. -/
def assemble (first : UInt8) (tails : Octets) : Char :=
  let lead := match tails.length with
    | 0 => first.toNat
    | 1 => first.toNat % 32
    | 2 => first.toNat % 16
    | _ => first.toNat % 8
  Char.ofNat (tails.foldl (fun value b => value * 64 + b.toNat % 64) lead)

/-- The number of octets after `first` that fit it, out of the `needed` ones. -/
def fitting (first : UInt8) (needed : Nat) (rest : Octets) : Nat :=
  match rest with
  | [] => 0
  | second :: more =>
    if needed = 0 || !isSecond first second then 0
    else 1 + ((more.take (needed - 1)).takeWhile isTail).length

/-- `decode` from the octet at `position` on; `skip` octets belong to the character before. -/
def decodeFrom (position : Nat) : Nat → Octets → Except Fault Chars
  | _, [] => .ok []
  | skip + 1, _ :: rest => decodeFrom (position + 1) skip rest
  | 0, first :: rest =>
    match size? first with
    | none => .error ⟨.invalidStart, position, [first]⟩
    | some size =>
      let found := fitting first (size - 1) rest
      if found = size - 1 then
        match decodeFrom (position + 1) found rest with
        | .ok text => .ok (assemble first (rest.take found) :: text)
        | .error fault => .error fault
      else
        .error ⟨if rest.length = found then .truncated else .invalidContinuation, position,
          first :: rest.take found⟩

/-- The text of the octets. -/
def decode (octets : Octets) : Except Fault Chars := decodeFrom 0 0 octets

/-! ## Messages -/

/-- The wording of a reason. -/
def Reason.message : Reason → Chars
  | .invalidStart => "invalid start byte"
  | .invalidContinuation => "invalid continuation byte"
  | .truncated => "unexpected end of data"

/-- Where decoding stopped and why, for a decoder of the given name. -/
def Fault.message (decoder : Chars) (fault : Fault) : Chars :=
  let place := match fault.octets with
    | [b] => "byte 0x" ++ hex 2 b.toNat ++ " in position " ++ ofNat fault.start
    | octets => "bytes in position " ++ ofNat fault.start ++ "-" ++
        ofNat (fault.start + octets.length - 1)
  quoted decoder ++ " codec can't decode " ++ place ++ ": " ++ fault.reason.message

/-- The fault as a reader meets it that takes the text line by line: an incomplete last
    character is then all that is left. -/
def Fault.atEnd (fault : Fault) : Fault :=
  match fault.reason with
  | .truncated => { fault with start := 0 }
  | _ => fault

end Utf8

end ScriptReport.Text

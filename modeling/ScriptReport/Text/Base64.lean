/-
  ScriptReport.Text.Base64

  Octets written with sixty-four characters, four for each three octets. Other characters between
  them are skipped, and padding has to fill up the last group.
-/

import ScriptReport.Text.Utf8

namespace ScriptReport.Text.Base64

/-! ## Digits -/

/-- The value of a character, if it has one. -/
def digit? (c : Char) : Option Nat :=
  if 'A' ≤ c && c ≤ 'Z' then some (c.toNat - 'A'.toNat)
  else if 'a' ≤ c && c ≤ 'z' then some (c.toNat - 'a'.toNat + 26)
  else if c.isDigit then some (c.toNat - '0'.toNat + 52)
  else if c = '+' then some 62
  else if c = '/' then some 63
  else none

/-! ## Decoding -/

/-- `decode?` inside a group: `count` characters of it have been read, whose last bits not yet
    written are `bits`, and `pads` paddings. -/
def decodeFrom? (count bits pads : Nat) : Chars → Option Octets
  | [] => if count = 0 then some [] else none
  | c :: rest =>
    if c = '=' then
      if 2 ≤ count then
        if 4 ≤ count + (pads + 1) then some [] else decodeFrom? count bits (pads + 1) rest
      else decodeFrom? count bits pads rest
    else
      match digit? c with
      | none => decodeFrom? count bits pads rest
      | some d =>
        match count with
        | 0 => decodeFrom? 1 d 0 rest
        | 1 => (decodeFrom? 2 (d % 16) 0 rest).map (UInt8.ofNat (bits * 4 + d / 16) :: ·)
        | 2 => (decodeFrom? 3 (d % 4) 0 rest).map (UInt8.ofNat (bits * 16 + d / 4) :: ·)
        | _ => (decodeFrom? 0 0 0 rest).map (UInt8.ofNat (bits * 64 + d) :: ·)

/-- The octets that an ASCII text spells. -/
def decode? (text : Chars) : Option Octets :=
  if text.all fun c => c.toNat < 128 then decodeFrom? 0 0 0 text else none

end ScriptReport.Text.Base64

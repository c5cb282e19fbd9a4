/-
  ScriptReport.Url.Percent

  Percent encoding of paths. Encoding keeps slashes; decoding takes each percent sign with two
  hexadecimal digits for an octet, and what is then no UTF-8 for replacement characters.
-/

import ScriptReport.Text.Utf8
import ScriptReport.Url.Address

namespace ScriptReport.Url

open ScriptReport.Text (Octets)

/-! ## Encoding -/

/-- A letter, a digit or a mark that is never encoded. -/
def isUnreserved (c : Char) : Bool := c.isAlphanum || c = '_' || c = '.' || c = '-' || c = '~'

/-- An upper-case hexadecimal digit. -/
def hexDigit (n : Nat) : Char := (Nat.digitChar n).toUpper

/-- A percent sign and the two digits of an octet. -/
def encodeOctet (b : UInt8) : Chars := ['%', hexDigit (b.toNat / 16), hexDigit (b.toNat % 16)]

/-- The text with everything encoded but unreserved characters and the given ones. -/
def encodeBut (kept : Chars) (text : Chars) : Chars :=
  Text.concatMap (fun c =>
    if isUnreserved c || kept.contains c then [c]
    else Text.concatMap encodeOctet (Text.Utf8.encodeChar c)) text

/-- The path with everything but letters, digits, slashes and a few marks encoded. -/
def encode (path : Chars) : Chars := encodeBut ['/'] path

/-! ## Decoding -/

/-- The octets that an encoded text stands for. -/
def decodeOctets : Chars → Octets
  | [] => []
  | '%' :: a :: b :: rest =>
    match Text.hexDigit? a, Text.hexDigit? b with
    | some high, some low => UInt8.ofNat (high * 16 + low) :: decodeOctets rest
    | _, _ => Text.Utf8.encodeChar '%' ++ decodeOctets (a :: b :: rest)
  | c :: rest => Text.Utf8.encodeChar c ++ decodeOctets rest
termination_by text => text.length

/-- The text of octets, each stretch that is no UTF-8 as one replacement character. -/
def decodeReplacing (octets : Octets) : Chars :=
  match octets with
  | [] => []
  | first :: rest =>
    match Text.Utf8.size? first with
    | none => Char.ofNat 0xFFFD :: decodeReplacing rest
    | some size =>
      let found := Text.Utf8.fitting first (size - 1) rest
      (if found = size - 1 then Text.Utf8.assemble first (rest.take found)
       else Char.ofNat 0xFFFD) :: decodeReplacing (rest.drop found)
termination_by octets.length
decreasing_by all_goals simp; try omega

/-- The text that an encoded text stands for. -/
def decode (text : Chars) : Chars := decodeReplacing (decodeOctets text)

end ScriptReport.Url

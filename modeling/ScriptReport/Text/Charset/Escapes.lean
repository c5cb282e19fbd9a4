/-
  ScriptReport.Text.Charset.Escapes

  Decoding texts in which backslashes spell characters, octets without one being the characters
  of the same numbers.
-/

import ScriptReport.Text.Wide
import ScriptReport.Text.Utf8

namespace ScriptReport.Text.Escapes

/-! ## Numbers -/

/-- The value of an octet as a digit of a base. -/
def digit? (base : Nat) (b : UInt8) : Option Nat :=
  let c := Char.ofNat b.toNat
  let value :=
    if c.isDigit then c.toNat - '0'.toNat
    else if 'a' ≤ c && c ≤ 'f' then c.toNat - 'a'.toNat + 10
    else if 'A' ≤ c && c ≤ 'F' then c.toNat - 'A'.toNat + 10
    else base
  if value < base then some value else none

/-- The code point of a number, if it is not too great. -/
def codePoint? (n : Nat) : Option CodePoint := if n < 0x110000 then some (.ofNumber n) else none

/-- The code point that the first octets spell in sixteens. -/
def hexPoint? (width : Nat) (octets : Octets) : Option CodePoint := do
  let digits ← (octets.take width).mapM (digit? 16)
  if digits.length < width then none else codePoint? (digits.foldl (· * 16 + ·) 0)

/-! ## What follows a backslash -/

/-- Escapes of one octet. A line feed is dropped. -/
def simple : List (Char × Chars) :=
  [('\n', []), ('\\', ['\\']), ('\'', ['\'']), ('"', ['"']), ('b', ['\x08']), ('f', ['\x0c']),
   ('t', ['\t']), ('n', ['\n']), ('r', ['\r']), ('v', ['\x0b']), ('a', ['\x07'])]

/-- The widths of the numbers in sixteens. -/
def widths : List (Char × Nat) := [('x', 2), ('u', 4), ('U', 8)]

/-- What the octets after a backslash stand for, and how many of them belong to it. Characters
    cannot be asked for by their names. -/
def escape? : Octets → Option (Wide × Nat)
  | [] => none
  | b :: rest =>
    let c := Char.ofNat b.toNat
    let octal := (((b :: rest).take 3).map (digit? 8)).takeWhile Option.isSome
    match simple.lookup c, octal, widths.lookup c with
    | some text, _, _ => some (Wide.ofChars text, 1)
    | none, _ :: _, _ => do
      let point ← codePoint? ((octal.filterMap id).foldl (· * 8 + ·) 0)
      return ([point], octal.length)
    | none, [], some width => do return ([← hexPoint? width rest], width + 1)
    | none, [], none => if c = 'N' then none else some (Wide.ofChars ['\\', c], 1)

/-- `escape?` where only numbers of four and of eight digits are escapes. -/
def rawEscape? : Octets → Option (Wide × Nat)
  | [] => some (Wide.ofChars ['\\'], 0)
  | b :: rest =>
    let c := Char.ofNat b.toNat
    match if c = 'x' then none else widths.lookup c with
    | some width => do return ([← hexPoint? width rest], width + 1)
    | none => some (Wide.ofChars ['\\', c], 1)

/-! ## Decoding -/

/-- The text of octets whose first `skip` ones belong to the escape before. -/
def decodeFrom (escape? : Octets → Option (Wide × Nat)) : Nat → Octets → Option Wide
  | _, [] => some []
  | skip + 1, _ :: rest => decodeFrom escape? skip rest
  | 0, b :: rest =>
    if b = 0x5C then do
      let (text, size) ← escape? rest
      return text ++ (← decodeFrom escape? size rest)
    else (decodeFrom escape? 0 rest).map (.char (Char.ofNat b.toNat) :: ·)

/-- The text of octets with all escapes. -/
def decode (octets : Octets) : Option Wide := decodeFrom escape? 0 octets

/-- The text of octets with the escapes by number. -/
def decodeRaw (octets : Octets) : Option Wide := decodeFrom rawEscape? 0 octets

end ScriptReport.Text.Escapes

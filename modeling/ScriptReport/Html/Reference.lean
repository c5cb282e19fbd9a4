/-
  ScriptReport.Html.Reference

  Reading character references back. A reference is by number or by name; the closing semicolon
  may be missing, and of a longer word the longest beginning that is a name counts.
-/

import ScriptReport.Html.EntityTable
import ScriptReport.Text.Chars

namespace ScriptReport.Html

/-! ## References by number -/

/-- What the numbers 128 to 159 stand for, in order: the characters of a Windows code page. -/
def windowsControls : List Nat :=
  [0x20AC, 0x81, 0x201A, 0x192, 0x201E, 0x2026, 0x2020, 0x2021, 0x2C6, 0x2030, 0x160, 0x2039,
   0x152, 0x8D, 0x17D, 0x8F, 0x90, 0x2018, 0x2019, 0x201C, 0x201D, 0x2022, 0x2013, 0x2014, 0x2DC,
   0x2122, 0x161, 0x203A, 0x153, 0x9D, 0x17E, 0x178]

/-- The number is that of a control or of no character at all, and stands for nothing. -/
def isVoidNumber (n : Nat) : Bool :=
  (1 ≤ n && n ≤ 8) || n == 11 || (14 ≤ n && n ≤ 31) || (127 ≤ n && n ≤ 159) ||
    (0xFDD0 ≤ n && n ≤ 0xFDEF) || 0xFFFE ≤ n % 0x10000

/-- The text that a number stands for. -/
def numbered (n : Nat) : Chars :=
  if n = 0 then [Char.ofNat 0xFFFD]
  else if n = 13 then ['\r']
  else if 128 ≤ n && n ≤ 159 then [Char.ofNat (windowsControls.getD (n - 128) 0)]
  else if (0xD800 ≤ n && n ≤ 0xDFFF) || 0x10FFFF < n then [Char.ofNat 0xFFFD]
  else if isVoidNumber n then []
  else [Char.ofNat n]

/-- The number written by hexadecimal digits. -/
def hexNumber (digits : Chars) : Nat :=
  digits.foldl (fun value c => value * 16 + (Text.hexDigit? c).getD 0) 0

/-- The number written by decimal digits. -/
def decimalNumber (digits : Chars) : Nat :=
  digits.foldl (fun value c => value * 10 + (c.toNat - '0'.toNat)) 0

/-! ## References by name -/

/-- The text that a name without its semicolon stands for. The names that escaping writes come
    first. -/
def named? (name : Chars) : Option Chars :=
  if name = "amp".toList then some ['&']
  else if name = "lt".toList then some ['<']
  else if name = "gt".toList then some ['>']
  else if name = "quot".toList then some ['"']
  else
    (namedReferences.find? fun entry => entry.1 == String.ofList name).map
      fun entry => entry.2.map Char.ofNat

/-- The text that a name stands for, where only some names do without the semicolon. -/
def lookup? (name : Chars) : Option Chars :=
  if name.getLast? = some ';' then named? name.dropLast
  else if bareNames.contains (String.ofList name) then named? name
  else none

/-- The longest beginning of at most the given length, and of at least two characters, that is a
    name: what it stands for, and the rest of the word. -/
def longestName? (word : Chars) : Nat → Option (Chars × Chars)
  | 0 => none
  | 1 => none
  | n + 2 =>
    match lookup? (word.take (n + 2)) with
    | some text => some (text, word.drop (n + 2))
    | none => longestName? word (n + 1)

/-- The text of a word after an ampersand; a word that begins with no name keeps it. -/
def readName (word : Chars) : Chars :=
  match lookup? word with
  | some text => text
  | none =>
    match longestName? word (word.length - 1) with
    | some (text, rest) => text ++ rest
    | none => '&' :: word

/-! ## Scanning -/

/-- What may be in the word after an ampersand. -/
def isNameChar (c : Char) : Bool :=
  !(c = '\t' || c = '\n' || c = '\x0c' || c = ' ' || c = '<' || c = '&' || c = '#' || c = ';')

/-- The longest word that is looked up, without its semicolon. -/
def maxNameLength : Nat := 32

/-- One if the text goes on with a semicolon. -/
def closing (text : Chars) : Nat := if text.head? = some ';' then 1 else 0

/-- A reference as it stands after its ampersand. -/
inductive Reference where
  | decimal (digits : Chars)
  | hexadecimal (digits : Chars)
  | word (name : Chars)
  deriving DecidableEq, Repr

/-- The reference after an ampersand and its length, if one stands there. -/
def reference? : Chars → Option (Reference × Nat)
  | '#' :: rest =>
    let digits := rest.takeWhile fun c => '0' ≤ c && c ≤ '9'
    if digits ≠ [] then
      some (.decimal digits, 1 + digits.length + closing (rest.drop digits.length))
    else
      match rest with
      | x :: rest =>
        let digits := rest.takeWhile fun c => (Text.hexDigit? c).isSome
        if (x = 'x' || x = 'X') && digits ≠ [] then
          some (.hexadecimal digits, 2 + digits.length + closing (rest.drop digits.length))
        else none
      | [] => none
  | text =>
    let name := (text.take maxNameLength).takeWhile isNameChar
    if name = [] then none
    else
      let size := name.length + closing (text.drop name.length)
      some (.word (text.take size), size)

/-- The text that a reference stands for. -/
def Reference.text : Reference → Chars
  | .decimal digits => numbered (decimalNumber digits)
  | .hexadecimal digits => numbered (hexNumber digits)
  | .word name => readName name

/-! ## Unescaping -/

/-- `unescape` inside the text: `skip` characters belong to the reference just read. -/
def unescapeGo : Nat → Chars → Chars
  | _, [] => []
  | skip + 1, _ :: rest => unescapeGo skip rest
  | 0, c :: rest =>
    if c = '&' then
      match reference? rest with
      | some (reference, size) => reference.text ++ unescapeGo size rest
      | none => c :: unescapeGo 0 rest
    else c :: unescapeGo 0 rest

/-- The text with every reference replaced by what it stands for. -/
def unescape (text : Chars) : Chars := unescapeGo 0 text

/-- The longest decimal number that is read, in digits. -/
def maxReferenceDigits : Nat := 4300

/-- The length of the first decimal number in a reference that is too long to be read. -/
def overlongNumber? : Nat → Chars → Option Nat
  | _, [] => none
  | skip + 1, _ :: rest => overlongNumber? skip rest
  | 0, c :: rest =>
    if c = '&' then
      match reference? rest with
      | some (.decimal digits, size) =>
        if maxReferenceDigits < digits.length then some digits.length
        else overlongNumber? size rest
      | some (_, size) => overlongNumber? size rest
      | none => overlongNumber? 0 rest
    else overlongNumber? 0 rest

end ScriptReport.Html

/-
  ScriptReport.Text.Integer

  Reading an integer as a user types it: an optional sign and decimal digits of any script, with
  single underscores allowed between digits and blanks around the whole.
-/

import ScriptReport.Text.Blank

namespace ScriptReport.Text

/-! ## Digits -/

/-- The zeros of the decimal digit sequences of Unicode 14; each is followed by its nine others. -/
def decimalZeros : List Nat :=
  [48, 1632, 1776, 1984, 2406, 2534, 2662, 2790, 2918, 3046, 3174, 3302, 3430, 3558, 3664, 3792,
   3872, 4160, 4240, 6112, 6160, 6470, 6608, 6784, 6800, 6992, 7088, 7232, 7248, 42528, 43216,
   43264, 43472, 43504, 43600, 44016, 65296, 66720, 68912, 69734, 69872, 69942, 70096, 70384,
   70736, 70864, 71248, 71360, 71472, 71904, 72016, 72784, 73040, 73120, 92768, 92864, 93008,
   120782, 120792, 120802, 120812, 120822, 123200, 123632, 125264, 130032]

/-- The value of a decimal digit. -/
def digitValue? (c : Char) : Option Nat :=
  (decimalZeros.find? fun z => z ≤ c.toNat && c.toNat < z + 10).map (c.toNat - ·)

/-- The value of a letter as a digit: `a` is ten, in either case. -/
def letterValue? (c : Char) : Option Nat :=
  if 'a' ≤ c && c ≤ 'z' then some (c.toNat - 'a'.toNat + 10)
  else if 'A' ≤ c && c ≤ 'Z' then some (c.toNat - 'A'.toNat + 10)
  else none

/-- The value of a digit of the given base. -/
def baseDigit? (base : Nat) (c : Char) : Option Nat :=
  ((digitValue? c).or (letterValue? c)).filter (· < base)

/-- Digits in groups that single underscores separate, read from the left onto `value`;
    `open_` holds while a digit has to follow. -/
def readDigits? (base : Nat) (open_ : Bool) (value : Nat) : Chars → Option Nat
  | [] => if open_ then none else some value
  | c :: rest =>
    if c = '_' then if open_ then none else readDigits? base true value rest
    else
      match baseDigit? base c with
      | some d => readDigits? base false (value * base + d) rest
      | none => none

/-! ## Integers -/

/-- A blank that may stand around a number: of ASCII only tab to carriage return and the space. -/
def isNumberBlank (c : Char) : Bool := isBlankChar c && !(28 ≤ c.toNat && c.toNat ≤ 31)

/-- The text without the blanks around a number. -/
def trimNumber (text : Chars) : Chars := dropEndWhile isNumberBlank (text.dropWhile isNumberBlank)

/-- Whether a number is negative, and what follows its sign. -/
def cutSign : Chars → Bool × Chars
  | '-' :: rest => (true, rest)
  | '+' :: rest => (false, rest)
  | text => (false, text)

/-- The mark in front of numbers of a base, if it has one. -/
def baseMark (base : Nat) : Chars :=
  if base = 2 then ['b', 'B'] else if base = 8 then ['o', 'O'] else if base = 16 then ['x', 'X']
  else []

/-- The digits of a number without the mark of the base. -/
def cutMark (base : Nat) : Chars → Chars
  | '0' :: mark :: rest => if (baseMark base).contains mark then rest else '0' :: mark :: rest
  | text => text

/-- The integer that the text spells in the given base. -/
def readIntIn? (base : Nat) (text : Chars) : Option Int :=
  let (negative, digits) := cutSign (trimNumber text)
  (readDigits? base true 0 (cutMark base digits)).map fun n => if negative then -(n : Int) else n

/-- The number of decimal digits in a text. -/
def countDigits (text : Chars) : Nat := text.countP fun c => (digitValue? c).isSome

/-- The longest decimal number that is read, in digits. -/
def maxDigits : Nat := 4300

/-- The wording for a decimal number with too many digits. -/
def overlongMessage (digits : Nat) : Chars :=
  "Exceeds the limit (4300 digits) for integer string conversion: value has " ++ ofNat digits ++
    " digits; use sys.set_int_max_str_digits() to increase the limit"

/-- The integer that the text spells in decimal digits. -/
def readInt? (text : Chars) : Option Int :=
  if maxDigits < countDigits text then none else readIntIn? 10 text

end ScriptReport.Text

/-
  ScriptReport.Text.Charset.Punycode

  Punycode: behind the last hyphen, numbers tell which characters beyond ASCII are put where into
  the text before it. The numbers have variable length; when a number ends depends on a bias that
  follows the size of the numbers so far.
-/

import ScriptReport.Text.Utf8
import ScriptReport.Text.Wide

namespace ScriptReport.Text.Punycode

/-! ## Faults -/

/-- Why octets are no such text. -/
inductive Fault where
  /-- An octet is not one of ASCII. -/
  | notAscii
  /-- The octets end inside a number. -/
  | incomplete
  | noDigit (c : Char)
  /-- A number leads beyond the characters. -/
  | tooGreat (n : Nat)
  deriving DecidableEq, Repr

/-! ## Numbers -/

/-- The value of a digit. -/
def digit? (c : Char) : Option Nat :=
  if c.isUpper then some (c.toNat - 'A'.toNat)
  else if c.isDigit then some (c.toNat - '0'.toNat + 26)
  else none

/-- The least digit that is not the last one of its number, at a position. -/
def threshold (position bias : Nat) : Nat := min 26 (max 1 (36 * (position + 1) - bias))

/-- The number at the front, and what follows it. -/
def readNumber (bias position value weight : Nat) : Chars → Except Fault (Nat × Chars)
  | [] => .error .incomplete
  | c :: rest =>
    match digit? c with
    | none => .error (.noDigit c)
    | some d =>
      let t := threshold position bias
      if d < t then .ok (value + d * weight, rest)
      else readNumber bias (position + 1) (value + d * weight) (weight * (36 - t)) rest

/-- `delta` divided until it is small, and how often. -/
def shrink (delta times : Nat) : Nat × Nat :=
  if 455 < delta then shrink (delta / 35) (times + 1) else (delta, times)
termination_by delta
decreasing_by exact Nat.div_lt_self (by omega) (by omega)

/-- The bias after a number, when the text has `size` characters. -/
def adapt (delta size : Nat) (isFirst : Bool) : Nat :=
  let scaled := if isFirst then delta / 700 else delta / 2
  let (left, times) := shrink (scaled + scaled / size) 0
  36 * times + 36 * left / (left + 38)

/-! ## Decoding -/

/-- What has been put in, and how. -/
structure State where
  text : Wide
  /-- The number of the last character put in. -/
  number : Nat := 128
  /-- The place behind it. -/
  place : Nat := 0
  bias : Nat := 72
  isFirst : Bool := true

/-- One more character put in. -/
def State.put (s : State) (delta : Nat) : Except Fault State :=
  let size := s.text.length + 1
  let place := s.place + delta
  let number := s.number + place / size
  let place := place % size
  if 0x110000 ≤ number then .error (.tooGreat number)
  else .ok {
    text := s.text.take place ++ .ofNumber number :: s.text.drop place
    number
    place := place + 1
    bias := adapt delta size s.isFirst
    isFirst := false }

/-- All characters put in; every number has at least one digit. -/
def insertAll (fuel : Nat) (s : State) (digits : Chars) : Except Fault Wide :=
  match fuel, digits with
  | _, [] => .ok s.text
  | 0, _ => .ok s.text
  | fuel + 1, digits => do
    let (delta, rest) ← readNumber s.bias 0 0 1 digits
    insertAll fuel (← s.put delta) rest

/-- The text of octets. -/
def decode (octets : Octets) : Except Fault Wide := do
  if octets.any (0x80 ≤ ·) then throw .notAscii
  let text := octets.map fun b => Char.ofNat b.toNat
  let digits := (text.reverse.takeWhile (· ≠ '-')).reverse.map Char.toUpper
  let base := text.take (text.length - digits.length - 1)
  insertAll digits.length { text := .ofChars base } digits

/-! ## Encoding -/

/-- A digit. -/
def digitChar (d : Nat) : Char :=
  if d < 26 then Char.ofNat ('a'.toNat + d) else Char.ofNat ('0'.toNat + (d - 26))

theorem threshold_pos (position bias : Nat) : 0 < threshold position bias := by
  unfold threshold; omega

/-- The digits of a number from a position on. -/
def writeNumber (bias position n : Nat) : Chars :=
  let t := threshold position bias
  if n < t then [digitChar n]
  else digitChar (t + (n - t) % (36 - t)) :: writeNumber bias (position + 1) ((n - t) / (36 - t))
termination_by n
decreasing_by
  have := threshold_pos position bias
  exact Nat.lt_of_le_of_lt (Nat.div_le_self _ _) (by omega)

/-- What has been written, and how. -/
structure Writer where
  digits : Chars
  delta : Nat := 0
  bias : Nat := 72
  /-- The number of characters that are placed. -/
  placed : Nat
  isFirst : Bool := true

/-- The step past one character when those with the number `n` are placed. -/
def Writer.pass (n : Nat) (w : Writer) (c : Char) : Writer :=
  if c.toNat < n then { w with delta := w.delta + 1 }
  else if c.toNat = n then
    { digits := w.digits ++ writeNumber w.bias 0 w.delta
      bias := adapt w.delta (w.placed + 1) w.isFirst
      placed := w.placed + 1
      isFirst := false }
  else w

/-- The characters of the given numbers placed, `next` being the least number that is left. -/
def writeAll (text : Chars) (w : Writer) (next : Nat) : List Nat → Chars
  | [] => w.digits
  | n :: rest =>
    let w := { w with delta := w.delta + (n - next) * (w.placed + 1) }
    let w := text.foldl (Writer.pass n) w
    writeAll text { w with delta := w.delta + 1 } (n + 1) rest

/-- The text in ASCII. -/
def encode (text : Chars) : Chars :=
  let basic := text.filter (·.toNat < 0x80)
  let others := ((text.map (·.toNat)).filter (0x80 ≤ ·)).eraseDups.mergeSort
  basic ++ (if basic = [] then [] else ['-']) ++
    writeAll text { digits := [], placed := basic.length } 128 others

end ScriptReport.Text.Punycode

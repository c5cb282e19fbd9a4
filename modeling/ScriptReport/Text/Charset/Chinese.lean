/-
  ScriptReport.Text.Charset.Chinese

  Decoding the Chinese character sets. Those of mainland China extend one another: GBK holds
  GB 2312 as its last rows and columns, and GB 18030 holds GBK. Those of Taiwan extend Big5.
-/

import ScriptReport.Text.Charset.ChineseTables
import ScriptReport.Text.Charset.Big5Table
import ScriptReport.Text.Charset.HkscsTable

namespace ScriptReport.Text.Chinese

open CodeTable

/-! ## GBK -/

/-- The number of columns of GBK. -/
def gbkColumns : Nat := 190

/-- The place of two octets in GBK. -/
def gbkPlace? (a b : UInt8) : Option Nat := do
  let row ← from? 0x81 0xFE a
  let column ← (from? 0x40 0x7E b).or ((from? 0x80 0xFE b).map (· + 63))
  return row * gbkColumns + column

/-- The character of two octets in GBK. -/
def gbkChar? (a b : UInt8) : Option Char := do charAt? gbk (← gbkPlace? a b)

/-- The text of octets in GBK. -/
def decodeGbk : Octets → Option Chars := decodePairs asciiChar? gbkChar?

/-! ## GB 2312 -/

/-- The columns of three rows that GBK has filled, by first octet. -/
def filledLater : List (UInt8 × List (UInt8 × UInt8)) :=
  [(0xA2, [(0xA1, 0xAA)]), (0xA6, [(0xE0, 0xEB), (0xEE, 0xF2), (0xF4, 0xF5)]),
   (0xA8, [(0xBB, 0xBB), (0xBD, 0xBE), (0xC0, 0xC0)])]

/-- The character of two octets in GB 2312. The middle point and the dash are wide ones there. -/
def gb2312Char? (a b : UInt8) : Option Char :=
  if a < 0xA1 || b < 0xA1 then none
  else if a = 0xA1 && b = 0xA4 then some (Char.ofNat 0x30FB)
  else if a = 0xA1 && b = 0xAA then some (Char.ofNat 0x2015)
  else if ((filledLater.lookup a).getD []).any fun (least, greatest) => least ≤ b && b ≤ greatest
  then none
  else gbkChar? a b

/-- The text of octets in GB 2312. -/
def decodeGb2312 : Octets → Option Chars := decodePairs asciiChar? gb2312Char?

/-! ## HZ -/

/-- The text of octets in HZ from a state on: between tilde and opening brace, and tilde and
    closing brace, pairs of seven-bit octets are those of GB 2312. -/
def decodeHz (wide : Bool) : Octets → Option Chars
  | [] => some []
  | 0x7E :: b :: rest =>
    match wide, b with
    | false, 0x7E => (decodeHz false rest).map ('~' :: ·)
    | false, 0x7B => decodeHz true rest
    | false, 0x0A => decodeHz false rest
    | true, 0x7D => decodeHz false rest
    | _, _ => none
  | [a] => if wide || a = 0x7E then none else (asciiChar? a).map ([·])
  | a :: b :: rest =>
    if 0x80 ≤ a then none
    else if wide then do
      if 0x80 ≤ b then none
      let c ← gb2312Char? (a + 0x80) (b + 0x80)
      return c :: (← decodeHz true rest)
    else (decodeHz false (b :: rest)).map (Char.ofNat a.toNat :: ·)

/-! ## GB 18030 -/

/-- The character of two octets in GB 18030. -/
def gb18030Pair? (a b : UInt8) : Option Char := do
  let place ← gbkPlace? a b
  (runChar? gb18030Pairs place).or (charAt? gbk place)

/-- The number of the first group of four octets that stands for a character beyond U+FFFF. -/
def firstBeyond : Nat := 189000

/-- The character of four octets in GB 18030. Such groups are numbered; the characters beyond
    U+FFFF have consecutive numbers. -/
def gb18030Quad? (a b c d : UInt8) : Option Char := do
  let n := ((((← from? 0x81 0xFE a) * 10 + (← from? 0x30 0x39 b)) * 126) + (← from? 0x81 0xFE c)) *
    10 + (← from? 0x30 0x39 d)
  if n < firstBeyond then runChar? gb18030Quads n
  else if n - firstBeyond < 0x100000 then return Char.ofNat (0x10000 + (n - firstBeyond))
  else none

/-- The text of octets in GB 18030: a digit in the second place makes a group of four. -/
def decodeGb18030 : Octets → Option Chars
  | [] => some []
  | [a] => (asciiChar? a).map ([·])
  | a :: b :: rest =>
    match asciiChar? a with
    | some c => (decodeGb18030 (b :: rest)).map (c :: ·)
    | none =>
      if (from? 0x30 0x39 b).isNone then do
        let c ← gb18030Pair? a b
        return c :: (← decodeGb18030 rest)
      else
        match rest with
        | x :: y :: rest => do
          let c ← gb18030Quad? a b x y
          return c :: (← decodeGb18030 rest)
        | _ => none

/-! ## Big5 -/

/-- The number of columns of Big5. -/
def big5Columns : Nat := 157

/-- The column of a second octet. -/
def big5Column? (b : UInt8) : Option Nat :=
  (from? 0x40 0x7E b).or ((from? 0xA1 0xFE b).map (· + 63))

/-- The place of two octets in Big5. -/
def big5Place? (a b : UInt8) : Option Nat := do
  return (← from? 0xA1 0xF9 a) * big5Columns + (← big5Column? b)

/-- The character of two octets in Big5. -/
def big5Char? (a b : UInt8) : Option Char := do charAt? big5 (← big5Place? a b)

/-- The text of octets in Big5. -/
def decodeBig5 : Octets → Option Chars := decodePairs asciiChar? big5Char?

/-- The text of octets in code page 950. -/
def decode950 : Octets → Option Chars :=
  decodePairs asciiChar? fun a b => do
    let place ← big5Place? a b
    (runChar? codePage950Runs place).or (charAt? big5 place)

/-- The supplementary set stands in the place of what Big5 has there. -/
def isReplaced (a b : UInt8) : Bool := a = 0xC7 || a = 0xC8 || (a = 0xC6 && 0xA1 ≤ b)

/-- The text of two octets in Big5 with the supplementary set of Hong Kong. -/
def hkscs? (a b : UInt8) : Option Chars :=
  match hkscsPairs.lookup (a, b) with
  | some text => some text.toList
  | none => do
    let column ← big5Column? b
    let supplement := rowChar? hkscs a.toNat column
    let c ← if isReplaced a b then supplement else supplement.or (big5Char? a b)
    return [c]

/-- The text of octets in Big5 with the supplementary set of Hong Kong. -/
def decodeHkscs : Octets → Option Chars := decodeSpelled asciiChar? hkscs?

end ScriptReport.Text.Chinese

/-
  ScriptReport.Text.Double

  Double-precision numbers: the one nearest to a ratio, and the shortest decimal that reads back.
  Everything is computed with natural numbers, so nothing depends on the machine's arithmetic.
-/

import ScriptReport.Text.Integer

namespace ScriptReport.Text

/-! ## Numbers -/

/-- A double-precision number. A finite one is `mantissa * 2 ^ exponent` with its sign, the
    mantissa having at most 53 bits and the exponent being at least -1074. -/
inductive Double where
  | nan
  | infinite (negative : Bool)
  | finite (negative : Bool) (mantissa : Nat) (exponent : Int)
  deriving DecidableEq, Repr

namespace Double

/-- The least exponent. -/
def minExponent : Int := -1074

/-- The greatest exponent. -/
def maxExponent : Int := 971

/-- The number of values of a mantissa. -/
def mantissas : Nat := Nat.pow 2 53

/-! ## Rounding -/

/-- The ratio rounded to the nearest natural number, a half to the even one. -/
def roundRatio (num den : Nat) : Nat :=
  let whole := num / den
  let twice := 2 * (num % den)
  if twice < den then whole
  else if den < twice then whole + 1
  else whole + whole % 2

/-- The ratio divided by a power of two, as a ratio. -/
def shiftRatio (num den : Nat) (exponent : Int) : Nat × Nat :=
  match exponent with
  | .ofNat n => (num, den * Nat.pow 2 n)
  | .negSucc n => (num * Nat.pow 2 (n + 1), den)

/-- The exponent of the greatest power of two that is not above the ratio. -/
def binaryOrder (num den : Nat) : Int :=
  let guess : Int := (num.log2 : Int) - den.log2
  let (n, d) := shiftRatio num den guess
  if n < d then guess - 1 else guess

/-- The number nearest to a ratio, ties going to the even mantissa. -/
def ofRatio (negative : Bool) (num den : Nat) : Double :=
  if num = 0 then .finite negative 0 minExponent
  else
    let exponent := max (binaryOrder num den - 52) minExponent
    let (n, d) := shiftRatio num den exponent
    let mantissa := roundRatio n d
    let (mantissa, exponent) :=
      if mantissa = mantissas then (mantissa / 2, exponent + 1) else (mantissa, exponent)
    if maxExponent < exponent then .infinite negative else .finite negative mantissa exponent

/-- The absolute value of a finite number, as a ratio. -/
def ratio (mantissa : Nat) (exponent : Int) : Nat × Nat :=
  match exponent with
  | .ofNat n => (mantissa * Nat.pow 2 n, 1)
  | .negSucc n => (mantissa, Nat.pow 2 (n + 1))

/-- The number nearest to an integer. -/
def ofInt (n : Int) : Double := ofRatio (n < 0) n.natAbs 1

/-- The integer that the number is, if it is one. -/
def toInt? : Double → Option Int
  | .finite negative mantissa exponent =>
    let (num, den) := ratio mantissa exponent
    if num % den = 0 then
      some (if negative then -((num / den : Nat) : Int) else ((num / den : Nat) : Int))
    else none
  | _ => none

/-- The number with the other sign. -/
def neg : Double → Double
  | .nan => .nan
  | .infinite negative => .infinite !negative
  | .finite negative mantissa exponent => .finite (!negative) mantissa exponent

/-! ## Arithmetic -/

/-- The rounded sum. Two infinities of different sign have none. -/
def add : Double → Double → Double
  | .finite s m e, .finite t n f =>
    let (a, b) := ratio m e
    let (c, d) := ratio n f
    let left : Int := (if s then -1 else 1) * (a * d : Nat)
    let right : Int := (if t then -1 else 1) * (c * b : Nat)
    let sum := left + right
    ofRatio (if sum = 0 then s && t else sum < 0) sum.natAbs (b * d)
  | .infinite s, .infinite t => if s = t then .infinite s else .nan
  | .infinite s, .finite _ _ _ => .infinite s
  | .finite _ _ _, .infinite t => .infinite t
  | _, _ => .nan

/-- The rounded product. -/
def mul : Double → Double → Double
  | .finite s m e, .finite t n f =>
    let (a, b) := ratio m e
    let (c, d) := ratio n f
    ofRatio (s != t) (a * c) (b * d)
  | .infinite s, .infinite t => .infinite (s != t)
  | .infinite s, .finite t n _ => if n = 0 then .nan else .infinite (s != t)
  | .finite s m _, .infinite t => if m = 0 then .nan else .infinite (s != t)
  | _, _ => .nan

/-! ## The shortest decimal -/

/-- The ratio divided by a power of ten, as a ratio. -/
def scaleRatio (num den : Nat) (scale : Int) : Nat × Nat :=
  match scale with
  | .ofNat n => (num, den * Nat.pow 10 n)
  | .negSucc n => (num * Nat.pow 10 (n + 1), den)

/-- The decimal order of a ratio: how many digits stand before the point, or minus the zeros
    after it. -/
def decimalOrder (num den : Nat) : Int :=
  let count : Int := ((Text.ofNat num).length : Int) - (Text.ofNat den).length
  let (n, d) := scaleRatio num den count
  if n < d then count else count + 1

/-- A decimal: `digits * 10 ^ scale`. -/
structure Decimal where
  digits : Nat
  scale : Int
  deriving DecidableEq, Repr

/-- A decimal as a ratio. -/
def Decimal.ratio (x : Decimal) : Nat × Nat :=
  match x.scale with
  | .ofNat n => (x.digits * Nat.pow 10 n, 1)
  | .negSucc n => (x.digits, Nat.pow 10 (n + 1))

/-- The decimal reads back as the number. -/
def readsBack (mantissa : Nat) (exponent : Int) (x : Decimal) : Bool :=
  let (num, den) := x.ratio
  ofRatio false num den = .finite false mantissa exponent

/-- How far a decimal is from a ratio, over a common denominator. -/
def distance (num den : Nat) (x : Decimal) : Nat :=
  let (n, d) := x.ratio
  ((n * den : Nat) - (num * d : Nat) : Int).natAbs

/-- Of two neighbours on a decimal grid, the one that reads back and is nearer; of two equally
    near ones, the even one. -/
def nearer (mantissa : Nat) (exponent : Int) (low high : Decimal) : Option Decimal :=
  let (num, den) := ratio mantissa exponent
  match readsBack mantissa exponent low, readsBack mantissa exponent high with
  | false, false => none
  | true, false => some low
  | false, true => some high
  | true, true =>
    let a := distance num den low * high.ratio.2
    let b := distance num den high * low.ratio.2
    some (if a < b then low else if b < a then high else if low.digits % 2 = 0 then low else high)

/-- The decimal with the given number of digits that reads back, if there is one. -/
def withDigits? (mantissa : Nat) (exponent : Int) (count : Nat) : Option Decimal :=
  let (num, den) := ratio mantissa exponent
  let scale := decimalOrder num den - count
  let (n, d) := scaleRatio num den scale
  let low := n / d
  nearer mantissa exponent ⟨low, scale⟩ ⟨low + 1, scale⟩

/-- The shortest decimal that reads back; seventeen digits are always enough. -/
def shortest (mantissa : Nat) (exponent : Int) : Decimal :=
  match (List.range 17).findSome? fun n => withDigits? mantissa exponent (n + 1) with
  | some x => x
  | none => ⟨0, 0⟩

/-! ## Text -/

/-- A decimal exponent with its sign and at least two digits. -/
def exponentText (n : Int) : Chars :=
  'e' :: (if n < 0 then '-' else '+') :: padded 2 n.natAbs

/-- Digits with the point after the first `order` of them, or with zeros in front. Numbers from
    `10 ^ -4` up to `10 ^ 16` are written out, others with an exponent. -/
def place (digits : Chars) (order : Int) : Chars :=
  if order < -3 || 16 < order then
    (match digits with
     | [] => []
     | [d] => [d]
     | d :: rest => d :: '.' :: rest) ++ exponentText (order - 1)
  else
    match order with
    | .ofNat 0 => "0." ++ digits
    | .ofNat n =>
      if digits.length ≤ n then digits ++ List.replicate (n - digits.length) '0' ++ ".0"
      else digits.take n ++ '.' :: digits.drop n
    | .negSucc n => "0." ++ List.replicate (n + 1) '0' ++ digits

/-- The shortest text that reads back as the number. -/
def text : Double → Chars
  | .nan => "nan"
  | .infinite negative => if negative then "-inf" else "inf"
  | .finite negative mantissa exponent =>
    (if negative then ['-'] else []) ++
      (if mantissa = 0 then "0.0".toList
       else
        let x := shortest mantissa exponent
        let all := Text.ofNat x.digits
        place (dropEndWhile (· = '0') all) (x.scale + all.length))

/-! ## Reading -/

/-- The number nearest to `digits * 10 ^ scale`. Orders beyond 400 to either side are out of the
    range of the numbers. -/
def ofDecimal (negative : Bool) (digits : Nat) (scale : Int) : Double :=
  let order := scale + (Text.ofNat digits).length
  if digits = 0 || order < -400 then .finite negative 0 minExponent
  else if 400 < order then .infinite negative
  else
    let (num, den) := (Decimal.mk digits scale).ratio
    ofRatio negative num den

/-- The exponent after a decimal's digits, if it is well-formed; there may be none. -/
def readExponent? : Chars → Option Int
  | [] => some 0
  | e :: rest =>
    if e = 'e' || e = 'E' then
      let (negative, digits) := cutSign rest
      (readDigits? 10 true 0 digits).map fun n => if negative then -(n : Int) else n
    else none

/-- The number that plain digits, a point, digits and an exponent spell. -/
def readDecimal? (negative : Bool) (text : Chars) : Option Double :=
  let isDigit (c : Char) : Bool := (digitValue? c).isSome
  let whole := text.takeWhile isDigit
  let rest := text.dropWhile isDigit
  let (part, rest) := match rest with
    | '.' :: rest => (rest.takeWhile isDigit, rest.dropWhile isDigit)
    | rest => ([], rest)
  match readDigits? 10 true 0 (whole ++ part), readExponent? rest with
  | some digits, some exponent => some (ofDecimal negative digits (exponent - part.length))
  | _, _ => none

/-- The number that a text spells, in lower case and without underscores. -/
def read? (text : Chars) : Option Double :=
  let (negative, body) := cutSign (trimNumber text)
  if body = "inf".toList || body = "infinity".toList then some (.infinite negative)
  else if body = "nan".toList then some .nan
  else readDecimal? negative body

end Double

end ScriptReport.Text

/-
  ScriptReport.Text.Wide

  Texts that may hold surrogates. An escape in a document can ask for one half of a pair of
  surrogates; it counts as one code point, although no character stands for it. Two neighbouring
  halves are one character as soon as the text is written out.
-/

import ScriptReport.Text.Lower
import ScriptReport.Text.Quoted

namespace ScriptReport.Text

/-! ## Code points -/

/-- A code point: a character or a surrogate. -/
inductive CodePoint where
  | char (c : Char)
  | surrogate (n : Nat)
  deriving DecidableEq, Repr

/-- The character that marks a place where none can stand. -/
def replacementChar : Char := Char.ofNat 0xFFFD

/-- The code point as a character, a surrogate being marked. -/
def CodePoint.mark : CodePoint → Char
  | .char c => c
  | .surrogate _ => replacementChar

/-- The number of the code point. -/
def CodePoint.number : CodePoint → Nat
  | .char c => c.toNat
  | .surrogate n => n

/-- The code point of a number. -/
def CodePoint.ofNumber (n : Nat) : CodePoint :=
  if n.isValidChar then .char (Char.ofNat n) else .surrogate n

/-- The character that the code point is, if it is one. -/
def CodePoint.char? : CodePoint → Option Char
  | .char c => some c
  | .surrogate _ => none

/-! ## Texts -/

/-- A text of code points. -/
abbrev Wide := List CodePoint

namespace Wide

/-- A text of characters only. -/
def ofChars (text : Chars) : Wide := text.map .char

/-- The text with every surrogate marked, so that no place moves. -/
def marked (text : Wide) : Chars := text.map CodePoint.mark

/-- The characters of a text without surrogates. -/
def chars? (text : Wide) : Option Chars := text.mapM CodePoint.char?

/-- The first surrogates that follow each other, and the place where they start. -/
def surrogateRun (text : Wide) : Nat × Wide :=
  let before := text.takeWhile (·.char?.isSome)
  (before.length, (text.drop before.length).takeWhile (·.char?.isNone))

/-- The character that two surrogates are the halves of. -/
def pair? (high low : Nat) : Option Char :=
  if 0xD800 ≤ high && high ≤ 0xDBFF && 0xDC00 ≤ low && low ≤ 0xDFFF then
    some (Char.ofNat (0x10000 + (high - 0xD800) * 0x400 + (low - 0xDC00)))
  else none

/-- The text with each pair of surrogates as its character. -/
def paired : Wide → Wide
  | [] => []
  | .char c :: rest => .char c :: paired rest
  | .surrogate high :: .surrogate low :: rest =>
    match pair? high low with
    | some c => .char c :: paired rest
    | none => .surrogate high :: paired (.surrogate low :: rest)
  | .surrogate high :: rest => .surrogate high :: paired rest

/-- The text as characters: pairs of surrogates are joined, others are marked. -/
def toChars (text : Wide) : Chars := text.paired.marked

/-- The images of the stretches between the surrogates; `run` is the current one, backwards. -/
def mapRunsFrom (f : Chars → Chars) (run : Chars) : Wide → Wide
  | [] => ofChars (f run.reverse)
  | .char c :: rest => mapRunsFrom f (c :: run) rest
  | .surrogate n :: rest => ofChars (f run.reverse) ++ .surrogate n :: mapRunsFrom f [] rest

/-- The text with each stretch between surrogates replaced by its image. -/
def mapRuns (f : Chars → Chars) (text : Wide) : Wide := mapRunsFrom f [] text

/-- The text in lower case. A surrogate has no case, and no word goes on behind it. -/
def lower (text : Wide) : Wide := text.mapRuns Text.lower

/-- The text without a character. -/
def without (c : Char) (text : Wide) : Wide := text.filter (· ≠ .char c)

/-- Whether a minus stands in front, and what follows a sign in front. -/
def cutSign : Wide → Bool × Wide
  | .char '-' :: rest => (true, rest)
  | .char '+' :: rest => (false, rest)
  | text => (false, text)

/-- The pieces between the occurrences of a character; `piece` is the current one, backwards. -/
def splitFrom (c : Char) (piece : Wide) : Wide → List Wide
  | [] => [piece.reverse]
  | p :: rest => if p = .char c then piece.reverse :: splitFrom c [] rest
    else splitFrom c (p :: piece) rest

/-- The pieces between the occurrences of a character. -/
def splitOn (c : Char) (text : Wide) : List Wide := splitFrom c [] text

/-- One code point between the given quotes. -/
def quotedPoint (quote : Char) : CodePoint → Chars
  | .char c => quotedChar quote c
  | .surrogate n => "\\u" ++ hex 4 n

/-- The quoted form of the text. -/
def quoted (text : Wide) : Chars :=
  let q := quoteFor text.marked
  q :: concatMap (quotedPoint q) text ++ [q]

/-- Order by code points, a proper beginning coming first. -/
def le : Wide → Wide → Bool
  | [], _ => true
  | _ :: _, [] => false
  | a :: as, b :: bs => a.number < b.number || (a == b && le as bs)

/-! ## Laws -/

@[simp] theorem marked_ofChars (text : Chars) : (ofChars text).marked = text := by
  simp [marked, ofChars, CodePoint.mark, Function.comp_def]

@[simp] theorem paired_ofChars (text : Chars) : (ofChars text).paired = ofChars text := by
  induction text with
  | nil => rfl
  | cons c rest ih => simpa [ofChars, paired] using ih

/-- A text of characters is unchanged on its way through code points. -/
@[simp] theorem toChars_ofChars (text : Chars) : (ofChars text).toChars = text := by
  simp [toChars]

@[simp] theorem chars?_ofChars (text : Chars) : (ofChars text).chars? = some text := by
  induction text with
  | nil => rfl
  | cons c rest ih =>
    have hrest : (rest.map CodePoint.char).mapM CodePoint.char? = some rest := ih
    simp [chars?, ofChars, CodePoint.char?, hrest]

theorem mapRunsFrom_ofChars (f : Chars → Chars) (run text : Chars) :
    mapRunsFrom f run (ofChars text) = ofChars (f (run.reverse ++ text)) := by
  induction text generalizing run with
  | nil => simp [ofChars, mapRunsFrom]
  | cons c rest ih => simpa [ofChars, mapRunsFrom] using ih (c :: run)

/-- A text of characters is one stretch. -/
@[simp] theorem mapRuns_ofChars (f : Chars → Chars) (text : Chars) :
    (ofChars text).mapRuns f = ofChars (f text) := mapRunsFrom_ofChars f [] text

end Wide

end ScriptReport.Text

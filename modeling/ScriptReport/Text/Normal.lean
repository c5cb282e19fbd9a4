/-
  ScriptReport.Text.Normal

  The form in which equivalent texts are equal: every character is replaced by what it is
  equivalent to, marks are put in order, and then pairs become single characters where they can.
-/

import ScriptReport.Text.Chars
import ScriptReport.Text.NormalTables

namespace ScriptReport.Text

/-! ## Syllables -/

/-- The first of the syllables that are composed by arithmetic, and the letters before the first
    ones in the beginning, in the middle and at the end. -/
def syllableBases : Nat × Nat × Nat × Nat := (0xAC00, 0x1100, 0x1161, 0x11A7)

/-- The letters of a syllable. -/
def syllableLetters? (c : Char) : Option Chars :=
  let (base, initial, medial, final) := syllableBases
  if base ≤ c.toNat && c.toNat < base + 11172 then
    let n := c.toNat - base
    let last := if n % 28 = 0 then [] else [Char.ofNat (final + n % 28)]
    some (Char.ofNat (initial + n / 588) :: Char.ofNat (medial + n % 588 / 28) :: last)
  else none

/-- The syllable of two letters, or of a syllable without a last letter and a last letter. -/
def composedSyllable? (c d : Char) : Option Char :=
  let (base, initial, medial, final) := syllableBases
  let c := c.toNat
  let d := d.toNat
  if initial ≤ c && c < initial + 19 && medial ≤ d && d < medial + 21 then
    some (Char.ofNat (base + ((c - initial) * 21 + (d - medial)) * 28))
  else if base ≤ c && c < base + 11172 && (c - base) % 28 = 0 && final < d && d < final + 28 then
    some (Char.ofNat (c + (d - final)))
  else none

/-! ## Expanding -/

/-- What a character is equivalent to in the table. -/
def listedExpansion? (c : Char) : Option Chars := do
  let (first, row) ← (expansionRows.takeWhile fun (first, _) => first ≤ c.toNat).getLast?
  (splitOn "\n" row.toList)[c.toNat - first]?

/-- What a character is equivalent to. -/
def expandChar (c : Char) : Chars :=
  if c.toNat < 0xA0 then [c]
  else ((syllableLetters? c).or (listedExpansion? c)).getD [c]

/-- The class of a character; that of characters that are no marks is zero. -/
def markClass (c : Char) : Nat :=
  ((markClasses.find? fun (least, greatest, _) => least ≤ c.toNat && c.toNat ≤ greatest).map
    (·.2.2)).getD 0

/-- A text, the last character first, with one more mark before those of greater classes. -/
def putMark (c : Char) : Chars → Chars
  | [] => [c]
  | d :: before =>
    if markClass c ≠ 0 && markClass c < markClass d then d :: putMark c before
    else c :: d :: before

/-- The text with the marks behind each character in the order of their classes. -/
def orderMarks (text : Chars) : Chars := (text.foldl (fun before c => putMark c before) []).reverse

/-- The text with every character replaced by what it is equivalent to. -/
def expanded (text : Chars) : Chars := orderMarks (concatMap expandChar text)

/-! ## Composing -/

/-- The pairs in a row of the table. -/
def composition? (c d : Char) : Chars → Option Char
  | a :: b :: e :: rest => if a = c && b = d then some e else composition? c d rest
  | _ => none

/-- The character that is equivalent to two. -/
def composed? (c d : Char) : Option Char :=
  (composedSyllable? c d).or (compositionRows.findSome? fun row => composition? c d row.toList)

/-- A character with those of the following text that it can be composed with, and the others.
    `last` is the class of the last one that was left; marks of no greater class stay, and behind
    it no character that is no mark is taken. -/
def absorb (c : Char) (last : Nat) : Chars → Char × Chars
  | [] => (c, [])
  | d :: rest =>
    let leave (last : Nat) : Char × Chars :=
      let (c, others) := absorb c last rest
      (c, d :: others)
    if last ≠ 0 && markClass d = 0 then (c, d :: rest)
    else if last ≠ 0 && markClass d ≤ last then leave last
    else
      match composed? c d with
      | some e => absorb e last rest
      | none => if markClass d = 0 then (c, d :: rest) else leave (markClass d)

theorem length_absorb_le (c : Char) (last : Nat) (text : Chars) :
    (absorb c last text).2.length ≤ text.length := by
  induction text generalizing c last with
  | nil => simp [absorb]
  | cons d rest ih =>
    simp only [absorb]
    split
    · simp
    · split
      · simpa using ih c last
      · split
        · exact Nat.le_succ_of_le (ih _ last)
        · split
          · simp
          · simpa using ih c _

/-- The text with pairs composed. -/
def composed : Chars → Chars
  | [] => []
  | c :: rest =>
    let next := absorb c 0 rest
    next.1 :: composed next.2
termination_by text => text.length
decreasing_by exact Nat.lt_succ_of_le (length_absorb_le c 0 rest)

/-- The form in which equivalent texts are equal. -/
def normalForm (text : Chars) : Chars := composed (expanded text)

end ScriptReport.Text

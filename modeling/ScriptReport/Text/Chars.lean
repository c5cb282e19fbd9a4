/-
  ScriptReport.Text.Chars

  Texts are lists of characters, so a length, a slice or an index counts code points. This file
  holds the searching, cutting and joining that the rest of the library is written with; each
  operation is structural on the text, and a lemma beside it says what it keeps.
-/

namespace ScriptReport

/-- A text: a list of code points. A string literal stands for its characters. -/
abbrev Chars := List Char

instance : Coe String Chars := ⟨String.toList⟩

namespace Text

/-! ## Joining -/

/-- The texts one after another with `sep` between neighbours. -/
def join (sep : Chars) : List Chars → Chars
  | [] => []
  | [x] => x
  | x :: y :: rest => x ++ sep ++ join sep (y :: rest)

/-- The lines joined by line feeds, with none after the last. -/
def unlines (lines : List Chars) : Chars := join "\n" lines

/-- The concatenation of the images of the members. -/
def concatMap {α : Type} (f : α → Chars) (xs : List α) : Chars := (xs.map f).flatten

@[simp] theorem join_nil (sep : Chars) : join sep [] = [] := rfl

@[simp] theorem join_singleton (sep x : Chars) : join sep [x] = x := rfl

theorem join_cons {sep x : Chars} {rest : List Chars} (h : rest ≠ []) :
    join sep (x :: rest) = x ++ sep ++ join sep rest := by
  cases rest with
  | nil => exact absurd rfl h
  | cons y ys => rfl

/-! ## Splitting -/

/-- Puts a character in front of the first piece. -/
def consFirst (c : Char) : List Chars → List Chars
  | [] => [[c]]
  | piece :: rest => (c :: piece) :: rest

/-- `splitOn` inside the text: `skip` characters still belong to the separator just met. -/
def splitOnGo (sep : Chars) : Nat → Chars → List Chars
  | _, [] => [[]]
  | skip + 1, _ :: rest => splitOnGo sep skip rest
  | 0, c :: rest =>
    if sep.isPrefixOf (c :: rest) then [] :: splitOnGo sep (sep.length - 1) rest
    else consFirst c (splitOnGo sep 0 rest)

/-- The pieces between the occurrences of the non-empty separator, found from left to right
    without overlap; a text without the separator is one piece. -/
def splitOn (sep : Chars) (text : Chars) : List Chars := splitOnGo sep 0 text

/-- Every occurrence of `old`, from left to right without overlap, becomes `new`. -/
def replace (old new : Chars) (text : Chars) : Chars := join new (splitOn old text)

theorem consFirst_ne_nil (c : Char) (pieces : List Chars) : consFirst c pieces ≠ [] := by
  cases pieces <;> simp [consFirst]

theorem splitOnGo_ne_nil (sep : Chars) (skip : Nat) (text : Chars) :
    splitOnGo sep skip text ≠ [] := by
  induction text generalizing skip with
  | nil => cases skip <;> simp [splitOnGo]
  | cons c rest ih =>
    cases skip with
    | succ k => simpa [splitOnGo] using ih k
    | zero =>
      rw [splitOnGo]
      split
      · simp
      · exact consFirst_ne_nil _ _

theorem join_consFirst (sep : Chars) (c : Char) (pieces : List Chars) :
    join sep (consFirst c pieces) = c :: join sep pieces := by
  rcases pieces with _ | ⟨piece, _ | ⟨next, rest⟩⟩ <;> rfl

theorem join_splitOnGo {sep : Chars} (hsep : sep ≠ []) (skip : Nat) (text : Chars) :
    join sep (splitOnGo sep skip text) = text.drop skip := by
  induction text generalizing skip with
  | nil => cases skip <;> rfl
  | cons c rest ih =>
    cases skip with
    | succ k => exact ih k
    | zero =>
      rw [splitOnGo]
      split
      · next hprefix =>
        obtain ⟨after, hafter⟩ := List.isPrefixOf_iff_prefix.mp hprefix
        obtain ⟨p, ps, rfl⟩ := List.exists_cons_of_ne_nil hsep
        obtain ⟨rfl, rfl⟩ := List.cons.inj hafter
        rw [join_cons (splitOnGo_ne_nil _ _ _), ih]
        simp
      · rw [join_consFirst, ih]
        rfl

/-- The pieces of a text, joined again, are the text. -/
theorem join_splitOn {sep : Chars} (hsep : sep ≠ []) (text : Chars) :
    join sep (splitOn sep text) = text :=
  join_splitOnGo hsep 0 text

/-! ## Searching -/

/-- What follows `opening`, if the text starts with it. -/
def afterOpening? : Chars → Chars → Option Chars
  | [], text => some text
  | _ :: _, [] => none
  | p :: ps, c :: rest => if p = c then afterOpening? ps rest else none

/-- The position of the first occurrence of `pattern`. -/
def find? (pattern : Chars) : Chars → Option Nat
  | [] => if pattern.isEmpty then some 0 else none
  | c :: rest =>
    if pattern.isPrefixOf (c :: rest) then some 0 else (find? pattern rest).map (· + 1)

/-- The position of the last occurrence of `pattern`. -/
def findLast? (pattern : Chars) : Chars → Option Nat
  | [] => if pattern.isEmpty then some 0 else none
  | c :: rest =>
    match findLast? pattern rest with
    | some i => some (i + 1)
    | none => if pattern.isPrefixOf (c :: rest) then some 0 else none

/-- Some occurrence of `pattern` lies in the text. -/
def contains (pattern text : Chars) : Bool := (find? pattern text).isSome

/-- The text before and after the first character equal to `c`. -/
def cutAt? (c : Char) : Chars → Option (Chars × Chars)
  | [] => none
  | x :: rest =>
    if x = c then some ([], rest) else (cutAt? c rest).map fun (a, b) => (x :: a, b)

/-- The text before and after the last character equal to `c`. -/
def cutAtLast? (c : Char) : Chars → Option (Chars × Chars)
  | [] => none
  | x :: rest =>
    match cutAtLast? c rest with
    | some (a, b) => some (x :: a, b)
    | none => if x = c then some ([], rest) else none

theorem eq_append_of_afterOpening? {opening text rest : Chars}
    (h : afterOpening? opening text = some rest) : text = opening ++ rest := by
  induction opening generalizing text with
  | nil => simpa [afterOpening?] using h
  | cons p ps ih =>
    cases text with
    | nil => simp [afterOpening?] at h
    | cons c cs =>
      simp only [afterOpening?] at h
      split at h
      · next hp => simp [hp, ← ih h]
      · simp at h

@[simp] theorem afterOpening?_append (opening rest : Chars) :
    afterOpening? opening (opening ++ rest) = some rest := by
  induction opening with
  | nil => rfl
  | cons p ps ih => simp [afterOpening?, ih]

/-! ## Order -/

/-- Order by code points, a proper beginning coming first. -/
def le : Chars → Chars → Bool
  | [], _ => true
  | _ :: _, [] => false
  | a :: as, b :: bs => a.toNat < b.toNat || (a == b && le as bs)

/-- The texts in order, equal ones kept. -/
def sort (texts : List Chars) : List Chars := texts.mergeSort le

/-- The first occurrence of each member. -/
def distinct : List Chars → List Chars
  | [] => []
  | x :: rest => x :: (distinct rest).filter (· ≠ x)

/-! ## Numbers -/

/-- A natural number in decimal digits. -/
def ofNat (n : Nat) : Chars := Nat.toDigits 10 n

/-- An integer in decimal digits after its sign, which only a negative one shows. -/
def ofInt : Int → Chars
  | .ofNat n => ofNat n
  | .negSucc n => '-' :: ofNat (n + 1)

/-- The value of a hexadecimal digit in either case. -/
def hexDigit? (c : Char) : Option Nat :=
  if '0' ≤ c && c ≤ '9' then some (c.toNat - '0'.toNat)
  else if 'a' ≤ c && c ≤ 'f' then some (c.toNat - 'a'.toNat + 10)
  else if 'A' ≤ c && c ≤ 'F' then some (c.toNat - 'A'.toNat + 10)
  else none

/-- A natural number in at least `width` digits, filled up with zeros. -/
def padded (width n : Nat) : Chars :=
  let digits := ofNat n
  List.replicate (width - digits.length) '0' ++ digits

end Text

end ScriptReport

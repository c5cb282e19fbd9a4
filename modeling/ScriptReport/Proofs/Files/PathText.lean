/-
  ScriptReport.Proofs.Files.PathText

  Path texts and the paths they denote. The parts of a text are cut at its slashes, so a text that
  is put together at a slash has the parts of both sides; and the text of a path in normal form
  denotes that path again.
-/

import ScriptReport.Files.Path
import ScriptReport.Proofs.Text.Occurrence
import ScriptReport.Proofs.Text.Splitting
import Mathlib.Data.List.TakeWhile

namespace ScriptReport

namespace Path

/-! ## Parts -/

/-- A text that can be a part of a path in normal form. -/
structure IsPart (part : Chars) : Prop where
  ne_nil : part ≠ []
  ne_point : part ≠ ['.']
  no_slash : '/' ∉ part

/-- A text that can stand between two slashes, a point among them. -/
structure IsPiece (part : Chars) : Prop where
  ne_nil : part ≠ []
  no_slash : '/' ∉ part

instance (part : Chars) : Decidable (IsPiece part) :=
  decidable_of_iff (part ≠ [] ∧ '/' ∉ part) ⟨fun h => ⟨h.1, h.2⟩, fun h => ⟨h.1, h.2⟩⟩

theorem IsPart.isPiece {part : Chars} (h : IsPart part) : IsPiece part := ⟨h.ne_nil, h.no_slash⟩

/-- The parts of a path in normal form. -/
def IsNormal (p : Path) : Prop := ∀ part ∈ p.parts, IsPart part

@[simp] theorem partsOf_nil : partsOf [] = [] := rfl

/-- A text that is put together at a slash has the parts of both sides. -/
theorem partsOf_append (a b : Chars) : partsOf (a ++ '/' :: b) = partsOf a ++ partsOf b := by
  rw [partsOf, show ("/" : Chars) = ['/'] from rfl, Text.splitOn_append, List.filter_append]
  rfl

theorem partsOf_slash (b : Chars) : partsOf ('/' :: b) = partsOf b :=
  partsOf_append [] b

theorem partsOf_of_isPart {part : Chars} (h : IsPart part) : partsOf part = [part] := by
  rw [partsOf, show ("/" : Chars) = ['/'] from rfl, Text.splitOn_of_not_mem h.no_slash,
    List.filter_cons_of_pos (by simp [h.ne_nil, h.ne_point]), List.filter_nil]

theorem isPart_of_mem_partsOf {text part : Chars} (h : part ∈ partsOf text) : IsPart part := by
  obtain ⟨hmem, hpart⟩ := List.mem_filter.mp h
  simp only [Bool.and_eq_true, decide_eq_true_eq] at hpart
  exact ⟨hpart.1, hpart.2, Text.not_mem_of_mem_splitOn hmem⟩

theorem isNormal_ofText (text : Chars) : IsNormal (ofText text) :=
  fun _ h => isPart_of_mem_partsOf h

/-- Pieces that are put together with slashes are what is between the slashes. -/
theorem pieces_of_join {parts : List Chars} (h : ∀ part ∈ parts, IsPiece part) :
    (Text.splitOn "/" (Text.join "/" parts)).filter (· ≠ []) = parts := by
  by_cases hne : parts = []
  · subst hne
    rfl
  · have hsplit : Text.splitOn "/" (Text.join "/" parts) = parts :=
      Text.splitOn_join hne fun part hmem => (h part hmem).no_slash
    rw [hsplit]
    exact List.filter_eq_self.mpr fun part hmem => decide_eq_true (h part hmem).ne_nil

theorem join_injective {a b : List Chars} (ha : ∀ part ∈ a, IsPiece part)
    (hb : ∀ part ∈ b, IsPiece part) (h : Text.join "/" a = Text.join "/" b) : a = b := by
  rw [← pieces_of_join ha, h, pieces_of_join hb]

theorem partsOf_join {parts : List Chars} (h : ∀ part ∈ parts, IsPart part) :
    partsOf (Text.join "/" parts) = parts := by
  have hpieces := pieces_of_join fun part hmem => (h part hmem).isPiece
  -- the pieces that are parts are found among those that are not empty
  have hparts : partsOf (Text.join "/" parts) =
      ((Text.splitOn "/" (Text.join "/" parts)).filter (· ≠ [])).filter (· ≠ ['.']) := by
    rw [List.filter_filter, partsOf]
    simp only [Bool.and_comm]
  rw [hparts, hpieces]
  exact List.filter_eq_self.mpr fun part hmem => decide_eq_true (h part hmem).ne_point

/-- The parts have every character of the text but slashes and points. -/
theorem count_flatten_partsOf {c : Char} (hslash : c ≠ '/') (hpoint : c ≠ '.') (text : Chars) :
    (partsOf text).flatten.count c = text.count c := by
  have hkept (pieces : List Chars) :
      (pieces.filter fun part => part ≠ [] && part ≠ ['.']).flatten.count c =
        pieces.flatten.count c := by
    induction pieces with
    | nil => rfl
    | cons piece pieces ih =>
      rw [List.filter_cons]
      split
      · rw [List.flatten_cons, List.flatten_cons, List.count_append, List.count_append, ih]
      · next hdropped =>
        -- what is dropped does not have the character
        have hpiece : piece.count c = 0 := by
          simp only [Bool.and_eq_true, decide_eq_true_eq, not_and_or, not_not] at hdropped
          rcases hdropped with rfl | rfl
          · rfl
          · exact List.count_eq_zero.mpr (by simp [hpoint])
        rw [ih, List.flatten_cons, List.count_append, hpiece, Nat.zero_add]
  rw [partsOf, hkept, show ("/" : Chars) = ['/'] from rfl, Text.flatten_splitOn]
  exact List.count_filter (by simp [hslash])

/-! ## Roots -/

theorem rootOf_of_head? {text : Chars} (h : text.head? ≠ some '/') : rootOf text = .relative := by
  cases text with
  | nil => rfl
  | cons c text =>
    rw [List.head?_cons, ne_eq, Option.some.injEq] at h
    rw [rootOf, List.takeWhile_cons_of_neg (by simpa using h)]
    rfl

theorem isAbsolute_ofText (text : Chars) :
    (ofText text).isAbsolute = decide (text.head? = some '/') := by
  by_cases h : text.head? = some '/'
  · obtain ⟨rest, rfl⟩ : ∃ rest, text = '/' :: rest := by
      cases text with
      | nil => cases h
      | cons c rest =>
        cases h
        exact ⟨rest, rfl⟩
    rw [decide_eq_true h, isAbsolute, ofText, rootOf, List.takeWhile_cons_of_pos (by simp),
      List.length_cons]
    split
    · omega
    · rfl
    · rfl
  · rw [decide_eq_false h, isAbsolute, ofText, rootOf_of_head? h]
    rfl

/-- What is put behind a text does not matter for its root, unless slashes come behind slashes. -/
theorem rootOf_append {text rest : Chars}
    (h : rest.head? ≠ some '/' ∨ ∃ c ∈ text, c ≠ '/') : rootOf (text ++ rest) = rootOf text := by
  have htake : (text ++ rest).takeWhile (· = '/') = text.takeWhile (· = '/') := by
    rw [List.takeWhile_append]
    split
    · next hall =>
      -- the text has nothing but slashes, so that none comes next
      have hslashes : text.takeWhile (· = '/') = text :=
        (List.takeWhile_prefix (· = '/')).eq_of_length hall
      rw [hslashes]
      rcases h with hnext | ⟨c, hmem, hc⟩
      · cases rest with
        | nil => rw [List.takeWhile_nil, List.append_nil]
        | cons c rest =>
          rw [List.head?_cons, ne_eq, Option.some.injEq] at hnext
          rw [List.takeWhile_cons_of_neg (by simpa using hnext), List.append_nil]
      · rw [← hslashes] at hmem
        have hslash := List.mem_takeWhile_imp (p := fun x => decide (x = '/')) hmem
        exact absurd (of_decide_eq_true hslash) hc
    · rfl
  rw [rootOf, rootOf, htake]

theorem rootOf_rootText_append {root : PathRoot} {rest : Chars} (h : rest.head? ≠ some '/') :
    rootOf (rootText root ++ rest) = root := by
  rw [rootOf_append (.inl h)]
  cases root <;> rfl

theorem partsOf_rootText_append (root : PathRoot) (rest : Chars) :
    partsOf (rootText root ++ rest) = partsOf rest := by
  cases root with
  | relative => rfl
  | slash => exact partsOf_slash rest
  | doubleSlash => exact (partsOf_slash ('/' :: rest)).trans (partsOf_slash rest)

/-! ## Texts of paths -/

variable {p : Path}

theorem head?_join_of_isPiece {parts : List Chars} (h : ∀ part ∈ parts, IsPiece part) :
    (Text.join "/" parts).head? ≠ some '/' := by
  cases parts with
  | nil => simp
  | cons part parts =>
    have hpart := h part List.mem_cons_self
    obtain ⟨c, rest, rfl⟩ := List.exists_cons_of_ne_nil hpart.ne_nil
    have hc : c ≠ '/' := fun hc => hpart.no_slash (hc ▸ List.mem_cons_self)
    cases parts <;> simpa [Text.join] using hc

theorem head?_join {parts : List Chars} (h : ∀ part ∈ parts, IsPart part) :
    (Text.join "/" parts).head? ≠ some '/' :=
  head?_join_of_isPiece fun part hmem => (h part hmem).isPiece

/-- The text of a path in normal form that is not empty. -/
theorem text_eq (h : p.root ≠ .relative ∨ p.parts ≠ []) :
    p.text = rootText p.root ++ Text.join "/" p.parts := by
  obtain ⟨root, parts⟩ := p
  cases root <;> cases parts <;> simp_all [text]

/-- A path in normal form is what its text denotes. -/
theorem ofText_text (h : p.IsNormal) : ofText p.text = p := by
  by_cases hfull : p.root ≠ .relative ∨ p.parts ≠ []
  · rw [text_eq hfull, ofText, rootOf_rootText_append (head?_join h), partsOf_rootText_append,
      partsOf_join h]
  · obtain ⟨root, parts⟩ := p
    simp only [ne_eq, not_or, Decidable.not_not] at hfull
    obtain ⟨rfl, rfl⟩ := hfull
    rfl

/-! ## File names -/

/-- A name that is a part names an entry below a path. -/
theorem child_of_isPart {name : Chars} (h : IsPart name) :
    p.child name = { p with parts := p.parts ++ [name] } := by
  have hhead : name.head? ≠ some '/' := fun hhead => h.no_slash (List.mem_of_mem_head? hhead)
  rw [child, ofText, rootOf_of_head? hhead, partsOf_of_isPart h]
  rfl

/-- A file name is made up of its two pieces. -/
theorem splitName_append (name : Chars) : (splitName name).1 ++ (splitName name).2 = name := by
  rw [splitName]
  split
  · next stem extension hcut =>
    split
    · exact List.append_nil name
    · exact (Text.eq_of_cutAtLast? hcut).1.symm
  · exact List.append_nil name

end Path

end ScriptReport

/-
  ScriptReport.Proofs.Text.Occurrence

  Where the first and the last occurrence of a pattern lie in a text that is put together from
  parts. An occurrence cannot reach across the border of two parts if the second part starts with
  a character that the pattern has nowhere but at its front.
-/

import ScriptReport.Text.Chars
import Mathlib.Data.List.Infix
import Mathlib.Data.List.TakeWhile

namespace ScriptReport.Text

variable {pattern text front rest : Chars} {i : Nat}

/-! ## First occurrences -/

theorem find?_cons_of_starts {c : Char} (h : pattern <+: c :: rest) :
    find? pattern (c :: rest) = some 0 := by
  rw [find?, if_pos (List.isPrefixOf_iff_prefix.mpr h)]

theorem find?_cons_of_not_starts {c : Char} (h : ¬ pattern <+: c :: rest) :
    find? pattern (c :: rest) = (find? pattern rest).map (· + 1) := by
  rw [find?, if_neg (mt List.isPrefixOf_iff_prefix.mp h)]

/-- The text around a first occurrence. -/
theorem find?_eq_some_split (h : find? pattern text = some i) :
    ∃ a b, text = a ++ pattern ++ b ∧ a.length = i := by
  induction text generalizing i with
  | nil =>
    simp only [find?, List.isEmpty_iff] at h
    split at h
    · next hp =>
      cases h
      exact ⟨[], [], by rw [hp]; rfl, rfl⟩
    · cases h
  | cons c cs ih =>
    rw [find?] at h
    split at h
    · next hp =>
      cases h
      obtain ⟨b, hb⟩ := List.isPrefixOf_iff_prefix.mp hp
      exact ⟨[], b, by rw [List.nil_append, hb], rfl⟩
    · obtain ⟨j, hj, rfl⟩ := Option.map_eq_some_iff.mp h
      obtain ⟨a, b, hcs, rfl⟩ := ih hj
      exact ⟨c :: a, b, by rw [hcs]; rfl, rfl⟩

/-- A first occurrence is a place where the pattern stands, and it stands nowhere before. -/
theorem find?_eq_some_iff :
    find? pattern text = some i ↔
      pattern <+: text.drop i ∧ ∀ j < i, ¬ pattern <+: text.drop j := by
  induction text generalizing i with
  | nil =>
    simp only [find?, List.isEmpty_iff, List.drop_nil, List.prefix_nil]
    by_cases hp : pattern = []
    · rw [if_pos hp, Option.some.injEq]
      refine ⟨fun h => ⟨hp, fun j hj => by omega⟩, fun ⟨_, h⟩ => ?_⟩
      by_contra hne
      exact h 0 (by omega) hp
    · simp [hp]
  | cons c cs ih =>
    rw [find?]
    by_cases hp : pattern.isPrefixOf (c :: cs) = true
    · have hpre : pattern <+: c :: cs := List.isPrefixOf_iff_prefix.mp hp
      rw [if_pos hp, Option.some.injEq]
      refine ⟨fun h => ?_, fun ⟨_, h⟩ => ?_⟩
      · subst h
        exact ⟨hpre, fun j hj => absurd hj (Nat.not_lt_zero j)⟩
      · by_contra hne
        exact h 0 (by omega) hpre
    · have hpre : ¬ pattern <+: c :: cs := fun h => hp (List.isPrefixOf_iff_prefix.mpr h)
      rw [if_neg hp, Option.map_eq_some_iff]
      cases i with
      | zero =>
        refine ⟨fun ⟨_, _, h⟩ => by omega, fun ⟨h, _⟩ => absurd h hpre⟩
      | succ i =>
        simp only [Nat.succ.injEq, exists_eq_right, List.drop_succ_cons, ih]
        refine and_congr_right fun _ => ⟨fun h j hj => ?_, fun h j hj => ?_⟩
        · cases j with
          | zero => exact hpre
          | succ j => exact h j (by omega)
        · exact h (j + 1) (by omega)

theorem find?_le_length (h : find? pattern text = some i) :
    i + pattern.length ≤ text.length := by
  obtain ⟨a, b, rfl, rfl⟩ := find?_eq_some_split h
  simp only [List.length_append]
  omega

theorem contains_eq_false_iff : contains pattern text = false ↔ find? pattern text = none := by
  rw [contains, Option.isSome_eq_false_iff, Option.isNone_iff_eq_none]

theorem contains_eq_true_iff : contains pattern text = true ↔ pattern <:+: text := by
  rw [contains, Option.isSome_iff_exists]
  constructor
  · rintro ⟨i, hi⟩
    obtain ⟨a, b, rfl, -⟩ := find?_eq_some_split hi
    exact ⟨a, b, rfl⟩
  · rintro ⟨a, b, rfl⟩
    induction a with
    | nil =>
      refine ⟨0, ?_⟩
      cases pattern with
      | nil => cases b <;> rfl
      | cons p ps => simp [find?]
    | cons c cs ih =>
      obtain ⟨i, hi⟩ := ih
      rw [List.cons_append, List.cons_append, find?, hi]
      split
      · exact ⟨0, rfl⟩
      · exact ⟨i + 1, rfl⟩

/-- A pattern is not found where its first character does not stand. -/
theorem find?_append_of_not_mem {p : Char} {ps : Chars} (h : p ∉ front) :
    find? (p :: ps) (front ++ rest) = (find? (p :: ps) rest).map (front.length + ·) := by
  induction front with
  | nil => cases h : find? (p :: ps) rest <;> simp [h]
  | cons c cs ih =>
    rw [List.mem_cons, not_or] at h
    rw [List.cons_append, find?, ih h.2, if_neg (by simp [List.isPrefixOf, h.1]), Option.map_map]
    congr 1
    funext i
    simp only [Function.comp_apply, List.length_cons]
    omega

/-- No beginning of a text that is the pattern reaches over the border before `c`, if the pattern
    has `c` at most in front. -/
theorem isPrefixOf_append_cons {c x : Char} {xs : Chars} (hc : c ∉ pattern.tail) :
    pattern.isPrefixOf (x :: (xs ++ c :: rest)) = pattern.isPrefixOf (x :: xs) := by
  rw [Bool.eq_iff_iff, List.isPrefixOf_iff_prefix, List.isPrefixOf_iff_prefix]
  refine ⟨fun h => ?_, fun h => h.trans (List.prefix_append (x :: xs) (c :: rest))⟩
  rcases List.prefix_or_prefix_of_prefix h (List.prefix_append (x :: xs) (c :: rest)) with
    hle | ⟨q, rfl⟩
  · exact hle
  · -- the part of the pattern behind the border would start with `c`
    have hq : q <+: c :: rest := (List.prefix_append_right_inj (x :: xs)).mp h
    rcases List.prefix_cons_iff.mp hq with rfl | ⟨q', rfl, -⟩
    · rw [List.append_nil]
    · exact absurd (List.mem_append_right xs List.mem_cons_self) hc

/-- The border before `c` is crossed by no occurrence of a pattern with `c` at most in front. -/
theorem find?_append_cons {c : Char} (hc : c ∉ pattern.tail) :
    find? pattern (front ++ c :: rest) =
      (find? pattern front).or ((find? pattern (c :: rest)).map (front.length + ·)) := by
  induction front with
  | nil =>
    cases pattern with
    | nil => rfl
    | cons p ps => cases h : find? (p :: ps) (c :: rest) <;> simp [find?, h]
  | cons x xs ih =>
    rw [List.cons_append, find?, find?, isPrefixOf_append_cons hc, ih]
    split
    · rfl
    · cases find? pattern xs with
      | some j => rfl
      | none =>
        simp only [Option.none_or, Option.map_none, Option.map_map]
        congr 1
        funext i
        simp only [Function.comp_apply, List.length_cons]
        omega

theorem find?_self_append : find? pattern (pattern ++ rest) = some 0 := by
  cases pattern with
  | nil => cases rest <;> rfl
  | cons p ps => rw [List.cons_append, find?, if_pos (by simp)]

/-- A pattern whose first character does not come again in it is found where it is put, unless it
    stands in what comes before. -/
theorem find?_append_self {c : Char} {cs : Chars} (hc : c ∉ cs) :
    find? (c :: cs) (front ++ (c :: cs ++ rest)) =
      (find? (c :: cs) front).or (some front.length) := by
  have hself : find? (c :: cs) (c :: cs ++ rest) = some 0 := find?_self_append
  rw [List.cons_append] at hself ⊢
  rw [find?_append_cons (show c ∉ (c :: cs).tail from hc), hself, Option.map_some, Nat.add_zero]

/-! ## Cuts -/

/-- The cut at a character lies behind everything that does not have it. -/
theorem cutAt?_append {c : Char} (h : c ∉ front) :
    cutAt? c (front ++ rest) = (cutAt? c rest).map fun (a, b) => (front ++ a, b) := by
  induction front with
  | nil => cases h : cutAt? c rest <;> simp [h]
  | cons x xs ih =>
    rw [List.mem_cons, not_or] at h
    rw [List.cons_append, cutAt?, if_neg (Ne.symm h.1), ih h.2, Option.map_map]
    rfl

theorem cutAt?_append_cons {c : Char} (h : c ∉ front) (rest : Chars) :
    cutAt? c (front ++ c :: rest) = some (front, rest) := by
  rw [cutAt?_append h, cutAt?, if_pos rfl, Option.map_some]
  simp only [List.append_nil]

/-- Both parts of a cut at the first such character. -/
theorem eq_of_cutAt? {c : Char} (h : cutAt? c text = some (front, rest)) :
    text = front ++ c :: rest ∧ c ∉ front := by
  induction text generalizing front with
  | nil => cases h
  | cons x others ih =>
    rw [cutAt?] at h
    split at h
    · next hx =>
      cases h
      exact ⟨by rw [hx, List.nil_append], List.not_mem_nil⟩
    · next hx =>
      obtain ⟨⟨front', rest'⟩, hcut, heq⟩ := Option.map_eq_some_iff.mp h
      cases heq
      obtain ⟨rfl, hnot⟩ := ih hcut
      refine ⟨rfl, ?_⟩
      rw [List.mem_cons, not_or]
      exact ⟨Ne.symm hx, hnot⟩

theorem cutAt?_eq_none_iff {c : Char} : cutAt? c text = none ↔ c ∉ text := by
  induction text with
  | nil => simp [cutAt?]
  | cons x others ih =>
    rw [cutAt?, List.mem_cons, not_or]
    split
    · next hx => simp [hx]
    · next hx =>
      rw [Option.map_eq_none_iff, ih]
      exact (and_iff_right (Ne.symm hx)).symm

theorem cutAtLast?_eq_none_iff {c : Char} : cutAtLast? c text = none ↔ c ∉ text := by
  induction text with
  | nil => simp [cutAtLast?]
  | cons x others ih =>
    rw [cutAtLast?, List.mem_cons, not_or, ← ih]
    split
    · next hcut => simp [hcut]
    · next hcut =>
      split
      · next hx => simp [hx]
      · next hx => simp [hcut, Ne.symm hx]

theorem cutAtLast?_append_cons {c : Char} (front : Chars) (h : c ∉ rest) :
    cutAtLast? c (front ++ c :: rest) = some (front, rest) := by
  induction front with
  | nil => rw [List.nil_append, cutAtLast?, cutAtLast?_eq_none_iff.mpr h, if_pos rfl]
  | cons x front ih => rw [List.cons_append, cutAtLast?, ih]

/-- Both parts of a cut at the last such character. -/
theorem eq_of_cutAtLast? {c : Char} (h : cutAtLast? c text = some (front, rest)) :
    text = front ++ c :: rest ∧ c ∉ rest := by
  induction text generalizing front with
  | nil => cases h
  | cons x others ih =>
    rw [cutAtLast?] at h
    split at h
    · next front' rest' hcut =>
      cases h
      obtain ⟨hothers, hnot⟩ := ih hcut
      exact ⟨by rw [hothers]; rfl, hnot⟩
    · next hnone =>
      split at h
      · next hx =>
        cases h
        exact ⟨by rw [hx, List.nil_append], cutAtLast?_eq_none_iff.mp hnone⟩
      · cases h

/-! ## The longest beginning of a kind -/

theorem head?_dropWhile {α : Type} {p : α → Bool} {xs : List α} {next : α}
    (h : (xs.dropWhile p).head? = some next) : p next = false := by
  have := List.head?_dropWhile_not p xs
  rw [h] at this
  simpa using this

/-- A list is its longest beginning of a kind and what comes after that. -/
theorem exists_longest {α : Type} (p : α → Bool) (xs : List α) :
    ∃ part after, xs = part ++ after ∧ (∀ x ∈ part, p x = true) ∧
      ∀ next, after.head? = some next → p next = false :=
  ⟨xs.takeWhile p, xs.dropWhile p, List.takeWhile_append_dropWhile.symm,
    fun _ hx => List.mem_takeWhile_imp hx, fun _ h => head?_dropWhile h⟩

theorem takeWhile_append_of_head? {α : Type} {p : α → Bool} {part after : List α}
    (hpart : ∀ x ∈ part, p x = true) (hafter : ∀ next, after.head? = some next → p next = false) :
    (part ++ after).takeWhile p = part := by
  rw [List.takeWhile_append_of_pos hpart]
  cases after with
  | nil => rw [List.takeWhile_nil, List.append_nil]
  | cons next rest =>
    rw [List.takeWhile_cons_of_neg (by simp [hafter next rfl]), List.append_nil]

theorem dropWhile_append_of_head? {α : Type} {p : α → Bool} {part after : List α}
    (hpart : ∀ x ∈ part, p x = true) (hafter : ∀ next, after.head? = some next → p next = false) :
    (part ++ after).dropWhile p = after := by
  have hwhole := List.takeWhile_append_dropWhile (p := p) (l := part ++ after)
  rw [takeWhile_append_of_head? hpart hafter] at hwhole
  exact List.append_cancel_left hwhole

/-! ## Last occurrences -/

/-- What stands before the last occurrence does not matter. -/
theorem findLast?_append (h : findLast? pattern text = some i) (front : Chars) :
    findLast? pattern (front ++ text) = some (front.length + i) := by
  induction front with
  | nil => rw [List.nil_append, h, List.length_nil, Nat.zero_add]
  | cons c cs ih =>
    rw [List.cons_append, findLast?, ih, List.length_cons]
    simp only [Option.some.injEq]
    omega

theorem findLast?_eq_none (h : find? pattern text = none) : findLast? pattern text = none := by
  induction text with
  | nil => exact h
  | cons c rest ih =>
    rw [find?] at h
    split at h
    · cases h
    · next hprefix =>
      rw [findLast?, ih (Option.map_eq_none_iff.mp h)]
      exact if_neg hprefix

/-! ## Numbers of occurrences -/

/-- How often the pattern stands in the text, overlaps counted. -/
def occurrences (pattern : Chars) : Chars → Nat
  | [] => 0
  | c :: rest => (if pattern.isPrefixOf (c :: rest) then 1 else 0) + occurrences pattern rest

theorem occurrences_append_of_not_mem {p : Char} {ps : Chars} (h : p ∉ front) :
    occurrences (p :: ps) (front ++ rest) = occurrences (p :: ps) rest := by
  induction front with
  | nil => rfl
  | cons c cs ih =>
    rw [List.mem_cons, not_or] at h
    rw [List.cons_append, occurrences, ih h.2, if_neg (by simp [List.isPrefixOf, h.1]),
      Nat.zero_add]

/-- A pattern does not occur where one of its characters is missing. -/
theorem occurrences_eq_zero {c : Char} (hc : c ∈ pattern) (h : c ∉ text) :
    occurrences pattern text = 0 := by
  induction text with
  | nil => rfl
  | cons x xs ih =>
    rw [List.mem_cons, not_or] at h
    have hno : ¬ pattern.isPrefixOf (x :: xs) = true := by
      intro hprefix
      have hmem := (List.isPrefixOf_iff_prefix.mp hprefix).subset hc
      rcases List.mem_cons.mp hmem with heq | hin
      · exact h.1 heq
      · exact h.2 hin
    rw [occurrences, if_neg hno, ih h.2]

theorem occurrences_append_cons {c : Char} (hc : c ∉ pattern.tail) :
    occurrences pattern (front ++ c :: rest) =
      occurrences pattern front + occurrences pattern (c :: rest) := by
  induction front with
  | nil => rw [List.nil_append, occurrences.eq_1, Nat.zero_add]
  | cons x xs ih =>
    rw [List.cons_append, occurrences, isPrefixOf_append_cons hc, ih, occurrences.eq_2 _ x xs]
    omega

theorem isPrefixOf_concat {c x : Char} {q xs : Chars} (hq : c ∉ q) (h : c ∉ x :: xs) :
    (q ++ [c]).isPrefixOf (x :: (xs ++ c :: rest)) = decide (q = x :: xs) := by
  rw [Bool.eq_iff_iff, List.isPrefixOf_iff_prefix, decide_eq_true_iff]
  constructor
  · rintro ⟨t, ht⟩
    have hcut : ∀ {l t : Chars}, c ∉ l → (l ++ c :: t).takeWhile (· != c) = l := by
      intro l t hl
      refine takeWhile_append_of_head? (fun y hy => ?_) (by simp)
      rw [bne_iff_ne]
      rintro rfl
      exact hl hy
    rw [List.append_assoc, List.singleton_append, ← List.cons_append] at ht
    rw [← hcut hq, ht, hcut h]
  · rintro rfl
    exact ⟨rest, by simp⟩

/-- A pattern that ends with its only `c` occurs behind a text without `c` if the rest of the
    pattern ends the text. -/
theorem occurrences_concat {c : Char} {q : Chars} (hq : c ∉ q) (hne : q ≠ []) (h : c ∉ front) :
    occurrences (q ++ [c]) (front ++ c :: rest) =
      (if q.isSuffixOf front then 1 else 0) + occurrences (q ++ [c]) rest := by
  induction front with
  | nil =>
    obtain ⟨y, ys, rfl⟩ := List.exists_cons_of_ne_nil hne
    rw [List.mem_cons, not_or] at hq
    rw [List.nil_append, occurrences, if_neg (by simp [List.isPrefixOf, Ne.symm hq.1]),
      if_neg (by simp)]
  | cons x xs ih =>
    rw [List.cons_append, occurrences, isPrefixOf_concat hq h]
    rw [List.mem_cons, not_or] at h
    rw [ih h.2]
    by_cases heq : q = x :: xs
    · -- the rest of the pattern is the whole text in front, and not a part of it
      have hnot : ¬ q.isSuffixOf xs = true := by
        rw [List.isSuffixOf_iff_suffix, heq]
        intro hsuffix
        have hle := hsuffix.length_le
        rw [List.length_cons] at hle
        omega
      have hself : q.isSuffixOf (x :: xs) = true := by
        rw [List.isSuffixOf_iff_suffix, heq]
      rw [if_pos (decide_eq_true heq), if_neg hnot, if_pos hself, Nat.zero_add]
    · have hsame : q.isSuffixOf (x :: xs) = q.isSuffixOf xs := by
        rw [Bool.eq_iff_iff, List.isSuffixOf_iff_suffix, List.isSuffixOf_iff_suffix,
          List.suffix_cons_iff, or_iff_right heq]
      rw [if_neg (by simpa using heq), hsame, Nat.zero_add]

theorem contains_eq_false_of_occurrences (h : occurrences pattern text = 0) (hne : pattern ≠ []) :
    contains pattern text = false := by
  rw [contains_eq_false_iff]
  induction text with
  | nil => rw [find?, if_neg (by simpa using hne)]
  | cons c rest ih =>
    rw [occurrences] at h
    have hno : ¬ pattern.isPrefixOf (c :: rest) = true := by
      intro hprefix
      rw [if_pos hprefix] at h
      omega
    rw [if_neg hno, Nat.zero_add] at h
    rw [find?, if_neg hno, ih h, Option.map_none]

/-- A text without a part of the pattern does not have the pattern. -/
theorem contains_eq_false_of_infix {part : Chars} (h : contains part text = false)
    (hpart : part <:+: pattern) : contains pattern text = false := by
  rw [← Bool.not_eq_true, contains_eq_true_iff] at h ⊢
  exact fun hin => h (hpart.trans hin)

end ScriptReport.Text

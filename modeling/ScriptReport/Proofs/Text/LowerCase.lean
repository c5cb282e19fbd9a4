/-
  ScriptReport.Proofs.Text.LowerCase

  Looking for small ASCII text in a text in lower case. Only capital letters of ASCII come to be
  small ones of ASCII, but for two characters: the Kelvin sign becomes a `k`, and the dotted capital
  `İ` an `i` with a dot behind it. So what has no `k` and no `i` at its end is found in the lower
  case of a text where it is found with capital letters of ASCII taken as small ones, each `İ` in
  front of it moving it by one place (`find?_lowerFrom`).
-/

import ScriptReport.Proofs.Text.Occurrence
import ScriptReport.Text.Lower

namespace ScriptReport.Text

/-- The text with capital letters of ASCII as small ones. -/
def foldAscii (text : Chars) : Chars := text.map Char.toLower

/-! ## One character -/

/-- An ASCII character that no character beyond ASCII becomes in lower case. -/
def IsOwnLower (c : Char) : Prop := c.toNat < 128 ∧ c ≠ 'k'

instance (c : Char) : Decidable (IsOwnLower c) := inferInstanceAs (Decidable (_ ∧ _))

theorem toLower_of_le {c : Char} (h : 128 ≤ c.toNat) : c.toLower = c := by
  refine dif_neg fun hupper => ?_
  have hz : c.toNat ≤ 'Z'.toNat := hupper.2
  exact absurd (h.trans hz) (by decide)

theorem toNat_ofNat {n : Nat} (h : n.isValidChar) : (Char.ofNat n).toNat = n := by
  rw [Char.ofNat, dif_pos h]
  rfl

/-- The table of lower-case forms leads to one ASCII character only. -/
theorem ascii_of_mem_lowerRuns : ∀ run ∈ lowerRuns,
    (128 ≤ (run.first : Int) + run.shift ∧ (run.last : Int) + run.shift < 0xD800) ∨
    (0xE000 ≤ (run.first : Int) + run.shift ∧ (run.last : Int) + run.shift < 0x110000) ∨
    (run.first = run.last ∧ (run.first : Int) + run.shift = 'k'.toNat) := by
  decide +kernel

theorem not_isOwnLower_lowerByTable {c : Char} (h : 128 ≤ c.toNat) :
    ¬ IsOwnLower (lowerByTable c) := by
  unfold lowerByTable
  split
  · next run hrun =>
    have hcovers := List.find?_some hrun
    simp only [CaseRun.covers, Bool.and_eq_true, decide_eq_true_eq] at hcovers
    obtain ⟨⟨hfirst, hlast⟩, -⟩ := hcovers
    rcases ascii_of_mem_lowerRuns run (List.mem_of_find?_eq_some hrun) with
      hlow | hhigh | ⟨hone, hkelvin⟩
    · have hvalid : ((c.toNat : Int) + run.shift).toNat.isValidChar := .inl (by omega)
      refine fun hown => absurd hown.1 ?_
      rw [toNat_ofNat hvalid]
      omega
    · have hvalid : ((c.toNat : Int) + run.shift).toNat.isValidChar := .inr (by omega)
      refine fun hown => absurd hown.1 ?_
      rw [toNat_ofNat hvalid]
      omega
    · have hk : ((c.toNat : Int) + run.shift).toNat = 'k'.toNat := by omega
      rw [hk]
      exact fun hown => hown.2 (Char.ofNat_toNat 'k')
  · exact fun hown => absurd hown.1 (by omega)

/-- In front of a text, every character but `İ` gives one character, which is the small form of the
    character if it is ASCII at all. -/
theorem lowerFrom_cons {c : Char} (hc : c ≠ 'İ') (before rest : Chars) :
    ∃ d, lowerFrom before (c :: rest) = d :: lowerFrom (c :: before) rest ∧
      ∀ t, IsOwnLower t → (t = d ↔ t = c.toLower) := by
  rw [lowerFrom]
  by_cases hascii : c.toNat < 128
  · have hsigma : c ≠ 'Σ' := fun heq => absurd hascii (by rw [heq]; decide)
    refine ⟨c.toLower, ?_, fun t _ => Iff.rfl⟩
    rw [if_neg hsigma, lowerChar_of_ascii hascii]
    rfl
  · have hle : 128 ≤ c.toNat := by omega
    -- neither the small form nor the character itself is ASCII
    have hown {d : Char} (hd : ¬ IsOwnLower d) (t : Char) (ht : IsOwnLower t) :
        t = d ↔ t = c.toLower := by
      refine iff_of_false (fun heq => hd (heq ▸ ht)) fun heq => ?_
      rw [heq, toLower_of_le hle] at ht
      exact hascii ht.1
    by_cases hsigma : c = 'Σ'
    · refine ⟨lowerSigma before rest, by rw [if_pos hsigma]; rfl, hown ?_⟩
      unfold lowerSigma
      split <;> decide
    · refine ⟨lowerByTable c, ?_, hown (not_isOwnLower_lowerByTable hle)⟩
      rw [if_neg hsigma, lowerChar, if_neg hascii, if_neg hc]
      rfl

theorem lowerFrom_cons_dotted (before rest : Chars) :
    lowerFrom before ('İ' :: rest) = 'i' :: Char.ofNat 0x307 :: lowerFrom ('İ' :: before) rest := by
  rfl

theorem length_lowerFrom (before text : Chars) :
    (lowerFrom before text).length = text.length + text.count 'İ' := by
  induction text generalizing before with
  | nil => rfl
  | cons c rest ih =>
    by_cases hc : c = 'İ'
    · rw [hc, lowerFrom_cons_dotted, List.length_cons, List.length_cons, ih, List.length_cons,
        List.count_cons_self]
      omega
    · obtain ⟨d, hd, -⟩ := lowerFrom_cons hc before rest
      rw [hd, List.length_cons, ih, List.length_cons, List.count_cons_of_ne hc]
      omega

/-! ## Patterns -/

/-- A pattern that lower-casing can make only from ASCII. -/
structure IsPattern (pattern : Chars) : Prop where
  own : ∀ c ∈ pattern, IsOwnLower c
  ne_nil : pattern ≠ []
  last : pattern.getLast? ≠ some 'i'

variable {pattern text : Chars}

theorem IsPattern.of_all (hown : pattern.all (fun c => decide (IsOwnLower c)) = true)
    (hne : pattern ≠ []) (hlast : pattern.getLast? ≠ some 'i') : IsPattern pattern :=
  ⟨fun c hc => of_decide_eq_true (List.all_eq_true.mp hown c hc), hne, hlast⟩

theorem IsPattern.of_cons {c d : Char} {rest : Chars} (h : IsPattern (c :: d :: rest)) :
    IsPattern (d :: rest) :=
  ⟨fun x hx => h.own x (List.mem_cons_of_mem c hx), List.cons_ne_nil d rest,
    by simpa [List.getLast?_cons_cons] using h.last⟩

theorem not_isOwnLower_dotted : ¬ IsOwnLower 'İ' := by decide

theorem not_isOwnLower_dot : ¬ IsOwnLower (Char.ofNat 0x307) := by decide

theorem toLower_dotted : Char.toLower 'İ' = 'İ' := by decide

/-- The pattern does not start with the two characters that `İ` becomes. -/
theorem IsPattern.not_prefix_dotted (h : IsPattern pattern) (rest : Chars) :
    ¬ pattern <+: 'i' :: Char.ofNat 0x307 :: rest := by
  intro hstarts
  obtain ⟨c, cs, rfl⟩ := List.exists_cons_of_ne_nil h.ne_nil
  obtain ⟨rfl, hrest⟩ := List.cons_prefix_cons.mp hstarts
  cases cs with
  | nil => exact h.last rfl
  | cons d ds =>
    have hd := (List.cons_prefix_cons.mp hrest).1
    exact not_isOwnLower_dot (hd ▸ h.own d (by simp))

theorem IsPattern.not_prefix {c : Char} (h : IsPattern pattern) (hc : ¬ IsOwnLower c)
    (rest : Chars) : ¬ pattern <+: c :: rest := by
  intro hstarts
  obtain ⟨d, ds, rfl⟩ := List.exists_cons_of_ne_nil h.ne_nil
  obtain ⟨rfl, -⟩ := List.cons_prefix_cons.mp hstarts
  exact hc (h.own _ List.mem_cons_self)

/-- A pattern stands at the front of a text in lower case as it stands there in ASCII. -/
theorem prefix_lowerFrom_iff (h : IsPattern pattern) (before text : Chars) :
    pattern <+: lowerFrom before text ↔ pattern <+: foldAscii text := by
  induction text generalizing pattern before with
  | nil => exact Iff.rfl
  | cons c rest ih =>
    rw [foldAscii, List.map_cons]
    by_cases hc : c = 'İ'
    · subst hc
      rw [lowerFrom_cons_dotted, toLower_dotted]
      exact iff_of_false (h.not_prefix_dotted _) (h.not_prefix not_isOwnLower_dotted _)
    · obtain ⟨d, hd, hsame⟩ := lowerFrom_cons hc before rest
      obtain ⟨t, ts, rfl⟩ := List.exists_cons_of_ne_nil h.ne_nil
      rw [hd, List.cons_prefix_cons, List.cons_prefix_cons, hsame t (h.own t List.mem_cons_self)]
      refine and_congr_right fun _ => ?_
      cases ts with
      | nil => exact iff_of_true (List.nil_prefix) (List.nil_prefix)
      | cons u us => exact ih h.of_cons _

/-- A pattern is a text in lower case as it is the text in ASCII. -/
theorem eq_lowerFrom_iff (h : IsPattern pattern) (before text : Chars) :
    pattern = lowerFrom before text ↔ pattern = foldAscii text := by
  have hstarts := prefix_lowerFrom_iff h before text
  have hlength := length_lowerFrom before text
  have hfold : (foldAscii text).length = text.length := List.length_map _
  constructor
  · intro heq
    refine (hstarts.mp (heq ▸ List.prefix_refl _)).eq_of_length_le ?_
    rw [heq]
    omega
  · intro heq
    -- there is no `İ` in the text, as it would be in the pattern
    have hnone : text.count 'İ' = 0 := by
      rw [List.count_eq_zero]
      intro hmem
      have hin : Char.toLower 'İ' ∈ pattern := heq ▸ List.mem_map_of_mem hmem
      exact not_isOwnLower_dotted (h.own _ (toLower_dotted ▸ hin))
    refine (hstarts.mpr (heq ▸ List.prefix_refl _)).eq_of_length_le ?_
    rw [heq]
    omega

/-- A pattern stands at the end of a text in lower case as it stands there in ASCII. -/
theorem suffix_lowerFrom_iff (h : IsPattern pattern) (before text : Chars) :
    pattern <:+ lowerFrom before text ↔ pattern <:+ foldAscii text := by
  induction text generalizing before with
  | nil => exact Iff.rfl
  | cons c rest ih =>
    have hwhole := eq_lowerFrom_iff h before (c :: rest)
    rw [foldAscii, List.map_cons] at hwhole ⊢
    rw [List.suffix_cons_iff, ← hwhole]
    by_cases hc : c = 'İ'
    · subst hc
      have hdot : pattern ≠ Char.ofNat 0x307 :: lowerFrom ('İ' :: before) rest := fun heq =>
        h.not_prefix not_isOwnLower_dot _ ⟨[], (List.append_nil pattern).trans heq⟩
      rw [lowerFrom_cons_dotted, List.suffix_cons_iff, List.suffix_cons_iff, or_iff_right hdot]
      exact or_congr_right (ih _)
    · obtain ⟨d, hd, -⟩ := lowerFrom_cons hc before rest
      rw [hd, List.suffix_cons_iff]
      exact or_congr_right (ih _)

/-- The first place of a pattern in a text in lower case, from its first place in ASCII. -/
theorem find?_lowerFrom (h : IsPattern pattern) (before text : Chars) :
    find? pattern (lowerFrom before text) =
      (find? pattern (foldAscii text)).map fun i => i + (text.take i).count 'İ' := by
  induction text generalizing before with
  | nil =>
    have hnot : ¬ pattern.isEmpty = true := by simpa using h.ne_nil
    rw [show lowerFrom before [] = [] from rfl, show foldAscii [] = [] from rfl, find?, if_neg hnot]
    rfl
  | cons c rest ih =>
    have hstarts := prefix_lowerFrom_iff h before (c :: rest)
    rw [foldAscii, List.map_cons] at hstarts ⊢
    by_cases hc : c = 'İ'
    · subst hc
      rw [lowerFrom_cons_dotted] at hstarts ⊢
      have hnot := h.not_prefix_dotted (lowerFrom ('İ' :: before) rest)
      have hdot := h.not_prefix not_isOwnLower_dot (lowerFrom ('İ' :: before) rest)
      rw [find?_cons_of_not_starts hnot, find?_cons_of_not_starts hdot,
        find?_cons_of_not_starts (mt hstarts.mpr hnot), ih, Option.map_map, Option.map_map,
        Option.map_map]
      refine congrArg (Option.map · _) (funext fun i => ?_)
      simp only [Function.comp_apply, List.take_succ_cons, List.count_cons_self]
      omega
    · obtain ⟨d, hd, -⟩ := lowerFrom_cons hc before rest
      rw [hd] at hstarts ⊢
      by_cases hfront : pattern <+: d :: lowerFrom (c :: before) rest
      · rw [find?_cons_of_starts hfront, find?_cons_of_starts (hstarts.mp hfront)]
        rfl
      · rw [find?_cons_of_not_starts hfront, find?_cons_of_not_starts (mt hstarts.mpr hfront), ih,
          Option.map_map, Option.map_map]
        refine congrArg (Option.map · _) (funext fun i => ?_)
        simp only [Function.comp_apply, List.take_succ_cons, List.count_cons_of_ne hc]
        omega

end ScriptReport.Text

/-
  ScriptReport.Proofs.Html.Unescape

  What reading references back does to a text. It undoes escaping, it never makes a text longer,
  and since no reference goes over a line end, it works on the lines of a text one by one. So no
  text is its own unescaped form with more lines put before it.
-/

import ScriptReport.Html.Escape
import ScriptReport.Html.Reference
import Mathlib.Data.List.TakeWhile

namespace ScriptReport.Html

/-! ## References end before the line does -/

variable {p : Char → Bool}

theorem takeWhile_append_of_nil {a b : Chars} (h : b.takeWhile p = []) :
    (a ++ b).takeWhile p = a.takeWhile p := by
  rw [List.takeWhile_append, h, List.append_nil]
  split
  · next hlen => exact (List.takeWhile_prefix p).eq_of_length hlen |>.symm
  · rfl

theorem takeWhile_take_append_newline (hp : p '\n' = false) (n : Nat) (a b : Chars) :
    ((a ++ '\n' :: b).take n).takeWhile p = (a.take n).takeWhile p := by
  rw [List.take_append]
  apply takeWhile_append_of_nil
  cases n - a.length with
  | zero => rfl
  | succ k => rw [List.take_succ_cons, List.takeWhile_cons_of_neg (by simp [hp])]

theorem takeWhile_append_newline (hp : p '\n' = false) (a b : Chars) :
    (a ++ '\n' :: b).takeWhile p = a.takeWhile p :=
  takeWhile_append_of_nil (List.takeWhile_cons_of_neg (by simp [hp]))

theorem closing_append_newline (a b : Chars) : closing (a ++ '\n' :: b) = closing a := by
  cases a <;> simp [closing]

theorem closing_drop_append_newline {n : Nat} {a : Chars} (h : n ≤ a.length) (b : Chars) :
    closing ((a ++ '\n' :: b).drop n) = closing (a.drop n) := by
  rw [List.drop_append_of_le_length h, closing_append_newline]

theorem add_closing_le {n : Nat} {a : Chars} (h : n ≤ a.length) :
    n + closing (a.drop n) ≤ a.length := by
  rw [closing]
  split
  · next hsemi =>
    obtain ⟨rest, hrest⟩ := List.head?_eq_some_iff.mp hsemi
    have hlen : (a.drop n).length = rest.length + 1 := by rw [hrest, List.length_cons]
    rw [List.length_drop] at hlen
    omega
  · exact h

theorem length_name_le (a : Chars) :
    ((a.take maxNameLength).takeWhile isNameChar).length ≤ a.length :=
  ((List.takeWhile_prefix _).trans (List.take_prefix _ _)).length_le

/-- A reference is part of the text it is read from, and takes at least one character. -/
theorem size_reference? {text : Chars} {reference : Reference} {size : Nat}
    (h : reference? text = some (reference, size)) : 1 ≤ size ∧ size ≤ text.length := by
  unfold reference? at h
  split at h
  · next rest =>
    simp only at h
    split at h
    · cases h
      have hle := add_closing_le (List.takeWhile_prefix (p := fun c => '0' ≤ c && c ≤ '9')
        (l := rest)).length_le
      simp only [List.length_cons]
      omega
    · split at h
      · next x rest' _ =>
        split at h
        · cases h
          have hle := add_closing_le (List.takeWhile_prefix
            (p := fun c => (Text.hexDigit? c).isSome) (l := rest')).length_le
          simp only [List.length_cons]
          omega
        · cases h
      · cases h
  · simp only at h
    split at h
    · cases h
    · next hne =>
      cases h
      have hpos := List.length_pos_iff.mpr hne
      have hle := add_closing_le (length_name_le text)
      omega

/-- The reference after a number sign, with the digits of either kind. -/
theorem reference?_hash (rest : Chars) :
    reference? ('#' :: rest) =
      (let digits := rest.takeWhile fun c => '0' ≤ c && c ≤ '9'
       if digits ≠ [] then
         some (.decimal digits, 1 + digits.length + closing (rest.drop digits.length))
       else
         match rest with
         | x :: rest =>
           let digits := rest.takeWhile fun c => (Text.hexDigit? c).isSome
           if (x = 'x' || x = 'X') && digits ≠ [] then
             some (.hexadecimal digits, 2 + digits.length + closing (rest.drop digits.length))
           else none
         | [] => none) := rfl

theorem reference?_word {text : Chars} (h : text.head? ≠ some '#') :
    reference? text =
      (let name := (text.take maxNameLength).takeWhile isNameChar
       if name = [] then none
       else
         let size := name.length + closing (text.drop name.length)
         some (.word (text.take size), size)) := by
  unfold reference?
  split
  · exact absurd rfl h
  · rfl

/-- A word is as long as the reference that it makes up. -/
theorem length_word_reference? {text name : Chars} {size : Nat}
    (h : reference? text = some (.word name, size)) : name.length = size := by
  have hle := (size_reference? h).2
  by_cases hhash : text.head? = some '#'
  · -- behind a number sign there are only numbers
    obtain ⟨rest, rfl⟩ := List.head?_eq_some_iff.mp hhash
    rw [reference?_hash] at h
    simp only at h
    split_ifs at h
    · cases h
    · split at h
      · split_ifs at h
        cases h
      · cases h
  · rw [reference?_word hhash] at h
    simp only at h
    split_ifs at h
    cases h
    exact List.length_take_of_le hle

theorem reference?_append_newline (a b : Chars) :
    reference? (a ++ '\n' :: b) = reference? a := by
  by_cases hhash : a.head? = some '#'
  · obtain ⟨rest, rfl⟩ := List.head?_eq_some_iff.mp hhash
    rw [List.cons_append, reference?_hash, reference?_hash]
    simp only [takeWhile_append_newline (p := fun c => '0' ≤ c && c ≤ '9') (by decide),
      closing_drop_append_newline (List.takeWhile_prefix _).length_le]
    congr 1
    cases rest with
    | nil => rfl
    | cons x rest =>
      simp only [List.cons_append,
        takeWhile_append_newline (p := fun c => (Text.hexDigit? c).isSome) (by decide),
        closing_drop_append_newline (List.takeWhile_prefix _).length_le]
  · rw [reference?_word hhash, reference?_word]
    · simp only [takeWhile_take_append_newline (p := isNameChar) (by decide),
        closing_drop_append_newline (length_name_le a),
        List.take_append_of_le_length (add_closing_le (length_name_le a))]
    · cases a with
      | nil => simp
      | cons c rest => exact hhash

/-! ## Lines are read one by one -/

theorem unescapeGo_append_newline {skip : Nat} {a : Chars} (h : skip ≤ a.length) (b : Chars) :
    unescapeGo skip (a ++ '\n' :: b) = unescapeGo skip a ++ '\n' :: unescape b := by
  induction a generalizing skip with
  | nil =>
    obtain rfl := Nat.le_zero.mp h
    rfl
  | cons c rest ih =>
    cases skip with
    | succ k =>
      rw [List.cons_append, unescapeGo, unescapeGo]
      exact ih (Nat.le_of_succ_le_succ h)
    | zero =>
      rw [List.cons_append, unescapeGo, unescapeGo, reference?_append_newline,
        ih (Nat.zero_le _)]
      split
      · split
        · next hsome =>
          -- the reference ends before the line does
          rw [ih (size_reference? hsome).2, List.append_assoc]
        · rfl
      · rfl

theorem unescape_append_newline (a b : Chars) :
    unescape (a ++ '\n' :: b) = unescape a ++ '\n' :: unescape b :=
  unescapeGo_append_newline (Nat.zero_le _) b

/-- More lines in front never make a text out of its unescaped form. -/
theorem ne_append_newline_unescape (front text : Chars) :
    text ≠ front ++ '\n' :: unescape text := by
  induction hn : text.length using Nat.strong_induction_on generalizing front text with
  | _ n ih =>
    intro h
    -- the unescaped form is shorter, and is of the same shape again
    have hlen := congrArg List.length h
    simp only [List.length_append, List.length_cons] at hlen
    refine ih (unescape text).length (by omega) (unescape front) (unescape text) rfl ?_
    rw [← unescape_append_newline, ← h]

/-! ## What is read is no longer than what is written -/

theorem length_numbered_le (n : Nat) : (numbered n).length ≤ 1 := by
  unfold numbered
  split_ifs <;> simp

theorem length_entry_le : ∀ entry ∈ namedReferences, entry.2.length ≤ 2 := by
  decide +kernel

theorem length_named?_le {name text : Chars} (h : named? name = some text) : text.length ≤ 2 := by
  unfold named? at h
  split_ifs at h
  any_goals (cases h; decide)
  obtain ⟨entry, hentry, rfl⟩ := Option.map_eq_some_iff.mp h
  rw [List.length_map]
  exact length_entry_le entry (List.mem_of_find?_eq_some hentry)

theorem length_lookup?_le {name text : Chars} (h : lookup? name = some text) :
    text.length ≤ 2 := by
  unfold lookup? at h
  split_ifs at h
  · exact length_named?_le h
  · exact length_named?_le h

theorem length_longestName?_le {word text rest : Chars} {n : Nat} (hn : n ≤ word.length)
    (h : longestName? word n = some (text, rest)) : (text ++ rest).length ≤ word.length := by
  induction n using longestName?.induct word with
  | case1 => cases h
  | case2 => cases h
  | case3 n found hfound =>
    rw [longestName?, hfound] at h
    cases h
    have hle := length_lookup?_le hfound
    rw [List.length_append, List.length_drop]
    omega
  | case4 n hnone ih =>
    rw [longestName?, hnone] at h
    exact ih (by omega) h

theorem length_readName_le {word : Chars} (h : word ≠ []) :
    (readName word).length ≤ word.length + 1 := by
  have hpos := List.length_pos_iff.mpr h
  unfold readName
  split
  · next hlookup =>
    have hle := length_lookup?_le hlookup
    omega
  · split
    · next hlongest =>
      have hle := length_longestName?_le (Nat.sub_le _ _) hlongest
      omega
    · rw [List.length_cons]

/-- A reference stands for no more characters than it has, its ampersand included. -/
theorem length_text_reference?_le {text : Chars} {reference : Reference} {size : Nat}
    (h : reference? text = some (reference, size)) : reference.text.length ≤ size + 1 := by
  obtain ⟨hpos, hle⟩ := size_reference? h
  cases reference with
  | decimal digits => exact (length_numbered_le _).trans (by omega)
  | hexadecimal digits => exact (length_numbered_le _).trans (by omega)
  | word name =>
    have hlen := length_word_reference? h
    have hne : name ≠ [] := List.length_pos_iff.mp (by omega)
    have hread := length_readName_le hne
    rwa [hlen] at hread

theorem length_unescapeGo_le {skip : Nat} {text : Chars} (h : skip ≤ text.length) :
    (unescapeGo skip text).length + skip ≤ text.length := by
  induction text generalizing skip with
  | nil => simpa [unescapeGo] using h
  | cons c rest ih =>
    cases skip with
    | succ k =>
      have hrest := ih (Nat.le_of_succ_le_succ h)
      rw [unescapeGo, List.length_cons]
      omega
    | zero =>
      have hrest := ih (Nat.zero_le _)
      rw [unescapeGo]
      split
      · split
        · next hsome =>
          -- what is skipped after the ampersand pays for what the reference stands for
          have htext := length_text_reference?_le hsome
          have hafter := ih (size_reference? hsome).2
          rw [List.length_append, List.length_cons]
          omega
        · simp only [List.length_cons]
          omega
      · simp only [List.length_cons]
        omega

theorem length_unescape_le (text : Chars) : (unescape text).length ≤ text.length :=
  length_unescapeGo_le (Nat.zero_le _)

/-! ## Reading undoes escaping -/

/-- A name that is closed by a semicolon is read as far as the semicolon. -/
theorem reference?_name {name : Chars} (hname : ∀ c ∈ name, isNameChar c = true)
    (hne : name ≠ []) (hlen : name.length < maxNameLength) (rest : Chars) :
    reference? (name ++ ';' :: rest) = some (.word (name ++ [';']), name.length + 1) := by
  have hhead : (name ++ ';' :: rest).head? ≠ some '#' := by
    obtain ⟨c, cs, rfl⟩ := List.exists_cons_of_ne_nil hne
    intro h
    cases h
    exact absurd (hname '#' List.mem_cons_self) (by decide)
  have hword : ((name ++ ';' :: rest).take maxNameLength).takeWhile isNameChar = name := by
    obtain ⟨k, hk⟩ := Nat.exists_eq_add_of_lt hlen
    rw [List.take_append, List.take_of_length_le (by omega),
      List.takeWhile_append_of_pos (fun c hc => hname c hc), hk, Nat.add_assoc,
      Nat.add_sub_cancel_left, List.take_succ_cons, List.takeWhile_cons_of_neg (by decide),
      List.append_nil]
  rw [reference?_word hhead]
  simp only [hword, if_neg hne, List.drop_left, closing, List.head?_cons, if_true]
  rw [List.take_append, List.take_of_length_le (by omega), Nat.add_sub_cancel_left,
    List.take_succ_cons, List.take_zero]

theorem unescapeGo_length (a b : Chars) : unescapeGo a.length (a ++ b) = unescape b := by
  induction a with
  | nil => rfl
  | cons c rest ih => exact ih

theorem overlongNumber?_length (a b : Chars) :
    overlongNumber? a.length (a ++ b) = overlongNumber? 0 b := by
  induction a with
  | nil => rfl
  | cons c rest ih => exact ih

variable {name text : Chars}

theorem unescape_name (hname : ∀ c ∈ name, isNameChar c = true) (hne : name ≠ [])
    (hlen : name.length < maxNameLength) (htext : lookup? (name ++ [';']) = some text)
    (rest : Chars) : unescape ('&' :: name ++ ';' :: rest) = text ++ unescape rest := by
  have hskip := unescapeGo_length (name ++ [';']) rest
  rw [List.length_append, List.append_assoc] at hskip
  rw [unescape, List.cons_append, unescapeGo, if_pos rfl, reference?_name hname hne hlen]
  simp only [Reference.text, readName, htext]
  exact congrArg (text ++ ·) hskip

theorem overlongNumber?_name (hname : ∀ c ∈ name, isNameChar c = true) (hne : name ≠ [])
    (hlen : name.length < maxNameLength) (rest : Chars) :
    overlongNumber? 0 ('&' :: name ++ ';' :: rest) = overlongNumber? 0 rest := by
  have hskip := overlongNumber?_length (name ++ [';']) rest
  rw [List.length_append, List.append_assoc] at hskip
  rw [List.cons_append, overlongNumber?, if_pos rfl, reference?_name hname hne hlen]
  exact hskip

/-- An escaped character is a named reference to it, or the character itself. -/
theorem escapeMarkupChar_cases (c : Char) :
    (c ≠ '&' ∧ escapeMarkupChar c = [c]) ∨
      ∃ name : Chars, escapeMarkupChar c = '&' :: name ++ [';'] ∧
        (∀ c ∈ name, isNameChar c = true) ∧ name ≠ [] ∧ name.length < maxNameLength ∧
        lookup? (name ++ [';']) = some [c] := by
  rw [escapeMarkupChar]
  split_ifs with hamp hlt hgt
  · subst hamp
    exact .inr ⟨"amp", rfl, List.all_eq_true.mp rfl, by decide, by decide, rfl⟩
  · subst hlt
    exact .inr ⟨"lt", rfl, List.all_eq_true.mp rfl, by decide, by decide, rfl⟩
  · subst hgt
    exact .inr ⟨"gt", rfl, List.all_eq_true.mp rfl, by decide, by decide, rfl⟩
  · exact .inl ⟨hamp, rfl⟩

@[simp] theorem unescape_escapeMarkup (text : Chars) : unescape (escapeMarkup text) = text := by
  induction text with
  | nil => rfl
  | cons c rest ih =>
    rw [escapeMarkup_cons]
    rcases escapeMarkupChar_cases c with ⟨hamp, hc⟩ | ⟨name, hc, hname, hne, hlen, hlookup⟩
    · rw [hc, List.singleton_append, unescape, unescapeGo, if_neg hamp]
      exact congrArg (c :: ·) ih
    · rw [hc, List.append_assoc, List.singleton_append,
        unescape_name hname hne hlen hlookup, ih, List.singleton_append]

/-- An escaped character is a reference to it, by name or by number, or the character itself. -/
theorem unescape_escapeChar_append (c : Char) (rest : Chars) :
    unescape (escapeChar c ++ rest) = c :: unescape rest := by
  rw [escapeChar]
  split_ifs with hquote hapostrophe
  · subst hquote
    have hname : ∀ c ∈ "quot".toList, isNameChar c = true := List.all_eq_true.mp rfl
    exact unescape_name hname (by decide) (by decide) rfl rest
  · -- the number is the same whatever follows its semicolon
    subst hapostrophe
    have hnumber : reference? ("#x27;" ++ rest) = some (.hexadecimal "27", 5) := rfl
    have hskip := unescapeGo_length "#x27;" rest
    have hread : ("&#x27;" : Chars) ++ rest = '&' :: ("#x27;" ++ rest) := rfl
    rw [unescape, hread, unescapeGo, if_pos rfl, hnumber]
    exact congrArg ('\'' :: ·) hskip
  · rcases escapeMarkupChar_cases c with ⟨hamp, hc⟩ | ⟨name, hc, hname, hne, hlen, hlookup⟩
    · rw [hc, List.singleton_append, unescape, unescapeGo, if_neg hamp]
      rfl
    · rw [hc, List.append_assoc, List.singleton_append, unescape_name hname hne hlen hlookup,
        List.singleton_append]

/-- What follows an escaped text is read for itself. -/
theorem unescape_escape_append (text rest : Chars) :
    unescape (escape text ++ rest) = text ++ unescape rest := by
  induction text with
  | nil => rfl
  | cons c text ih =>
    rw [escape_cons, List.append_assoc, unescape_escapeChar_append, ih, List.cons_append]

@[simp] theorem unescape_escape (text : Chars) : unescape (escape text) = text := by
  have htext := unescape_escape_append text []
  rwa [List.append_nil, show unescape [] = [] from rfl, List.append_nil] at htext

/-- Without an ampersand there is nothing to read back. -/
theorem unescape_of_not_mem {text : Chars} (h : '&' ∉ text) : unescape text = text := by
  induction text with
  | nil => rfl
  | cons c rest ih =>
    rw [List.mem_cons, not_or] at h
    rw [unescape, unescapeGo, if_neg (Ne.symm h.1)]
    exact congrArg (c :: ·) (ih h.2)

/-- An escaped text has no references by number. -/
@[simp] theorem overlongNumber?_escapeMarkup (text : Chars) :
    overlongNumber? 0 (escapeMarkup text) = none := by
  induction text with
  | nil => rfl
  | cons c rest ih =>
    rw [escapeMarkup_cons]
    rcases escapeMarkupChar_cases c with ⟨hamp, hc⟩ | ⟨name, hc, hname, hne, hlen, -⟩
    · rw [hc, List.singleton_append, overlongNumber?, if_neg hamp, ih]
    · rw [hc, List.append_assoc, List.singleton_append, overlongNumber?_name hname hne hlen, ih]

end ScriptReport.Html

/-
  ScriptReport.Proofs.Text.Splitting

  A text cut at each of its occurrences of a separator, mostly of one character. No piece has the
  character, and a text that is put together at it falls into the pieces of both sides; so lines
  that are joined and cut again are the same lines (`splitOn_unlines`).
-/

import ScriptReport.Text.Chars

namespace ScriptReport.Text

/-! ## Cutting at one character -/

theorem splitOn_singleton_nil (c : Char) : splitOn [c] [] = [[]] := rfl

theorem splitOn_singleton_cons (c x : Char) (text : Chars) :
    splitOn [c] (x :: text) =
      if x = c then [] :: splitOn [c] text else consFirst x (splitOn [c] text) := by
  by_cases h : x = c
  · rw [if_pos h, splitOn, splitOnGo, if_pos (by simp [List.isPrefixOf, h])]
    rfl
  · rw [if_neg h, splitOn, splitOnGo, if_neg (by simp [List.isPrefixOf, Ne.symm h])]
    rfl

theorem splitOn_ne_nil (sep text : Chars) : splitOn sep text ≠ [] := splitOnGo_ne_nil sep 0 text

/-- A text that is put together at the separator falls into the pieces of both sides. -/
theorem splitOn_append (c : Char) (a b : Chars) :
    splitOn [c] (a ++ c :: b) = splitOn [c] a ++ splitOn [c] b := by
  induction a with
  | nil => rw [List.nil_append, splitOn_singleton_cons, if_pos rfl]; rfl
  | cons x a ih =>
    rw [List.cons_append, splitOn_singleton_cons, splitOn_singleton_cons, ih]
    obtain ⟨piece, pieces, hsplit⟩ := List.exists_cons_of_ne_nil (splitOn_ne_nil [c] a)
    split <;> simp [hsplit, consFirst]

theorem splitOn_of_not_mem {c : Char} {text : Chars} (h : c ∉ text) : splitOn [c] text = [text] := by
  induction text with
  | nil => rfl
  | cons x text ih =>
    rw [List.mem_cons, not_or] at h
    rw [splitOn_singleton_cons, if_neg (Ne.symm h.1), ih h.2]
    rfl

/-- No piece has the separator. -/
theorem not_mem_of_mem_splitOn {c : Char} {text piece : Chars} (h : piece ∈ splitOn [c] text) :
    c ∉ piece := by
  induction text generalizing piece with
  | nil =>
    rw [splitOn_singleton_nil, List.mem_singleton] at h
    simp [h]
  | cons x text ih =>
    rw [splitOn_singleton_cons] at h
    obtain ⟨first, rest, hsplit⟩ := List.exists_cons_of_ne_nil (splitOn_ne_nil [c] text)
    rw [hsplit] at h ih
    split at h
    · rcases List.mem_cons.mp h with rfl | h
      · exact List.not_mem_nil
      · exact ih h
    · next hx =>
      rcases List.mem_cons.mp h with rfl | h
      · rw [List.mem_cons, not_or]
        exact ⟨Ne.symm hx, ih List.mem_cons_self⟩
      · exact ih (List.mem_cons_of_mem first h)

/-- The pieces hold all there is but the separators. -/
theorem flatten_splitOn (c : Char) (text : Chars) :
    (splitOn [c] text).flatten = text.filter (· ≠ c) := by
  induction text with
  | nil => rfl
  | cons x text ih =>
    rw [splitOn_singleton_cons]
    obtain ⟨first, rest, hsplit⟩ := List.exists_cons_of_ne_nil (splitOn_ne_nil [c] text)
    rw [hsplit, List.flatten_cons] at ih
    by_cases hx : x = c
    · simp [hx, hsplit, ih]
    · simp [hx, hsplit, consFirst, ih]

/-! ## A separator of several characters -/

theorem splitOn_separator_append {sep : Chars} (hsep : sep ≠ []) (text : Chars) :
    splitOn sep (sep ++ text) = [] :: splitOn sep text := by
  obtain ⟨c, rest, rfl⟩ := List.exists_cons_of_ne_nil hsep
  have hprefix : (c :: rest).isPrefixOf (c :: (rest ++ text)) = true :=
    List.isPrefixOf_iff_prefix.mpr (List.prefix_append _ _)
  -- the rest of the separator is passed over
  have hskip (skipped : Chars) :
      splitOnGo (c :: rest) skipped.length (skipped ++ text) = splitOn (c :: rest) text := by
    induction skipped with
    | nil => rfl
    | cons x skipped ih => exact ih
  rw [splitOn, List.cons_append, splitOnGo, if_pos hprefix]
  exact congrArg _ (hskip rest)

/-- A text without the first character of the separator belongs to the first piece. -/
theorem splitOn_append_left {c : Char} {front : Chars} (h : c ∉ front) (sep text : Chars) :
    ∃ piece pieces, splitOn (c :: sep) text = piece :: pieces ∧
      splitOn (c :: sep) (front ++ text) = (front ++ piece) :: pieces := by
  obtain ⟨piece, pieces, hsplit⟩ := List.exists_cons_of_ne_nil (splitOn_ne_nil (c :: sep) text)
  refine ⟨piece, pieces, hsplit, ?_⟩
  induction front with
  | nil => exact hsplit
  | cons x front ih =>
    rw [List.mem_cons, not_or] at h
    have hnot : ¬ (c :: sep).isPrefixOf (x :: (front ++ text)) = true := by
      rw [List.isPrefixOf_iff_prefix, List.cons_prefix_cons]
      exact fun hprefix => h.1 hprefix.1
    have hrest : splitOnGo (c :: sep) 0 (front ++ text) = (front ++ piece) :: pieces := ih h.2
    rw [splitOn, List.cons_append, splitOnGo, if_neg hnot, hrest]
    rfl

theorem splitOn_append_separator {c : Char} {front : Chars} (h : c ∉ front) (sep text : Chars) :
    splitOn (c :: sep) (front ++ (c :: sep ++ text)) = front :: splitOn (c :: sep) text := by
  obtain ⟨piece, pieces, hsplit, hall⟩ := splitOn_append_left h sep (c :: sep ++ text)
  rw [splitOn_separator_append (List.cons_ne_nil c sep)] at hsplit
  obtain ⟨rfl, rfl⟩ := List.cons.inj hsplit
  rw [hall, List.append_nil]

theorem prefix_of_splitOn {sep text piece : Chars} {pieces : List Chars} (hsep : sep ≠ [])
    (h : splitOn sep text = piece :: pieces) : piece <+: text := by
  rw [← join_splitOn hsep text, h]
  cases pieces with
  | nil => exact List.prefix_rfl
  | cons next pieces =>
    rw [join_cons (List.cons_ne_nil next pieces), List.append_assoc]
    exact List.prefix_append _ _

/-- No piece has the separator in it. -/
theorem not_infix_of_mem_splitOn {sep text piece : Chars} (hsep : sep ≠ [])
    (h : piece ∈ splitOn sep text) : ¬ sep <:+: piece := by
  have hempty : ¬ sep <:+: [] := fun hinfix => hsep (List.infix_nil.mp hinfix)
  rw [splitOn] at h
  generalize 0 = skip at h
  induction text generalizing skip piece with
  | nil =>
    have hpiece : piece ∈ [[]] := by cases skip <;> exact h
    rwa [List.mem_singleton.mp hpiece]
  | cons c rest ih =>
    cases skip with
    | succ k => exact ih k h
    | zero =>
      rw [splitOnGo] at h
      split at h
      · rcases List.mem_cons.mp h with rfl | hrest
        · exact hempty
        · exact ih _ hrest
      · next hhere =>
        have hpieces : ∀ piece ∈ splitOn sep rest, ¬ sep <:+: piece := fun _ => ih 0
        obtain ⟨first, later, hsplit⟩ := List.exists_cons_of_ne_nil (splitOn_ne_nil sep rest)
        rw [List.isPrefixOf_iff_prefix] at hhere
        rw [← splitOn, hsplit] at h
        rw [hsplit] at hpieces
        rcases List.mem_cons.mp h with rfl | hlater
        · -- an occurrence at the front of the piece would be one at the front of the text
          rw [List.infix_cons_iff, not_or]
          refine ⟨fun hfront => hhere (hfront.trans ?_), hpieces _ List.mem_cons_self⟩
          exact List.cons_prefix_cons.mpr ⟨rfl, prefix_of_splitOn hsep hsplit⟩
        · exact hpieces piece (List.mem_cons_of_mem first hlater)

/-! ## Joined texts -/

theorem join_append {sep : Chars} {front back : List Chars} (hfront : front ≠ [])
    (hback : back ≠ []) : join sep (front ++ back) = join sep front ++ sep ++ join sep back := by
  induction front with
  | nil => exact absurd rfl hfront
  | cons x rest ih =>
    rw [List.cons_append, join_cons (List.append_ne_nil_of_right_ne_nil rest hback)]
    by_cases hrest : rest = []
    · rw [hrest, List.nil_append, join_singleton]
    · rw [ih hrest, join_cons hrest]
      simp only [List.append_assoc]

theorem join_concat {sep : Chars} {front : List Chars} (h : front ≠ []) (last : Chars) :
    join sep (front ++ [last]) = join sep front ++ sep ++ last :=
  join_append h (List.cons_ne_nil last [])

/-- With one more separator in front, each piece has a separator before it. -/
theorem separator_append_join {pieces : List Chars} (h : pieces ≠ []) (sep : Chars) :
    sep ++ join sep pieces = pieces.flatMap (sep ++ ·) := by
  induction pieces with
  | nil => exact absurd rfl h
  | cons piece rest ih =>
    cases rest with
    | nil => rw [join_singleton, List.flatMap_singleton]
    | cons next rest =>
      have hrest := ih (List.cons_ne_nil next rest)
      rw [join_cons (List.cons_ne_nil next rest), List.flatMap_cons, ← hrest]
      simp only [List.append_assoc]

/-- Pieces that are joined and cut again are the same pieces. -/
theorem splitOn_join {c : Char} {pieces : List Chars} (hne : pieces ≠ [])
    (h : ∀ piece ∈ pieces, c ∉ piece) : splitOn [c] (join [c] pieces) = pieces := by
  induction pieces with
  | nil => exact absurd rfl hne
  | cons piece rest ih =>
    obtain ⟨hpiece, hpieces⟩ := List.forall_mem_cons.mp h
    have hfirst := splitOn_of_not_mem hpiece
    cases rest with
    | nil => exact hfirst
    | cons next rest =>
      have hrest := ih (List.cons_ne_nil next rest) hpieces
      rw [join_cons (List.cons_ne_nil next rest), List.append_assoc, List.singleton_append,
        splitOn_append, hfirst, hrest, List.singleton_append]

/-! ## Lines -/

theorem unlines_cons_cons (line next : Chars) (rest : List Chars) :
    unlines (line :: next :: rest) = line ++ '\n' :: unlines (next :: rest) := by
  rw [unlines, join, List.append_assoc]
  rfl

theorem unlines_append_cons (front line : Chars) (rest : List Chars) :
    unlines ((front ++ line) :: rest) = front ++ unlines (line :: rest) := by
  cases rest with
  | nil => rfl
  | cons next rest => rw [unlines_cons_cons, unlines_cons_cons, List.append_assoc]

/-- Lines that are joined and cut again are the same lines. -/
theorem splitOn_unlines {lines : List Chars} (hne : lines ≠ []) (h : ∀ line ∈ lines, '\n' ∉ line) :
    splitOn "\n" (unlines lines) = lines :=
  splitOn_join hne h

/-- What the joined lines start with is in the first one, if it is on one line. -/
theorem prefix_of_prefix_unlines {front line : Chars} {rest : List Chars} (hfront : '\n' ∉ front)
    (h : front <+: unlines (line :: rest)) : front <+: line := by
  cases rest with
  | nil => exact h
  | cons next rest =>
    rw [unlines_cons_cons] at h
    rcases List.prefix_or_prefix_of_prefix h (List.prefix_append _ _) with hshort | ⟨more, rfl⟩
    · exact hshort
    · cases more with
      | nil => exact ⟨[], by simp⟩
      | cons c more =>
        -- the line feed behind the line would belong to the front
        have hc := (List.cons_prefix_cons.mp ((List.prefix_append_right_inj line).mp h)).1
        exact absurd (hc ▸ List.mem_append_right _ List.mem_cons_self) hfront

end ScriptReport.Text

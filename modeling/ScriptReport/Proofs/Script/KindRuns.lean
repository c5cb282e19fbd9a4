/-
  ScriptReport.Proofs.Script.KindRuns

  Blocks of code one after another, or of preformatted text, are one item. Its text is made of all
  lines from the first of these blocks to the last, the blank lines between them included
  (`foldl_run`), and the lines before and behind are read as if they stood alone. Where the lines of
  the blocks are is told by cuts that no block goes over (`exists_cut`). Main statement:
  `readItems_run`.
-/

import ScriptReport.Proofs.Script.BlockStep
import ScriptReport.Proofs.Script.Coverage

namespace ScriptReport.Script

/-! ## Runs of blocks -/

/-- A line as an item of the kind shows it: without the blanks in front, and empty if it is
    blank. -/
def Running.shown (kind : Running) (line : Chars) : Chars :=
  if Text.isBlank line then [] else line.drop kind.indent

/-- Blocks of the kind, with none of the kind right before or behind them. -/
structure IsMaximalRun (kind : Running) (before run after : List (List Chars)) : Prop where
  nonempty : run ≠ []
  holds : ∀ lines ∈ run, kind.Holds lines
  before : ∀ lines ∈ before.getLast?, ¬ kind.Holds lines
  after : ∀ lines ∈ after.head?, ¬ kind.Holds lines

/-- Neither the first nor the last line is blank. -/
def EndsAreFull (lines : List Chars) : Prop :=
  (∀ line ∈ lines.head?, Text.isBlank line = false) ∧
    ∀ line ∈ lines.getLast?, Text.isBlank line = false

/-- No block goes over the border, for there is a blank line next to it, or no line. -/
def IsCut (front back : List Chars) : Prop :=
  (∀ line ∈ front.getLast?, Text.isBlank line = true) ∨
    ∀ line ∈ back.head?, Text.isBlank line = true

variable {lines front part back blanks : List Chars} {gap : Nat} {kind : Running}

/-! ## Cuts -/

theorem IsCut.blanks_left (hblanks : ∀ line ∈ blanks, Text.isBlank line = true)
    (h : IsCut front (blanks ++ back)) : IsCut (front ++ blanks) back := by
  cases blanks with
  | nil => rwa [List.append_nil]
  | cons blank rest =>
    refine .inl fun line hline => hblanks line ?_
    rw [List.getLast?_append_of_ne_nil _ (List.cons_ne_nil blank rest)] at hline
    exact List.mem_of_getLast? hline

theorem IsCut.blanks_right (hblanks : ∀ line ∈ blanks, Text.isBlank line = true)
    (h : IsCut (front ++ blanks) back) : IsCut front (blanks ++ back) := by
  cases blanks with
  | nil => rwa [List.append_nil] at h
  | cons blank rest =>
    refine .inr fun line hline => hblanks line ?_
    exact Option.mem_some_iff.mp hline ▸ List.mem_cons_self

theorem forall_getLast?_of_append {p : Chars → Prop} (more : List Chars)
    (h : ∀ line ∈ (more ++ lines).getLast?, p line) : ∀ line ∈ lines.getLast?, p line := by
  cases lines with
  | nil => exact fun _ hline => absurd hline (by simp)
  | cons line rest =>
    rwa [List.getLast?_append_of_ne_nil _ (List.cons_ne_nil line rest)] at h

theorem IsCut.of_append (more : List Chars) (h : IsCut (more ++ front) back) :
    IsCut front back := h.imp_left (forall_getLast?_of_append more)

/-- The first block behind a line is the same whatever comes behind a cut. -/
theorem takeWhile_append_of_isCut {line : Chars} {rest : List Chars}
    (hline : Text.isBlank line = false) (h : IsCut (line :: rest) back) :
    (rest ++ back).takeWhile (!Text.isBlank ·) = rest.takeWhile (!Text.isBlank ·) ∧
      (rest ++ back).dropWhile (!Text.isBlank ·) = rest.dropWhile (!Text.isBlank ·) ++ back := by
  have hsplit : rest ++ back = rest.takeWhile (!Text.isBlank ·) ++
      (rest.dropWhile (!Text.isBlank ·) ++ back) := by
    rw [← List.append_assoc, List.takeWhile_append_dropWhile]
  have hhead : ∀ next, (rest.dropWhile (!Text.isBlank ·) ++ back).head? = some next →
      (!Text.isBlank next) = false := by
    intro next hnext
    cases hdrop : rest.dropWhile (!Text.isBlank ·) with
    | nil =>
      -- the last line before the border is not blank, so the first one behind it is
      rw [hdrop, List.nil_append] at hnext
      have hfull : ∀ l ∈ line :: rest, (!Text.isBlank l) = true :=
        List.forall_mem_cons.mpr ⟨by rw [hline]; rfl, List.dropWhile_eq_nil_iff.mp hdrop⟩
      rw [Bool.not_eq_false']
      refine h.resolve_left (fun hlast => ?_) next hnext
      have hgetLast := List.getLast?_eq_some_getLast (List.cons_ne_nil line rest)
      have hblank := hlast _ hgetLast
      have hnot := hfull _ (List.getLast_mem (List.cons_ne_nil line rest))
      rw [hblank] at hnot
      cases hnot
    | cons first more =>
      have hfirst : (rest.dropWhile (!Text.isBlank ·)).head? = some next := by
        rw [hdrop] at hnext ⊢
        exact hnext
      exact Text.head?_dropWhile (p := (!Text.isBlank ·)) hfirst
  have hfull : ∀ l ∈ rest.takeWhile (!Text.isBlank ·), (!Text.isBlank l) = true :=
    fun _ hl => List.mem_takeWhile_imp (p := (!Text.isBlank ·)) hl
  rw [hsplit]
  exact ⟨Text.takeWhile_append_of_head? hfull hhead, Text.dropWhile_append_of_head? hfull hhead⟩

/-- The blocks on both sides of a cut. -/
theorem exists_blocksAfter_append (h : IsCut front back) (gap : Nat) :
    ∃ next, blocksAfter gap (front ++ back) = blocksAfter gap front ++ blocksAfter next back := by
  induction gap, front using blocksAfter.induct with
  | case1 gap => exact ⟨gap, by simp [blocksAfter]⟩
  | case2 gap line rest hblank ih =>
    obtain ⟨next, hnext⟩ := ih (IsCut.of_append [line] h)
    refine ⟨next, ?_⟩
    rw [List.cons_append, blocksAfter, if_pos hblank, hnext, blocksAfter, if_pos hblank]
  | case3 gap line rest hblank ih =>
    obtain ⟨htake, hdrop⟩ := takeWhile_append_of_isCut (Bool.eq_false_iff.mpr hblank) h
    have hcut : IsCut (rest.dropWhile (!Text.isBlank ·)) back := by
      refine IsCut.of_append (line :: rest.takeWhile (!Text.isBlank ·)) ?_
      rwa [List.cons_append, List.takeWhile_append_dropWhile]
    obtain ⟨next, hnext⟩ := ih hcut
    refine ⟨next, ?_⟩
    rw [List.cons_append, blocksAfter, if_neg hblank, htake, hdrop, hnext, blocksAfter,
      if_neg hblank, List.cons_append]

theorem subBlocks_append (h : IsCut front back) :
    subBlocks (front ++ back) = subBlocks front ++ subBlocks back := by
  obtain ⟨next, hnext⟩ := exists_blocksAfter_append h 0
  rw [← lines_blocksAfter 0, hnext, List.map_append, lines_blocksAfter, lines_blocksAfter]

theorem subBlocks_blank_append (hblanks : ∀ line ∈ blanks, Text.isBlank line = true)
    (lines : List Chars) : subBlocks (blanks ++ lines) = subBlocks lines := by
  rw [← subBlocks_dropWhile, List.dropWhile_append_of_pos hblanks, subBlocks_dropWhile]

theorem subBlocks_append_of_blank (hblanks : ∀ line ∈ blanks, Text.isBlank line = true)
    (lines : List Chars) : subBlocks (lines ++ blanks) = subBlocks lines := by
  have hcut : IsCut lines blanks := .inr fun line hline => hblanks line (List.mem_of_head? hline)
  have hnone := subBlocks_blank_append hblanks []
  rw [List.append_nil] at hnone
  rw [subBlocks_append hcut, hnone]
  exact List.append_nil _

/-- Lines that start with a block are its lines and those behind it. -/
theorem blocksAfter_first {line : Chars} (hline : Text.isBlank line = false) (rest : List Chars)
    (gap : Nat) :
    line :: rest = (line :: rest.takeWhile (!Text.isBlank ·)) ++
        rest.dropWhile (!Text.isBlank ·) ∧
      (∀ l ∈ line :: rest.takeWhile (!Text.isBlank ·), Text.isBlank l = false) ∧
      blocksAfter gap (line :: rest) = ⟨gap, line :: rest.takeWhile (!Text.isBlank ·)⟩ ::
        blocksAfter 0 (rest.dropWhile (!Text.isBlank ·)) := by
  refine ⟨by rw [List.cons_append, List.takeWhile_append_dropWhile],
    List.forall_mem_cons.mpr ⟨hline, fun _ => not_blank_of_mem_takeWhile⟩, ?_⟩
  rw [blocksAfter, if_neg (by rw [hline]; exact Bool.false_ne_true)]

/-- Lines with blocks are those up to the end of the first block, and what comes behind it. -/
theorem exists_first_block {first : List Chars} {rest : List (List Chars)}
    (h : subBlocks lines = first :: rest) :
    ∃ head after, lines = head ++ after ∧ subBlocks head = [first] ∧
      (∀ line ∈ after.head?, Text.isBlank line = true) ∧ subBlocks after = rest := by
  rw [← subBlocks_dropWhile] at h
  cases hlines : lines.dropWhile Text.isBlank with
  | nil =>
    rw [hlines] at h
    cases h
  | cons line more =>
    have hline : Text.isBlank line = false := Text.head?_dropWhile (by rw [hlines]; rfl)
    obtain ⟨hsplit, hfull, hblocks⟩ := blocksAfter_first hline more 0
    rw [hlines, ← lines_blocksAfter 0, hblocks, List.map_cons, lines_blocksAfter] at h
    obtain ⟨rfl, rfl⟩ := List.cons.inj h
    refine ⟨lines.takeWhile Text.isBlank ++ line :: more.takeWhile (!Text.isBlank ·),
      more.dropWhile (!Text.isBlank ·), ?_, ?_, fun blank hblank => ?_, rfl⟩
    · rw [List.append_assoc, ← hsplit, ← hlines, List.takeWhile_append_dropWhile]
    · rw [subBlocks_blank_append fun _ hl => List.mem_takeWhile_imp hl]
      exact subBlocks_of_full (List.cons_ne_nil _ _) hfull
    · exact isBlank_head?_dropWhile more blank hblank

/-- Lines can be cut wherever their blocks can. -/
theorem exists_cut {before after : List (List Chars)} (h : subBlocks lines = before ++ after) :
    ∃ front back, lines = front ++ back ∧ IsCut front back ∧ subBlocks front = before ∧
      subBlocks back = after := by
  induction before generalizing lines with
  | nil => exact ⟨[], lines, rfl, .inl fun _ hline => absurd hline (by simp), rfl, h⟩
  | cons first before ih =>
    obtain ⟨head, rest, rfl, hfirst, hrest, hblocks⟩ := exists_first_block h
    obtain ⟨front, back, rfl, hcut, hfront, hback⟩ := ih hblocks
    cases front with
    | nil =>
      refine ⟨head, back, rfl, Or.inr hrest, ?_, hback⟩
      rw [hfirst, ← hfront]
      rfl
    | cons line more =>
      refine ⟨head ++ line :: more, back, (List.append_assoc _ _ _).symm, ?_, ?_, hback⟩
      · refine hcut.imp_left fun hlast last hmem => hlast last ?_
        rwa [List.getLast?_append_of_ne_nil _ (List.cons_ne_nil line more)] at hmem
      · have hhead : IsCut head (line :: more) := .inr hrest
        rw [subBlocks_append hhead, hfirst, hfront]
        rfl

/-- Lines with blocks are blank lines, those from the first to the last that is not blank, and blank
    lines again. -/
theorem exists_trimmed (h : subBlocks lines ≠ []) :
    ∃ lead part trail, lines = lead ++ part ++ trail ∧ EndsAreFull part ∧
      (∀ line ∈ lead, Text.isBlank line = true) ∧ ∀ line ∈ trail, Text.isBlank line = true := by
  have hlead : ∀ line ∈ lines.takeWhile Text.isBlank, Text.isBlank line = true :=
    fun _ hline => List.mem_takeWhile_imp hline
  have htrail : ∀ line ∈ (lines.dropWhile Text.isBlank).rtakeWhile Text.isBlank,
      Text.isBlank line = true := fun _ hline => List.mem_rtakeWhile_imp hline
  have hsplit := trimBlank_split lines
  have hne : trimBlank lines ≠ [] := by
    intro hnil
    rw [hnil, List.append_nil] at hsplit
    rw [← hsplit, subBlocks_append_of_blank htrail, ← List.append_nil (lines.takeWhile _),
      subBlocks_blank_append hlead] at h
    exact h rfl
  obtain ⟨first, hfirst, hfirstFull⟩ := trimBlank_head hne
  obtain ⟨last, hlast, hlastFull⟩ := trimBlank_last hne
  refine ⟨_, _, _, hsplit.symm, ⟨fun line hline => ?_, fun line hline => ?_⟩, hlead, htrail⟩
  · rwa [← Option.mem_unique hfirst hline]
  · rwa [← Option.mem_unique hlast hline]

/-- Where some of the blocks are: the lines from the first line of the first to the last line of the
    last. -/
theorem exists_part {before run after : List (List Chars)} (hrun : run ≠ [])
    (h : subBlocks lines = before ++ run ++ after) :
    ∃ front part back, lines = front ++ part ++ back ∧ EndsAreFull part ∧
      IsCut front (part ++ back) ∧ IsCut part back ∧
      subBlocks front = before ∧ subBlocks part = run ∧ subBlocks back = after := by
  rw [List.append_assoc] at h
  obtain ⟨front, rest, rfl, hcut, hfront, hrest⟩ := exists_cut h
  obtain ⟨middle, back, rfl, hcutBack, hmiddle, hback⟩ := exists_cut hrest
  obtain ⟨lead, part, trail, rfl, hends, hlead, htrail⟩ := exists_trimmed (hmiddle ▸ hrun)
  -- the blank lines around the part go to the lines before and behind
  have hcutFront : IsCut (front ++ lead) (part ++ (trail ++ back)) := by
    refine IsCut.blanks_left hlead ?_
    simpa only [List.append_assoc] using hcut
  have hcutPart : IsCut part (trail ++ back) :=
    IsCut.of_append lead (IsCut.blanks_right htrail hcutBack)
  refine ⟨front ++ lead, part, trail ++ back, by simp, hends, hcutFront, hcutPart, ?_, ?_, ?_⟩
  · rw [subBlocks_append_of_blank hlead, hfront]
  · rw [← hmiddle, subBlocks_append_of_blank htrail, subBlocks_blank_append hlead]
  · rw [subBlocks_blank_append htrail, hback]

/-! ## The text of a run -/

theorem unlines_append_blanks {a b : List Chars} (ha : a ≠ []) (hb : b ≠ []) (gap : Nat) :
    Text.unlines (a ++ List.replicate gap [] ++ b) =
      Text.unlines a ++ List.replicate (gap + 1) '\n' ++ Text.unlines b := by
  induction gap generalizing a with
  | zero =>
    rw [List.replicate_zero, List.append_nil]
    exact Text.join_append ha hb
  | succ gap ih =>
    have hline : Text.unlines (a ++ [[]]) = Text.unlines a ++ ['\n'] := by
      rw [Text.unlines, Text.join_concat ha, List.append_nil]
      rfl
    have hsplit : a ++ List.replicate (gap + 1) [] ++ b =
        a ++ [[]] ++ List.replicate gap [] ++ b := by
      rw [List.replicate_succ, List.append_assoc a [[]]]
      rfl
    rw [hsplit, ih (List.append_ne_nil_of_right_ne_nil a (List.cons_ne_nil _ _)), hline,
      List.append_assoc (Text.unlines a)]
    rfl

/-- The text of a block is that of its lines as they are shown. -/
theorem text_eq_unlines_shown (h : ∀ line ∈ lines, Text.isBlank line = false) :
    kind.text lines = Text.unlines (lines.map kind.shown) := by
  refine congrArg Text.unlines (List.map_congr_left fun line hline => ?_)
  rw [Running.shown, if_neg (by rw [h line hline]; exact Bool.false_ne_true)]

variable {items : List Item}

/-- Blocks of the kind behind an item of the kind are joined to it line by line. -/
theorem foldl_joined {done : List Chars} (hdone : done ≠ []) (hpart : part = [] → gap = 0)
    (hlast : ∀ line ∈ part.getLast?, Text.isBlank line = false)
    (hholds : ∀ lines ∈ subBlocks part, kind.Holds lines) :
    (blocksAfter gap part).foldl advance (kind.item (Text.unlines done) :: items, some kind) =
      (kind.item (Text.unlines (done ++ List.replicate gap [] ++ part.map kind.shown)) :: items,
        some kind) := by
  -- a blank line only raises the gap, and each block puts its lines behind those that are done
  induction gap, part using blocksAfter.induct generalizing done with
  | case1 gap =>
    rw [hpart rfl, List.replicate_zero, List.append_nil, List.map_nil, List.append_nil, blocksAfter]
    rfl
  | case2 gap line rest hblank ih =>
    have hrest : rest ≠ [] := by
      rintro rfl
      have hfull := hlast line rfl
      rw [hblank] at hfull
      cases hfull
    have hnext := ih hdone (fun hnil => absurd hnil hrest)
      (forall_getLast?_of_append [line] hlast)
      (by rwa [subBlocks_cons_blank hblank] at hholds)
    rw [blocksAfter, if_pos hblank, hnext, List.map_cons, Running.shown, if_pos hblank,
      List.replicate_succ', ← List.append_assoc done, List.append_assoc _ [[]]]
    rfl
  | case3 gap line rest hblank ih =>
    obtain ⟨hlines, hfull, hblocks⟩ := blocksAfter_first (Bool.eq_false_iff.mpr hblank) rest gap
    rw [← lines_blocksAfter gap, hblocks, List.map_cons, lines_blocksAfter] at hholds
    obtain ⟨hfirst, hafter⟩ := List.forall_mem_cons.mp hholds
    rw [hblocks, List.foldl_cons, advance_joined hfirst, text_eq_unlines_shown hfull,
      ← unlines_append_blanks hdone (by simp), hlines]
    rw [hlines] at hlast
    rw [ih (by simp) (fun _ => rfl) (forall_getLast?_of_append _ hlast) hafter, List.map_append]
    simp only [List.replicate_zero, List.append_nil, List.append_assoc]

/-- Blocks of the kind are one item, with all lines from the first to the last. -/
theorem foldl_run {running : Option Running} (hrunning : running ≠ some kind) (hpart : part ≠ [])
    (hends : EndsAreFull part) (hholds : ∀ lines ∈ subBlocks part, kind.Holds lines) (gap : Nat) :
    (blocksAfter gap part).foldl advance (items, running) =
      (kind.item (Text.unlines (part.map kind.shown)) :: items, some kind) := by
  obtain ⟨line, rest, rfl⟩ := List.exists_cons_of_ne_nil hpart
  obtain ⟨hlines, hfull, hblocks⟩ := blocksAfter_first (hends.1 line rfl) rest gap
  rw [← lines_blocksAfter gap, hblocks, List.map_cons, lines_blocksAfter] at hholds
  obtain ⟨hfirst, hafter⟩ := List.forall_mem_cons.mp hholds
  have hlast := hends.2
  rw [hlines] at hlast
  rw [hblocks, List.foldl_cons, advance_started hfirst hrunning, text_eq_unlines_shown hfull,
    foldl_joined (by simp) (fun _ => rfl) (forall_getLast?_of_append _ hlast) hafter, hlines,
    List.map_append, List.replicate_zero, List.append_nil]

/-! ## Before and behind a run -/

theorem advance_not_joined {block : Block} {running : Option Running}
    (h : ∀ kind, running = some kind → ¬ kind.Holds block.lines) (gap : Nat) :
    advance (items, running) block = advance (items, none) ⟨gap, block.lines⟩ := by
  rcases block_cases block.lines with ⟨kind, hkind⟩ | ⟨item, hitem, hnot⟩ | hnone
  · have hother : kind.Holds (Block.mk gap block.lines).lines := hkind
    rw [advance_started hkind fun hrunning => h kind hrunning hkind,
      advance_started hother (by simp)]
  · have hother : (blockItem (Block.mk gap block.lines).lines).1 = some item := hitem
    rw [advance_other hitem hnot, advance_other hother hnot]
  · have hother : (blockItem (Block.mk gap block.lines).lines).1 = none := hnone
    rw [advance_mixed hnone, advance_mixed hother]

/-- Blocks are read as on their own, if the first one is not joined to what comes before. -/
theorem foldl_not_joined {running : Option Running}
    (h : ∀ kind, running = some kind → ∀ lines ∈ (subBlocks back).head?, ¬ kind.Holds lines)
    (gap : Nat) :
    ((blocksAfter gap back).foldl advance (items, running)).1 =
      ((blocks back).foldl advance (items, none)).1 := by
  induction back generalizing gap with
  | nil => simp [blocks, blocksAfter]
  | cons line rest ih =>
    cases hblank : Text.isBlank line with
    | true =>
      rw [blocksAfter, if_pos hblank, blocks, List.dropWhile_cons_of_pos hblank]
      exact ih (by rwa [subBlocks_cons_blank hblank] at h) (gap + 1)
    | false =>
      obtain ⟨-, -, hblocks⟩ := blocksAfter_first hblank rest gap
      obtain ⟨-, -, hblocks'⟩ := blocksAfter_first hblank rest 0
      rw [← lines_blocksAfter gap, hblocks] at h
      rw [blocks, List.dropWhile_cons_of_neg (by rw [hblank]; exact Bool.false_ne_true), hblocks,
        hblocks', List.foldl_cons, List.foldl_cons,
        advance_not_joined (fun kind hkind => h kind hkind _ rfl) 0]

/-- Only a block of the kind leaves something that a block of the kind is joined to. -/
theorem standing_running {bs : List Block} (h : (standing bs).2 = some kind) :
    ∃ lines ∈ (bs.map Block.lines).getLast?, kind.Holds lines := by
  cases bs using List.reverseRecOn with
  | nil => cases h
  | append_singleton bs block =>
    rw [standing_concat] at h
    have hholds := (advance_running (isSound_standing bs) block h).1
    exact ⟨block.lines, by simp, hholds⟩

theorem readItems_eq_standing (lines : List Chars) (gap : Nat) :
    (readItems lines).1 = (standing (blocksAfter gap lines)).1.reverse := by
  rw [readItems_eq, itemsOf, standing, standing,
    foldl_not_joined (fun _ hnone => by cases hnone) gap]

/-! ## Main statement -/

/-- Every maximal run of blocks of a kind is one item of the kind. Its text is made of the lines
    from the first to the last line of the run, and the lines around it are read as if they stood
    alone. -/
theorem readItems_run {kind : Running} {lines : List Chars} {before run after : List (List Chars)}
    (hsplit : subBlocks lines = before ++ run ++ after)
    (hrun : IsMaximalRun kind before run after) :
    ∃ front part back, lines = front ++ part ++ back ∧ EndsAreFull part ∧
      subBlocks front = before ∧ subBlocks part = run ∧ subBlocks back = after ∧
      (readItems lines).1 = (readItems front).1 ++
        kind.item (Text.unlines (part.map kind.shown)) :: (readItems back).1 := by
  obtain ⟨front, part, back, rfl, hends, hcutFront, hcutPart, hfront, hpart, hback⟩ :=
    exists_part hrun.nonempty hsplit
  refine ⟨front, part, back, rfl, hends, hfront, hpart, hback, ?_⟩
  obtain ⟨gap, hgap⟩ := exists_blocksAfter_append hcutFront 0
  obtain ⟨last, hlast⟩ := exists_blocksAfter_append hcutPart gap
  have hne : part ≠ [] := by
    rintro rfl
    exact hrun.nonempty hpart.symm
  have hrunning : (standing (blocksAfter 0 front)).2 ≠ some kind := by
    intro hrunning
    obtain ⟨block, hblock, hholds⟩ := standing_running hrunning
    rw [lines_blocksAfter, hfront] at hblock
    exact hrun.before block hblock hholds
  have hafter : ∀ other, some kind = some other →
      ∀ lines ∈ (subBlocks back).head?, ¬ Running.Holds other lines := by
    rintro other heq lines hlines
    rw [hback] at hlines
    exact Option.some.inj heq ▸ hrun.after lines hlines
  have hsettled : endInText (kind.item (Text.unlines (part.map kind.shown)) ::
      (standing (blocksAfter 0 front)).1) = false := by cases kind <;> rfl
  have hwhole : (standing (blocksAfter 0 (front ++ part ++ back))).1 =
      (standing (blocks back)).1 ++ kind.item (Text.unlines (part.map kind.shown)) ::
        (standing (blocksAfter 0 front)).1 := by
    rw [List.append_assoc, hgap, hlast, standing, List.foldl_append, List.foldl_append, ← standing,
      foldl_run hrunning hne hends (hpart ▸ hrun.holds), foldl_not_joined hafter,
      foldl_advance_settled hsettled]
  rw [readItems_eq_standing _ 0, hwhole, List.reverse_append, List.reverse_cons,
    readItems_eq_standing front 0, readItems_eq back, itemsOf, List.append_assoc]
  rfl

/-- Two blocks of code with blank lines of several kinds between them, in other blocks. -/
def codeBody : List Chars :=
  ["text", "", "  a = 1;", "", "   ", "\t", "  b = 2;", "    c", "", " kept", "", "  d", ""]

/-- The blocks of code that come together in `codeBody`. -/
def codeRun : List (List Chars) := [["  a = 1;"], ["  b = 2;", "    c"]]

theorem readItems_run_codeBody :
    subBlocks codeBody = [["text".toList]] ++ codeRun ++ [[" kept".toList], ["  d".toList]] ∧
      IsMaximalRun .codeLiteral [["text"]] codeRun [[" kept"], ["  d"]] ∧
      ∃ front part back, codeBody = front ++ part ++ back ∧ EndsAreFull part ∧
        subBlocks front = [["text".toList]] ∧ subBlocks part = codeRun ∧
        subBlocks back = [[" kept".toList], ["  d".toList]] ∧
        (readItems codeBody).1 = (readItems front).1 ++
          Running.item .codeLiteral (Text.unlines (part.map (Running.shown .codeLiteral))) ::
            (readItems back).1 := by
  have hsplit : subBlocks codeBody =
      [["text".toList]] ++ codeRun ++ [[" kept".toList], ["  d".toList]] := by
    decide +kernel
  have hrun : IsMaximalRun .codeLiteral [["text"]] codeRun [[" kept"], ["  d"]] :=
    ⟨by decide, by decide, by decide, by decide⟩
  exact ⟨hsplit, hrun, readItems_run hsplit hrun⟩

example : (readItems codeBody).1 =
    [.text "text", .codeLiteral "a = 1;\n\n\n\nb = 2;\n  c", .preformatted "kept",
      .codeLiteral "d"] := by decide +kernel

end ScriptReport.Script

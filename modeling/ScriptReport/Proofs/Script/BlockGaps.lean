/-
  ScriptReport.Proofs.Script.BlockGaps

  Blocks and the blank lines between them. With as many empty lines in front of each block as its
  gap says, the blocks are written as the lines they come from, from the first to the last that is
  not blank (`written_blocksAfter`), and what is written so is read as these blocks again
  (`blocksAfter_written`). Main statement: the blocks of the lines are the only ones that are apart
  and are written as these lines (`blocks_eq_iff`).
-/

import ScriptReport.Proofs.Script.KindRuns

namespace ScriptReport.Script

/-! ## Blocks as they are written -/

/-- The line, with nothing in it if it is blank. -/
def emptied (line : Chars) : Chars := if Text.isBlank line then [] else line

/-- The lines of a block behind as many empty lines as its gap says. -/
def Block.written (block : Block) : List Chars := List.replicate block.gap [] ++ block.lines

/-- The blocks that the lines fall into: runs of lines that are not blank, with blank lines between
    each two of them and none in front of the first. Written one after another they are the lines,
    without the blank lines at either end and with nothing in the other blank lines. -/
structure AreBlocksOf (lines : List Chars) (list : List Block) : Prop where
  nonempty : ∀ block ∈ list, block.lines ≠ []
  full : ∀ block ∈ list, ∀ line ∈ block.lines, Text.isBlank line = false
  first : ∀ block ∈ list.head?, block.gap = 0
  apart : ∀ block ∈ list.tail, 1 ≤ block.gap
  written : list.flatMap Block.written = (trimBlank lines).map emptied

variable {lines blanks after : List Chars} {list : List Block} {gap : Nat}

/-! ## Blank lines -/

theorem isBlank_emptied (line : Chars) : Text.isBlank (emptied line) = Text.isBlank line := by
  rw [emptied]
  split
  · next hblank =>
    rw [hblank]
    rfl
  · rfl

theorem map_emptied_of_full (h : ∀ line ∈ lines, Text.isBlank line = false) :
    lines.map emptied = lines := by
  have hself : ∀ line ∈ lines, emptied line = id line := fun line hline => by
    rw [emptied, if_neg (by rw [h line hline]; exact Bool.false_ne_true)]
    rfl
  rw [List.map_congr_left hself, List.map_id]

theorem head?_map_emptied (h : ∀ line ∈ lines.head?, Text.isBlank line = true) :
    ∀ line ∈ (lines.map emptied).head?, Text.isBlank line = true := by
  cases lines with
  | nil => exact fun _ hline => absurd hline (by simp)
  | cons line rest =>
    rintro _ ⟨⟩
    rw [isBlank_emptied]
    exact h line rfl

/-- Empty lines in front only raise the gap. -/
theorem blocksAfter_replicate (gap n : Nat) (lines : List Chars) :
    blocksAfter gap (List.replicate n [] ++ lines) = blocksAfter (gap + n) lines := by
  induction n generalizing gap with
  | zero => rfl
  | succ n ih =>
    have hempty : Text.isBlank [] = true := rfl
    rw [List.replicate_succ, List.cons_append, blocksAfter, if_pos hempty, ih, Nat.add_assoc,
      Nat.add_comm 1]

theorem blocksAfter_of_blank (hblanks : ∀ line ∈ blanks, Text.isBlank line = true) (gap : Nat) :
    blocksAfter gap blanks = [] := by
  induction blanks generalizing gap with
  | nil => rw [blocksAfter]
  | cons blank rest ih =>
    obtain ⟨hblank, hrest⟩ := List.forall_mem_cons.mp hblanks
    rw [blocksAfter, if_pos hblank, ih hrest]

/-- Blank lines at either end make no difference to the blocks. -/
theorem blocks_eq_blocksAfter_trimBlank (lines : List Chars) :
    blocks lines = blocksAfter 0 (trimBlank lines) := by
  have hblanks : ∀ line ∈ (lines.dropWhile Text.isBlank).rtakeWhile Text.isBlank,
      Text.isBlank line = true := fun _ hline => List.mem_rtakeWhile_imp hline
  have hcut : IsCut (trimBlank lines) ((lines.dropWhile Text.isBlank).rtakeWhile Text.isBlank) :=
    .inr fun line hline => hblanks line (List.mem_of_mem_head? hline)
  obtain ⟨next, hblocks⟩ := exists_blocksAfter_append hcut 0
  rw [blocksAfter_of_blank hblanks, List.append_nil, trimBlank,
    List.rdropWhile_append_rtakeWhile] at hblocks
  exact hblocks

/-! ## Blocks of lines -/

/-- A block ends at the first blank line. -/
theorem blocksAfter_block (hne : lines ≠ []) (hfull : ∀ line ∈ lines, Text.isBlank line = false)
    (hafter : ∀ line ∈ after.head?, Text.isBlank line = true) (gap : Nat) :
    blocksAfter gap (lines ++ after) = ⟨gap, lines⟩ :: blocksAfter 0 after := by
  obtain ⟨line, rest, rfl⟩ := List.exists_cons_of_ne_nil hne
  obtain ⟨hline, hrest⟩ := List.forall_mem_cons.mp hfull
  have hfullRest : ∀ l ∈ rest, (!Text.isBlank l) = true := fun l hl => by rw [hrest l hl]; rfl
  have hend : ∀ next, after.head? = some next → (!Text.isBlank next) = false :=
    fun next hnext => by rw [hafter next hnext]; rfl
  rw [List.cons_append, blocksAfter, if_neg (by rw [hline]; exact Bool.false_ne_true),
    Text.takeWhile_append_of_head? hfullRest hend, Text.dropWhile_append_of_head? hfullRest hend]

/-- Behind a blank line every block has a gap. -/
theorem gap_pos_of_mem_blocksAfter
    (h : 1 ≤ gap ∨ ∀ line ∈ lines.head?, Text.isBlank line = true) :
    ∀ block ∈ blocksAfter gap lines, 1 ≤ block.gap := by
  induction gap, lines using blocksAfter.induct with
  | case1 gap =>
    rw [blocksAfter]
    exact fun _ hblock => absurd hblock List.not_mem_nil
  | case2 gap line rest hblank ih =>
    rw [blocksAfter, if_pos hblank]
    exact ih (.inl (Nat.le_add_left 1 gap))
  | case3 gap line rest hblank ih =>
    -- the first block has the gap counted so far, and a blank line has ended it
    rw [blocksAfter, if_neg hblank, List.forall_mem_cons]
    exact ⟨h.resolve_right fun hhead => hblank (hhead line rfl),
      ih (.inr (isBlank_head?_dropWhile rest))⟩

/-- It does not matter what a blank line is made of. -/
theorem blocksAfter_emptied (gap : Nat) (lines : List Chars) :
    blocksAfter gap (lines.map emptied) = blocksAfter gap lines := by
  induction gap, lines using blocksAfter.induct with
  | case1 gap => rfl
  | case2 gap line rest hblank ih =>
    have hemptied : Text.isBlank (emptied line) = true := by rw [isBlank_emptied, hblank]
    rw [List.map_cons, blocksAfter, if_pos hemptied, ih, blocksAfter, if_pos hblank]
  | case3 gap line rest hblank ih =>
    obtain ⟨hlines, hfull, hblocks⟩ := blocksAfter_first (Bool.eq_false_iff.mpr hblank) rest gap
    have hend := head?_map_emptied (isBlank_head?_dropWhile rest)
    rw [hblocks, hlines, List.map_append, map_emptied_of_full hfull,
      blocksAfter_block (List.cons_ne_nil _ _) hfull hend, ih]

/-! ## Writing the blocks of lines -/

theorem written_blocksAfter (hlast : ∀ line ∈ lines.getLast?, Text.isBlank line = false)
    (hgap : lines = [] → gap = 0) :
    (blocksAfter gap lines).flatMap Block.written =
      List.replicate gap [] ++ lines.map emptied := by
  induction gap, lines using blocksAfter.induct with
  | case1 gap =>
    rw [hgap rfl, blocksAfter]
    rfl
  | case2 gap line rest hblank ih =>
    -- there is a block behind a blank line, as the last line is not blank
    have hrest : rest ≠ [] := by
      rintro rfl
      have hfull := hlast line rfl
      rw [hblank] at hfull
      cases hfull
    have hnext := ih (forall_getLast?_of_append [line] hlast) fun hnil => absurd hnil hrest
    rw [blocksAfter, if_pos hblank, hnext, List.map_cons, emptied, if_pos hblank,
      List.replicate_succ', List.append_assoc]
    rfl
  | case3 gap line rest hblank ih =>
    obtain ⟨hlines, hfull, hblocks⟩ := blocksAfter_first (Bool.eq_false_iff.mpr hblank) rest gap
    rw [hlines] at hlast
    have hnext := ih (forall_getLast?_of_append _ hlast) fun _ => rfl
    rw [List.replicate_zero, List.nil_append] at hnext
    rw [hblocks, List.flatMap_cons, hnext, Block.written, List.append_assoc]
    conv_rhs => rw [hlines, List.map_append, map_emptied_of_full hfull]

theorem written_blocks (lines : List Chars) :
    (blocks lines).flatMap Block.written = (trimBlank lines).map emptied := by
  have hlast : ∀ line ∈ (trimBlank lines).getLast?, Text.isBlank line = false := by
    intro line hline
    have hne : trimBlank lines ≠ [] := List.ne_nil_of_mem (List.mem_of_getLast? hline)
    obtain ⟨last, hmem, hfull⟩ := trimBlank_last hne
    rwa [← Option.mem_unique hmem hline]
  rw [blocks_eq_blocksAfter_trimBlank, written_blocksAfter hlast fun _ => rfl]
  rfl

/-- The first line left by trimming starts a block, and all other blocks come behind blank lines. -/
theorem gaps_blocks (lines : List Chars) :
    (∀ block ∈ (blocks lines).head?, block.gap = 0) ∧
      ∀ block ∈ (blocks lines).tail, 1 ≤ block.gap := by
  rw [blocks_eq_blocksAfter_trimBlank]
  cases htrim : trimBlank lines with
  | nil =>
    rw [blocksAfter]
    exact ⟨fun _ hblock => absurd hblock (by simp), fun _ hblock => absurd hblock (by simp)⟩
  | cons line rest =>
    obtain ⟨first, hmem, hfirst⟩ := trimBlank_head (by rw [htrim]; exact List.cons_ne_nil _ _)
    obtain rfl : line = first := by
      rw [htrim] at hmem
      exact Option.some.inj hmem
    obtain ⟨-, -, hblocks⟩ := blocksAfter_first hfirst rest 0
    rw [hblocks]
    refine ⟨fun block hblock => ?_,
      gap_pos_of_mem_blocksAfter (.inr (isBlank_head?_dropWhile rest))⟩
    obtain rfl := Option.some.inj hblock
    rfl

theorem not_blank_of_mem_blocks {block : Block} (hblock : block ∈ blocks lines) :
    ∀ line ∈ block.lines, Text.isBlank line = false := by
  intro line hline
  have hmem : line ∈ (blocks lines).flatMap Block.lines :=
    List.mem_flatMap.mpr ⟨block, hblock, hline⟩
  rw [blocks, flatten_blocksAfter, List.mem_filter, Bool.not_eq_true'] at hmem
  exact hmem.2

/-! ## Reading what is written -/

/-- Blocks that are apart are read as they are written, the first with the gap counted so far. -/
theorem blocksAfter_written {first : Block} {rest : List Block}
    (hne : ∀ block ∈ first :: rest, block.lines ≠ [])
    (hfull : ∀ block ∈ first :: rest, ∀ line ∈ block.lines, Text.isBlank line = false)
    (hapart : ∀ block ∈ rest, 1 ≤ block.gap) (gap : Nat) :
    blocksAfter gap ((first :: rest).flatMap Block.written) =
      ⟨gap + first.gap, first.lines⟩ :: rest := by
  induction rest generalizing first gap with
  | nil =>
    rw [List.flatMap_cons, List.flatMap_nil, Block.written, List.append_assoc,
      blocksAfter_replicate, blocksAfter_block (hne first List.mem_cons_self)
        (hfull first List.mem_cons_self) (by simp), blocksAfter]
  | cons next rest ih =>
    obtain ⟨hfirst, hrest⟩ := List.forall_mem_cons.mp hne
    obtain ⟨hfirstFull, hrestFull⟩ := List.forall_mem_cons.mp hfull
    obtain ⟨hnext, hlater⟩ := List.forall_mem_cons.mp hapart
    have hread := ih hrest hrestFull hlater 0
    rw [Nat.zero_add] at hread
    -- the empty lines in front of the next block end the first one
    have hend : ∀ line ∈ ((next :: rest).flatMap Block.written).head?,
        Text.isBlank line = true := by
      obtain ⟨n, hn⟩ := Nat.exists_eq_add_of_le hnext
      rw [List.flatMap_cons, Block.written, hn, Nat.add_comm, List.replicate_succ]
      rintro _ ⟨⟩
      rfl
    rw [List.flatMap_cons, Block.written, List.append_assoc, blocksAfter_replicate,
      blocksAfter_block hfirst hfirstFull hend, hread]

theorem AreBlocksOf.eq_blocks (h : AreBlocksOf lines list) : blocks lines = list := by
  rw [blocks_eq_blocksAfter_trimBlank, ← blocksAfter_emptied, ← h.written]
  cases list with
  | nil =>
    rw [List.flatMap_nil, blocksAfter]
  | cons first rest =>
    rw [blocksAfter_written h.nonempty h.full h.apart, Nat.zero_add]

/-- Lines fall into one list of blocks: the one that is read. -/
theorem blocks_eq_iff (lines : List Chars) (list : List Block) :
    blocks lines = list ↔ AreBlocksOf lines list := by
  constructor
  · rintro rfl
    obtain ⟨hfirst, hapart⟩ := gaps_blocks lines
    exact {
      nonempty := fun _ hblock => lines_ne_nil_of_mem_blocksAfter hblock
      full := fun _ hblock => not_blank_of_mem_blocks hblock
      first := hfirst
      apart := hapart
      written := written_blocks lines }
  · exact AreBlocksOf.eq_blocks

end ScriptReport.Script

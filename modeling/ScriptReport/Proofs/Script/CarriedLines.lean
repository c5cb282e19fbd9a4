/-
  ScriptReport.Proofs.Script.CarriedLines

  Reading the text under a header keeps its lines. What becomes of the lines of one block is told by
  its kind (`keptLines`); reading a block puts just these lines behind those of the items read
  before, whether the block starts an item or is joined to one (`linesOf_add`). So the lines that
  the items carry are those of the blocks, in order. Main statement: `lines_readItems`.
-/

import ScriptReport.Proofs.Script.Reading
import ScriptReport.Proofs.Text.Occurrence
import ScriptReport.Proofs.Text.Splitting
import Mathlib.Data.List.TakeWhile

namespace ScriptReport.Script

/-! ## Lines of items -/

/-- The lines of a text that are not empty. -/
def fullLines (text : Chars) : List Chars := (Text.splitOn "\n" text).filter (· ≠ [])

/-- The lines that an item carries: of texts the ones that are not empty, of list items and raw
    markup all. -/
def Item.lines : Item → List Chars
  | .text t | .codeLiteral t | .preformatted t => fullLines t
  | .bulletedList items | .numberedList items => items.flatMap (Text.splitOn "\n")
  | .html raw | .latex raw => Text.splitOn "\n" raw
  | .included _ _ | .graphic _ => []

/-! ## Lines of blocks -/

/-- The lines of a piece of running text. -/
def Piece.lines : Piece → List Chars
  | .text lines => lines
  | .region _ lines _ => lines

/-- The lines between blank lines; where there are none, there is no block. -/
def subBlocks (lines : List Chars) : List (List Chars) :=
  (lines.splitOnP Text.isBlank).filter (· ≠ [])

/-- The line without the marker, if it starts with it. -/
def dropMarker (marker line : Chars) : Chars :=
  if marker <+: line then line.drop marker.length else line

/-- The lines of running text without the tag lines of regions: a line that opens one outside of
    all regions, and the first line after it that closes it. -/
def untagged : Option Region → List Chars → List Chars
  | _, [] => []
  | some region, line :: rest =>
    if closes region line then untagged none rest else line :: untagged (some region) rest
  | none, line :: rest =>
    match opens? line with
    | some region => untagged (some region) rest
    | none => line :: untagged none rest

/-- The block is an included file or a graphic. -/
def IsFileBlock (lines : List Chars) : Prop :=
  (delimited includeTags lines.flatten).1.isSome = true ∨
    (delimited graphicTags lines.flatten).1.isSome = true

instance (lines : List Chars) : Decidable (IsFileBlock lines) :=
  inferInstanceAs (Decidable (_ ∨ _))

/-- What is kept of the lines of a block. -/
def keptLines (lines : List Chars) : List Chars :=
  if ∀ line ∈ lines, ("  " : Chars) <+: line then lines.map (·.drop 2)
  else if ∀ line ∈ lines, (" " : Chars) <+: line then lines.map (·.drop 1)
  else if ("* " : Chars) <+: lines.headD [] then lines.map (dropMarker "* ")
  else if ("# " : Chars) <+: lines.headD [] then lines.map (dropMarker "# ")
  else if IsFileBlock lines then []
  else untagged none lines

variable {lines : List Chars} {items : List Item} {block : Block}

/-- Lines as blocks have them: not blank, and without line feeds. -/
def AreBlockLines (lines : List Chars) : Prop :=
  ∀ line ∈ lines, Text.isBlank line = false ∧ '\n' ∉ line

theorem AreBlockLines.ne_nil (h : AreBlockLines lines) {line : Chars} (hline : line ∈ lines) :
    line ≠ [] := by
  rintro rfl
  exact Bool.noConfusion (h [] hline).1

theorem AreBlockLines.subset {part : List Chars} (h : AreBlockLines lines) (hpart : part ⊆ lines) :
    AreBlockLines part := fun line hline => h line (hpart hline)

/-! ## The blocks are the lines between blank lines -/

theorem subBlocks_append_blank {blank : Chars} (h : Text.isBlank blank = true)
    (before after : List Chars) :
    subBlocks (before ++ blank :: after) = subBlocks before ++ subBlocks after := by
  unfold subBlocks
  rw [List.splitOnP_append_cons before after h, List.filter_append]

theorem subBlocks_cons_blank {blank : Chars} (h : Text.isBlank blank = true) (lines : List Chars) :
    subBlocks (blank :: lines) = subBlocks lines :=
  subBlocks_append_blank h [] lines

theorem subBlocks_of_full (hne : lines ≠ []) (h : ∀ line ∈ lines, Text.isBlank line = false) :
    subBlocks lines = [lines] := by
  rw [subBlocks, List.splitOnP_eq_singleton h]
  simp [hne]

theorem not_blank_of_mem_takeWhile {line : Chars} (h : line ∈ lines.takeWhile (!Text.isBlank ·)) :
    Text.isBlank line = false := by
  have hfull := List.mem_takeWhile_imp h
  rwa [Bool.not_eq_true'] at hfull

/-- What comes behind a block is nothing, or starts with a blank line. -/
theorem isBlank_head?_dropWhile (lines : List Chars) :
    ∀ line ∈ (lines.dropWhile (!Text.isBlank ·)).head?, Text.isBlank line = true := by
  intro line hline
  have hend := Text.head?_dropWhile (p := (!Text.isBlank ·)) hline
  rwa [Bool.not_eq_false'] at hend

theorem lines_blocksAfter (gap : Nat) (lines : List Chars) :
    (blocksAfter gap lines).map Block.lines = subBlocks lines := by
  induction gap, lines using blocksAfter.induct with
  | case1 gap => simp [blocksAfter, subBlocks]
  | case2 gap line rest hblank ih => rw [blocksAfter, if_pos hblank, ih, subBlocks_cons_blank hblank]
  | case3 gap line rest hblank ih =>
    rw [blocksAfter, if_neg hblank, List.map_cons, ih]
    have hfull : ∀ l ∈ line :: rest.takeWhile (!Text.isBlank ·), Text.isBlank l = false :=
      List.forall_mem_cons.mpr ⟨Bool.eq_false_iff.mpr hblank, fun _ => not_blank_of_mem_takeWhile⟩
    have hfirst := subBlocks_of_full (List.cons_ne_nil _ _) hfull
    have hlines : line :: rest = (line :: rest.takeWhile (!Text.isBlank ·)) ++
        rest.dropWhile (!Text.isBlank ·) := by
      rw [List.cons_append, List.takeWhile_append_dropWhile]
    rw [hlines]
    cases hafter : rest.dropWhile (!Text.isBlank ·) with
    | nil => rw [List.append_nil, hfirst]; rfl
    | cons blank after =>
      have hblank : Text.isBlank blank = true :=
        isBlank_head?_dropWhile rest blank (by rw [hafter]; rfl)
      rw [subBlocks_append_blank hblank, subBlocks_cons_blank hblank, hfirst]
      rfl

theorem subBlocks_dropWhile (lines : List Chars) :
    subBlocks (lines.dropWhile Text.isBlank) = subBlocks lines := by
  induction lines with
  | nil => rfl
  | cons line rest ih =>
    by_cases hblank : Text.isBlank line = true
    · rw [List.dropWhile_cons_of_pos hblank, ih, subBlocks_cons_blank hblank]
    · rw [List.dropWhile_cons_of_neg hblank]

theorem lines_blocks (lines : List Chars) : (blocks lines).map Block.lines = subBlocks lines := by
  rw [blocks, lines_blocksAfter, subBlocks_dropWhile]

/-- The blocks hold all lines that are not blank, in order. -/
theorem flatten_blocksAfter (gap : Nat) (lines : List Chars) :
    (blocksAfter gap lines).flatMap Block.lines = lines.filter (!Text.isBlank ·) := by
  induction gap, lines using blocksAfter.induct with
  | case1 gap => simp [blocksAfter]
  | case2 gap line rest hblank ih =>
    rw [blocksAfter, if_pos hblank, ih, List.filter_cons_of_neg (by simp [hblank])]
  | case3 gap line rest hblank ih =>
    have hfull : (rest.takeWhile (!Text.isBlank ·)).filter (!Text.isBlank ·) =
        rest.takeWhile (!Text.isBlank ·) :=
      List.filter_eq_self.mpr fun _ hl => List.mem_takeWhile_imp (p := (!Text.isBlank ·)) hl
    calc (blocksAfter gap (line :: rest)).flatMap Block.lines
        = line :: rest.takeWhile (!Text.isBlank ·) ++
            (rest.dropWhile (!Text.isBlank ·)).filter (!Text.isBlank ·) := by
          rw [blocksAfter, if_neg hblank, List.flatMap_cons, ih]
      _ = line :: (rest.takeWhile (!Text.isBlank ·) ++ rest.dropWhile (!Text.isBlank ·)).filter
            (!Text.isBlank ·) := by
          rw [List.filter_append, hfull, List.cons_append]
      _ = (line :: rest).filter (!Text.isBlank ·) := by
          rw [List.takeWhile_append_dropWhile, List.filter_cons_of_pos (by simp [hblank])]

theorem areBlockLines_of_mem_blocks (h : ∀ line ∈ lines, '\n' ∉ line) (hblock : block ∈ blocks lines) :
    AreBlockLines block.lines := by
  intro line hline
  have hmem : line ∈ (blocks lines).flatMap Block.lines := List.mem_flatMap.mpr ⟨block, hblock, hline⟩
  rw [blocks, flatten_blocksAfter, List.mem_filter, Bool.not_eq_true'] at hmem
  exact ⟨hmem.2, h line ((List.dropWhile_suffix _).subset hmem.1)⟩

/-! ## Lines of a text -/

/-- Everything about full lines follows from this: a line feed is between lines. -/
theorem fullLines_append (a b : Chars) : fullLines (a ++ '\n' :: b) = fullLines a ++ fullLines b := by
  unfold fullLines
  rw [← List.filter_append]
  exact congrArg _ (Text.splitOn_append '\n' a b)

/-- However many line feeds there are between two texts, there is no full line between them. -/
theorem fullLines_append_feeds (n : Nat) (a b : Chars) :
    fullLines (a ++ List.replicate (n + 1) '\n' ++ b) = fullLines a ++ fullLines b := by
  induction n generalizing a with
  | zero => rw [List.append_assoc]; exact fullLines_append a b
  | succ n ih =>
    calc fullLines (a ++ List.replicate (n + 1 + 1) '\n' ++ b)
        = fullLines (a ++ '\n' :: ([] ++ List.replicate (n + 1) '\n' ++ b)) := by
          rw [List.append_assoc]
          rfl
      _ = fullLines a ++ fullLines b := by
          rw [fullLines_append, ih]
          rfl

theorem fullLines_unlines (h : AreBlockLines lines) : fullLines (Text.unlines lines) = lines := by
  cases lines with
  | nil => rfl
  | cons line rest =>
    rw [fullLines, Text.splitOn_unlines (List.cons_ne_nil _ _) fun l hl => (h l hl).2]
    exact List.filter_eq_self.mpr fun l hl => decide_eq_true (h.ne_nil hl)

/-! ## List blocks -/

theorem dropMarker_append (marker line : Chars) : dropMarker marker (marker ++ line) = line := by
  rw [dropMarker, if_pos (List.prefix_append _ _), List.drop_left]

/-- A line that does not start with the marker goes on with the item before it. -/
theorem exists_splitOn_of_not_prefix {marker first line : Chars} (hmarker : '\n' ∉ marker)
    (hfirst : '\n' ∉ first) (hstarts : ¬ marker <+: line) (rest : List Chars) :
    ∃ item items, Text.splitOn ('\n' :: marker) (Text.unlines (line :: rest)) = item :: items ∧
      Text.splitOn ('\n' :: marker) (first ++ '\n' :: Text.unlines (line :: rest)) =
        (first ++ '\n' :: item) :: items := by
  have hnot : ¬ ('\n' :: marker).isPrefixOf ('\n' :: Text.unlines (line :: rest)) = true := by
    rw [List.isPrefixOf_iff_prefix, List.cons_prefix_cons]
    exact fun h => hstarts (Text.prefix_of_prefix_unlines hmarker h.2)
  obtain ⟨item, items, hitems⟩ := List.exists_cons_of_ne_nil
    (Text.splitOn_ne_nil ('\n' :: marker) (Text.unlines (line :: rest)))
  have hcut : Text.splitOn ('\n' :: marker) ('\n' :: Text.unlines (line :: rest)) =
      ('\n' :: item) :: items := by
    rw [Text.splitOn] at hitems ⊢
    rw [Text.splitOnGo, if_neg hnot, hitems]
    rfl
  obtain ⟨piece, pieces, hsplit, hall⟩ := Text.splitOn_append_left hfirst marker
    ('\n' :: Text.unlines (line :: rest))
  obtain ⟨rfl, rfl⟩ := List.cons.inj (hcut.symm.trans hsplit)
  exact ⟨item, items, hitems, hall⟩

/-- The items of a list block have the lines of the block, without the markers. -/
theorem flatMap_splitOn_items {marker first : Chars} {rest : List Chars} (hmarker : '\n' ∉ marker)
    (hfirst : '\n' ∉ first) (hrest : ∀ line ∈ rest, '\n' ∉ line) :
    (Text.splitOn ('\n' :: marker) (Text.unlines (first :: rest))).flatMap (Text.splitOn "\n") =
      first :: rest.map (dropMarker marker) := by
  induction rest generalizing first with
  | nil =>
    obtain ⟨piece, pieces, hnone, hall⟩ := Text.splitOn_append_left hfirst marker []
    obtain ⟨rfl, rfl⟩ := List.cons.inj (show [[]] = piece :: pieces from hnone)
    rw [List.append_nil] at hall
    rw [show Text.unlines [first] = first from rfl, hall, List.flatMap_singleton]
    exact Text.splitOn_of_not_mem hfirst
  | cons line rest ih =>
    obtain ⟨hnext, hlater⟩ := List.forall_mem_cons.mp hrest
    have hline : Text.splitOn ['\n'] first = [first] := Text.splitOn_of_not_mem hfirst
    rw [Text.unlines_cons_cons]
    by_cases hstarts : marker <+: line
    · -- the line starts a new item
      obtain ⟨item, rfl⟩ := hstarts
      have hitem : '\n' ∉ item := fun h => hnext (List.mem_append_right _ h)
      have hsplit := Text.splitOn_append_separator hfirst marker (Text.unlines (item :: rest))
      rw [Text.unlines_append_cons, ← List.cons_append, hsplit, List.flatMap_cons, ih hitem hlater,
        List.map_cons, dropMarker_append]
      exact congrArg (· ++ _) hline
    · -- the line goes on with the item before it
      obtain ⟨item, items, hitems, hall⟩ :=
        exists_splitOn_of_not_prefix hmarker hfirst hstarts rest
      have hjoined : Text.splitOn "\n" (first ++ '\n' :: item) = first :: Text.splitOn "\n" item :=
        (Text.splitOn_append '\n' first item).trans (congrArg (· ++ _) hline)
      have hrest := ih hnext hlater
      rw [hitems, List.flatMap_cons] at hrest
      rw [hall, List.flatMap_cons, hjoined, List.cons_append, hrest, List.map_cons, dropMarker,
        if_neg hstarts]

theorem lines_listItems? {marker : Chars} {texts : List Chars} (hmarker : '\n' ∉ marker)
    (h : AreBlockLines lines) (hitems : listItems? marker lines = some texts) :
    marker <+: lines.headD [] ∧
      texts.flatMap (Text.splitOn "\n") = lines.map (dropMarker marker) := by
  cases lines with
  | nil => cases hitems
  | cons first rest =>
    rw [listItems?] at hitems
    split_ifs at hitems with hstarts
    obtain ⟨item, rfl⟩ := List.isPrefixOf_iff_prefix.mp hstarts
    have hrest := List.forall_mem_cons.mp h
    have hitem : '\n' ∉ item := fun hin => hrest.1.2 (List.mem_append_right _ hin)
    refine ⟨List.prefix_append _ _, ?_⟩
    rw [← Option.some.inj hitems, Text.unlines_append_cons, List.drop_left, List.map_cons,
      dropMarker_append]
    exact flatMap_splitOn_items hmarker hitem fun line hline => (hrest.2 line hline).2

theorem not_prefix_of_listItems? {marker : Chars} (hmarker : marker ≠ [])
    (hnone : listItems? marker lines = none) : ¬ marker <+: lines.headD [] := by
  cases lines with
  | nil => exact fun h => hmarker (List.prefix_nil.mp h)
  | cons first rest =>
    rw [listItems?] at hnone
    split_ifs at hnone with hstarts
    rwa [List.isPrefixOf_iff_prefix] at hstarts

/-! ## Blocks of one item -/

/-- Blocks of code stay lines of a block behind the blanks that they start with. -/
theorem AreBlockLines.map_drop {front : Chars} (h : AreBlockLines lines)
    (hblank : Text.isBlank front = true) (hfront : ∀ line ∈ lines, front <+: line) :
    AreBlockLines (lines.map (·.drop front.length)) := by
  intro line hline
  obtain ⟨whole, hwhole, rfl⟩ := List.mem_map.mp hline
  obtain ⟨rest, rfl⟩ := hfront whole hwhole
  have hrest := h _ hwhole
  rw [List.drop_left]
  refine ⟨?_, fun hin => hrest.2 (List.mem_append_right _ hin)⟩
  rw [Text.isBlank] at hblank
  rw [Text.isBlank, List.all_append, hblank, Bool.true_and] at hrest
  exact hrest.1

theorem lines_taggedItem (h : IsFileBlock lines) :
    (taggedItem lines).1.map Item.lines = some [] := by
  unfold IsFileBlock at h
  unfold taggedItem
  split
  · rfl
  · next warnings hinclude =>
    rw [hinclude] at h
    split
    · rfl
    · next more hgraphic =>
      rw [hgraphic] at h
      exact absurd h (by simp)

theorem taggedItem_eq_none (h : ¬ IsFileBlock lines) : (taggedItem lines).1 = none := by
  unfold IsFileBlock at h
  unfold taggedItem
  split
  · next path warnings hinclude =>
    rw [hinclude] at h
    exact absurd (.inl rfl) h
  · split
    · next path more hgraphic =>
      rw [hgraphic] at h
      exact absurd (.inr rfl) h
    · rfl

/-- What is kept of the lines of a block is in its item, or in running text if it is no item. -/
theorem keptLines_eq (h : AreBlockLines lines) :
    keptLines lines = ((blockItem lines).1.map Item.lines).getD (untagged none lines) := by
  have hall (front : Chars) :
      lines.all (front.isPrefixOf ·) = true ↔ ∀ line ∈ lines, front <+: line := by
    simp only [List.all_eq_true, List.isPrefixOf_iff_prefix]
  unfold keptLines blockItem
  by_cases hcode : ∀ line ∈ lines, ("  " : Chars) <+: line
  · rw [if_pos hcode, if_pos ((hall _).mpr hcode)]
    exact (fullLines_unlines (h.map_drop rfl hcode)).symm
  by_cases hpreformatted : ∀ line ∈ lines, (" " : Chars) <+: line
  · rw [if_neg hcode, if_neg (mt (hall _).mp hcode), if_pos hpreformatted,
      if_pos ((hall _).mpr hpreformatted)]
    exact (fullLines_unlines (h.map_drop rfl hpreformatted)).symm
  rw [if_neg hcode, if_neg (mt (hall _).mp hcode), if_neg hpreformatted,
    if_neg (mt (hall _).mp hpreformatted)]
  cases hbulleted : listItems? "* " lines with
  | some texts =>
    obtain ⟨hstarts, hlines⟩ := lines_listItems? (by decide) h hbulleted
    rw [if_pos hstarts]
    exact hlines.symm
  | none =>
    rw [if_neg (not_prefix_of_listItems? (by decide) hbulleted)]
    cases hnumbered : listItems? "# " lines with
    | some texts =>
      obtain ⟨hstarts, hlines⟩ := lines_listItems? (by decide) h hnumbered
      rw [if_pos hstarts]
      exact hlines.symm
    | none =>
      rw [if_neg (not_prefix_of_listItems? (by decide) hnumbered)]
      show _ = ((taggedItem lines).1.map Item.lines).getD _
      by_cases hfile : IsFileBlock lines
      · rw [if_pos hfile, lines_taggedItem hfile]
        rfl
      · rw [if_neg hfile, taggedItem_eq_none hfile]
        rfl

/-! ## Running text with regions -/

theorem untagged_region (region : Region) (lines : List Chars) :
    untagged (some region) lines = lines.takeWhile (!closes region ·) ++
      untagged none ((lines.dropWhile (!closes region ·)).drop 1) := by
  induction lines with
  | nil => rfl
  | cons line rest ih =>
    rw [untagged]
    cases hcloses : closes region line with
    | true =>
      rw [List.takeWhile_cons_of_neg (by simp [hcloses]),
        List.dropWhile_cons_of_neg (by simp [hcloses])]
      rfl
    | false =>
      rw [List.takeWhile_cons_of_pos (by simp [hcloses]),
        List.dropWhile_cons_of_pos (by simp [hcloses]), List.cons_append, ← ih]
      rfl

theorem untagged_text (lines : List Chars) :
    untagged none lines = lines.takeWhile (fun l => (opens? l).isNone) ++
      untagged none (lines.dropWhile fun l => (opens? l).isNone) := by
  induction lines with
  | nil => rfl
  | cons line rest ih =>
    cases hopens : opens? line with
    | none =>
      have hline : untagged none (line :: rest) = line :: untagged none rest := by
        rw [untagged, hopens]
      rw [hline, ih, List.takeWhile_cons_of_pos (by simp [hopens]),
        List.dropWhile_cons_of_pos (by simp [hopens]), List.cons_append, ← ih]
    | some region =>
      rw [List.takeWhile_cons_of_neg (by simp [hopens]),
        List.dropWhile_cons_of_neg (by simp [hopens])]
      rfl

/-- What holds of the pieces of a block, by the piece that it starts with. -/
theorem pieces_induction {motive : List Chars → List Piece → Prop} (nil : motive [] [])
    (unclosed : ∀ line rest region, opens? line = some region →
      rest.dropWhile (!closes region ·) = [] →
      motive (line :: rest) [.region region (rest.takeWhile (!closes region ·)) false])
    (closed : ∀ line rest region close after, opens? line = some region →
      rest.dropWhile (!closes region ·) = close :: after → motive after (pieces after) →
      motive (line :: rest)
        (.region region (rest.takeWhile (!closes region ·)) true :: pieces after))
    (text : ∀ line rest, opens? line = none →
      motive (rest.dropWhile fun l => (opens? l).isNone)
        (pieces (rest.dropWhile fun l => (opens? l).isNone)) →
      motive (line :: rest) (.text (line :: rest.takeWhile fun l => (opens? l).isNone) ::
        pieces (rest.dropWhile fun l => (opens? l).isNone)))
    (lines : List Chars) : motive lines (pieces lines) := by
  induction lines using pieces.induct with
  | case1 =>
    rw [pieces]
    exact nil
  | case2 line rest region hopens hunclosed =>
    have heq : pieces (line :: rest) =
        [.region region (rest.takeWhile (!closes region ·)) false] := by
      unfold pieces
      simp only [hopens]
      split
      · rfl
      · next hclosed => simp [hunclosed] at hclosed
    rw [heq]
    exact unclosed line rest region hopens hunclosed
  | case3 line rest region hopens close after hclosed ih =>
    have heq : pieces (line :: rest) =
        .region region (rest.takeWhile (!closes region ·)) true :: pieces after := by
      rw [pieces]
      simp only [hopens]
      split
      · next hunclosed => simp [hclosed] at hunclosed
      · next close' after' hclosed' =>
        obtain ⟨-, rfl⟩ := List.cons.inj (hclosed.symm.trans hclosed')
        rfl
    rw [heq]
    exact closed line rest region close after hopens hclosed ih
  | case4 line rest hopens ih =>
    rw [pieces, hopens]
    exact text line rest hopens ih

/-- The pieces of a block have its lines but the tag lines, whether regions are closed or not. -/
theorem lines_pieces (lines : List Chars) :
    (pieces lines).flatMap Piece.lines = untagged none lines := by
  refine pieces_induction (motive := fun lines ps => ps.flatMap Piece.lines = untagged none lines)
    rfl ?_ ?_ ?_ lines
  · intro line rest region hopens hunclosed
    have hline : untagged none (line :: rest) = untagged (some region) rest := by
      rw [untagged, hopens]
    rw [hline, untagged_region, hunclosed, List.flatMap_singleton]
    simp [Piece.lines, untagged]
  · intro line rest region close after hopens hclosed ih
    have hline : untagged none (line :: rest) = untagged (some region) rest := by
      rw [untagged, hopens]
    rw [hline, untagged_region, hclosed, List.drop_one, List.tail_cons, List.flatMap_cons, ih]
    rfl
  · intro line rest hopens ih
    have hline : untagged none (line :: rest) = line :: untagged none rest := by
      rw [untagged, hopens]
    rw [hline, untagged_text, ← ih]
    rfl

theorem untagged_subset (region : Option Region) (lines : List Chars) :
    untagged region lines ⊆ lines := by
  induction lines generalizing region with
  | nil => cases region <;> exact List.Subset.refl _
  | cons line rest ih =>
    cases region with
    | some region =>
      rw [untagged]
      split_ifs
      · exact List.subset_cons_of_subset _ (ih none)
      · exact List.cons_subset_cons _ (ih _)
    | none =>
      rw [untagged]
      split
      · exact List.subset_cons_of_subset _ (ih _)
      · exact List.cons_subset_cons _ (ih none)

theorem areBlockLines_of_mem_pieces {piece : Piece} (h : AreBlockLines lines)
    (hpiece : piece ∈ pieces lines) : AreBlockLines piece.lines := by
  refine h.subset fun line hline => untagged_subset none lines ?_
  rw [← lines_pieces]
  exact List.mem_flatMap.mpr ⟨piece, hpiece, hline⟩

/-! ## Collecting -/

/-- The lines that items carry, the latest item coming first. -/
def linesOf (items : List Item) : List Chars := items.reverse.flatMap Item.lines

theorem linesOf_cons (item : Item) (items : List Item) :
    linesOf (item :: items) = linesOf items ++ item.lines := by
  rw [linesOf, List.reverse_cons, List.flatMap_append, List.flatMap_singleton]
  rfl

theorem linesOf_addText (h : AreBlockLines lines) (n : Nat) (items : List Item) :
    linesOf (addText (List.replicate (n + 1) '\n') lines items) = linesOf items ++ lines := by
  have hnew := fullLines_unlines h
  unfold addText
  split
  · next before rest =>
    rw [linesOf_cons, linesOf_cons, Item.lines, Item.lines, fullLines_append_feeds, hnew,
      List.append_assoc]
  · rw [linesOf_cons, Item.lines, hnew]

theorem linesOf_addPiece {piece : Piece} (h : AreBlockLines piece.lines) (first : Bool)
    (items : List Item) : linesOf (addPiece first items piece) = linesOf items ++ piece.lines := by
  cases piece with
  | text lines =>
    cases first with
    | true => exact linesOf_addText h 1 items
    | false => exact linesOf_addText h 0 items
  | region kind lines closed =>
    cases lines with
    | nil => exact (List.append_nil _).symm
    | cons line rest =>
      have hraw : Text.splitOn "\n" (Text.unlines (line :: rest)) = line :: rest :=
        Text.splitOn_unlines (List.cons_ne_nil _ _) fun l hl => (h l hl).2
      have hadd : addPiece first items (.region kind (line :: rest) closed) =
          kind.item (Text.unlines (line :: rest)) :: items := rfl
      rw [hadd, linesOf_cons]
      cases kind with
      | html => exact congrArg _ hraw
      | latex => exact congrArg _ hraw

theorem linesOf_addPieces {ps : List Piece} (h : ∀ piece ∈ ps, AreBlockLines piece.lines)
    (items : List Item) : linesOf (addPieces items ps) = linesOf items ++ ps.flatMap Piece.lines := by
  have hrest (ps : List Piece) (h : ∀ piece ∈ ps, AreBlockLines piece.lines) (items : List Item) :
      linesOf (ps.foldl (addPiece false) items) = linesOf items ++ ps.flatMap Piece.lines := by
    induction ps generalizing items with
    | nil => exact (List.append_nil _).symm
    | cons piece ps ih =>
      obtain ⟨hpiece, hps⟩ := List.forall_mem_cons.mp h
      rw [List.foldl_cons, ih hps, linesOf_addPiece hpiece, List.flatMap_cons, List.append_assoc]
  cases ps with
  | nil => exact (List.append_nil _).symm
  | cons piece ps =>
    obtain ⟨hpiece, hps⟩ := List.forall_mem_cons.mp h
    rw [addPieces, hrest ps hps, linesOf_addPiece hpiece, List.flatMap_cons, List.append_assoc]

/-- An item keeps its lines where it is joined to one of its kind. -/
theorem linesOf_addItem (gap : Nat) (running : Option Running) (items : List Item) (item : Item) :
    linesOf (addItem gap running items item).1 = linesOf items ++ item.lines := by
  unfold addItem
  split
  · rw [linesOf_cons, linesOf_cons, Item.lines, Item.lines, Item.lines, fullLines_append_feeds,
      List.append_assoc]
  · rw [linesOf_cons, linesOf_cons, Item.lines, Item.lines, Item.lines, fullLines_append_feeds,
      List.append_assoc]
  · exact linesOf_cons _ _
  · exact linesOf_cons _ _
  · exact linesOf_cons _ _

/-- A block adds what is kept of its lines to the lines of the items. -/
theorem linesOf_add (r : Reading) (h : AreBlockLines block.lines) :
    linesOf (r.add block).items = linesOf r.items ++ keptLines block.lines := by
  rw [keptLines_eq h]
  unfold Reading.add
  split
  · next item warnings hitem =>
    rw [hitem]
    exact linesOf_addItem block.gap r.running r.items item
  · next warnings hitem =>
    rw [hitem]
    have hpieces := linesOf_addPieces (fun _ => areBlockLines_of_mem_pieces h) r.items
    rwa [lines_pieces] at hpieces

theorem linesOf_foldl_add {blocks : List Block} (h : ∀ block ∈ blocks, AreBlockLines block.lines)
    (r : Reading) : linesOf (blocks.foldl Reading.add r).items =
      linesOf r.items ++ blocks.flatMap (keptLines ·.lines) := by
  induction blocks generalizing r with
  | nil => exact (List.append_nil _).symm
  | cons block blocks ih =>
    obtain ⟨hblock, hblocks⟩ := List.forall_mem_cons.mp h
    rw [List.foldl_cons, ih hblocks, linesOf_add r hblock, List.flatMap_cons, List.append_assoc]

/-! ## Main statement -/

/-- The lines that the items under a header carry are those that are kept of the blocks, in order. -/
theorem lines_readItems {lines : List Chars} (h : ∀ line ∈ lines, '\n' ∉ line) :
    (readItems lines).1.flatMap Item.lines = (subBlocks lines).flatMap keptLines := by
  have hblocks : ∀ block ∈ blocks lines, AreBlockLines block.lines :=
    fun _ => areBlockLines_of_mem_blocks h
  calc (readItems lines).1.flatMap Item.lines
      = linesOf ((blocks lines).foldl Reading.add {}).items := rfl
    _ = (blocks lines).flatMap (keptLines ·.lines) := linesOf_foldl_add hblocks {}
    _ = (subBlocks lines).flatMap keptLines := by rw [← lines_blocks, List.flatMap_map]

/-- The text under a header with a block of each kind, and regions that are closed, empty and open. -/
def mixedBody : List Chars :=
  ["one", "<HTML>", "<b>", "  </b>", "</html>", "two", "<latex>", "</latex>", "", "three", "", "  a = 1;",
    "", "", "  b = 2;", "", " as is", "", "* first", "more of it", "* second", "",
    "<include>part.txt</include>", "", "four", "<latex>", "\\alpha", "</html>"]

theorem lines_readItems_mixedBody :
    (∀ line ∈ mixedBody, '\n' ∉ line) ∧
      (readItems mixedBody).1.flatMap Item.lines = ["one", "<b>", "  </b>", "two", "three", "a = 1;",
        "b = 2;", "as is", "first", "more of it", "second", "four", "\\alpha", "</html>"] := by
  have hfeeds : ∀ line ∈ mixedBody, '\n' ∉ line := by decide
  refine ⟨hfeeds, ?_⟩
  rw [lines_readItems hfeeds]
  decide +kernel

end ScriptReport.Script

/-
  ScriptReport.Proofs.Script.Reading

  Reading the text under a header, with every look at a line or an item that might not be there.
  The list kinds look at the first line of a block, and a block that may run on looks at the last
  item. A block always has a line, and a kind that may run on is only remembered together with an
  item (`Reading.IsSound`), so nothing is ever missing (`readItemsChecked_eq`).
-/

import ScriptReport.Script.Paragraph
import Mathlib.Tactic.SplitIfs

namespace ScriptReport.Script

/-! ## Checked reading -/

/-- Something is looked at that is not there. -/
inductive ReadFault where
  /-- The first line of a block without lines. -/
  | noLine
  /-- The last item, before there is any. -/
  | noItem
  deriving DecidableEq, Repr

/-- The items of a list block, after a look at its first line. -/
def listItemsChecked (marker : Chars) (lines : List Chars) :
    Except ReadFault (Option (List Chars)) :=
  match lines.head? with
  | none => .error .noLine
  | some first =>
    .ok (if marker.isPrefixOf first then
      some (Text.splitOn ('\n' :: marker) ((Text.unlines lines).drop marker.length)) else none)

/-- The item that the whole of a block is between tags, if it is one. -/
def taggedItem (lines : List Chars) : Option Item × List Warning :=
  match delimited includeTags lines.flatten with
  | (some path, warnings) => (some (.included path none), warnings)
  | (none, warnings) =>
    match delimited graphicTags lines.flatten with
    | (some path, more) => (some (.graphic path), warnings ++ more)
    | (none, more) => (none, warnings ++ more)

/-- The item that the whole of a block is. The kinds are tried one after another. -/
def blockItemChecked (lines : List Chars) : Except ReadFault (Option Item × List Warning) :=
  if lines.all ("  ".toList.isPrefixOf ·) then
    .ok (some (.codeLiteral (Text.unlines (lines.map (·.drop 2)))), [])
  else if lines.all (" ".toList.isPrefixOf ·) then
    .ok (some (.preformatted (Text.unlines (lines.map (·.drop 1)))), [])
  else do
    match ← listItemsChecked "* " lines with
    | some items => return (some (.bulletedList items), [])
    | none =>
      match ← listItemsChecked "# " lines with
      | some items => return (some (.numberedList items), [])
      | none => return taggedItem lines

/-- The kind by which a block may run on. -/
def runningOf? : Item → Option Running
  | .codeLiteral _ => some .codeLiteral
  | .preformatted _ => some .preformatted
  | _ => none

/-- The items with an item that is a whole block at the end. The last item is looked at if the
    block before was of the same kind. -/
def addItemChecked (gap : Nat) (running : Option Running) (items : List Item) (item : Item) :
    Except ReadFault (List Item × Option Running) :=
  if (runningOf? item).isSome && running = runningOf? item && items.isEmpty then .error .noItem
  else .ok (addItem gap running items item)

/-- The reading after one more block. -/
def Reading.addChecked (r : Reading) (block : Block) : Except ReadFault Reading := do
  match ← blockItemChecked block.lines with
  | (some item, warnings) =>
    let (items, running) ← addItemChecked block.gap r.running r.items item
    return ⟨items, running, r.warnings ++ warnings⟩
  | (none, warnings) =>
    let ps := pieces block.lines
    return ⟨addPieces r.items ps, none, r.warnings ++ warnings ++ ps.filterMap Piece.warning?⟩

/-- The items of the lines under a header, and the warnings. -/
def readItemsChecked (lines : List Chars) : Except ReadFault (List Item × List Warning) := do
  let r ← (blocks lines).foldlM Reading.addChecked {}
  return (r.items.reverse, r.warnings)

/-! ## Blocks have lines -/

theorem lines_ne_nil_of_mem_blocksAfter {gap : Nat} {lines : List Chars} {block : Block}
    (h : block ∈ blocksAfter gap lines) : block.lines ≠ [] := by
  induction gap, lines using blocksAfter.induct with
  | case1 gap => simp [blocksAfter] at h
  | case2 gap line rest hblank ih =>
    rw [blocksAfter, if_pos hblank] at h
    exact ih h
  | case3 gap line rest hblank ih =>
    rw [blocksAfter, if_neg hblank] at h
    rcases List.mem_cons.mp h with rfl | hrest
    · exact List.cons_ne_nil _ _
    · exact ih hrest

theorem listItemsChecked_eq {lines : List Chars} (h : lines ≠ []) (marker : Chars) :
    listItemsChecked marker lines = .ok (listItems? marker lines) := by
  obtain ⟨first, rest, rfl⟩ := List.exists_cons_of_ne_nil h
  rfl

theorem blockItemChecked_eq {lines : List Chars} (h : lines ≠ []) :
    blockItemChecked lines = .ok (blockItem lines) := by
  unfold blockItemChecked blockItem
  rw [listItemsChecked_eq h, listItemsChecked_eq h]
  split_ifs
  · rfl
  · rfl
  · cases listItems? "* " lines with
    | some items => rfl
    | none =>
      cases listItems? "# " lines with
      | some items => rfl
      | none => rfl

/-! ## A kind that may run on comes with an item -/

/-- If a block may run on, there is an item that it would be joined to. -/
def Reading.IsSound (r : Reading) : Prop := r.running.isSome = true → r.items ≠ []

theorem addItem_ne_nil (gap : Nat) (running : Option Running) (items : List Item) (item : Item) :
    (addItem gap running items item).1 ≠ [] := by
  unfold addItem
  split <;> exact List.cons_ne_nil _ _

theorem addItemChecked_eq {r : Reading} (h : r.IsSound) (gap : Nat) (item : Item) :
    addItemChecked gap r.running r.items item = .ok (addItem gap r.running r.items item) := by
  -- an item of the running kind that finds no item before it contradicts soundness
  refine if_neg fun hmissing => ?_
  rw [Bool.and_eq_true, Bool.and_eq_true, decide_eq_true_iff, List.isEmpty_iff] at hmissing
  obtain ⟨⟨hkind, hsame⟩, hempty⟩ := hmissing
  exact h (hsame ▸ hkind) hempty

/-- One block is read without looking at anything that is missing, and the reading stays sound. -/
theorem addChecked_eq {r : Reading} (h : r.IsSound) {block : Block} (hlines : block.lines ≠ []) :
    r.addChecked block = .ok (r.add block) ∧ (r.add block).IsSound := by
  have hitem := blockItemChecked_eq hlines
  unfold Reading.addChecked Reading.add
  cases hread : blockItem block.lines with
  | mk item warnings =>
    rw [hitem, hread]
    cases item with
    -- running text ends whatever could run on
    | none => exact ⟨rfl, fun hrunning => absurd hrunning (by simp)⟩
    | some item =>
      refine ⟨?_, fun _ => addItem_ne_nil _ _ _ _⟩
      have hadd := addItemChecked_eq h block.gap item
      simp only [bind, Except.bind, hadd]
      rfl

theorem foldlM_addChecked {blocks : List Block} {r : Reading} (h : r.IsSound)
    (hlines : ∀ block ∈ blocks, block.lines ≠ []) :
    blocks.foldlM Reading.addChecked r = .ok (blocks.foldl Reading.add r) := by
  induction blocks generalizing r with
  | nil => rfl
  | cons block rest ih =>
    obtain ⟨hstep, hsound⟩ := addChecked_eq h (hlines block List.mem_cons_self)
    rw [List.foldlM_cons, hstep, List.foldl_cons]
    exact ih hsound fun b hb => hlines b (List.mem_cons_of_mem _ hb)

/-- Reading the text under a header looks at nothing that is not there. -/
theorem readItemsChecked_eq (lines : List Chars) :
    readItemsChecked lines = .ok (readItems lines) := by
  have hsound : Reading.IsSound {} := fun h => absurd h (by simp)
  have hfold := foldlM_addChecked hsound fun block hblock =>
    lines_ne_nil_of_mem_blocksAfter (show block ∈ blocks lines from hblock)
  rw [readItemsChecked, hfold]
  rfl

end ScriptReport.Script

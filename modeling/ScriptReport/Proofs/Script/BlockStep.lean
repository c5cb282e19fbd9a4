/-
  ScriptReport.Proofs.Script.BlockStep

  What reading one more block does to the items read so far. A block of code or preformatted text is
  joined to one of its kind right before it (`advance_joined`) and starts an item of its own in any
  other case (`advance_started`); every other block that is an item as a whole is put behind the
  rest (`advance_other`), and running text and regions are added piece by piece (`advance_mixed`).
  There is no further case (`block_cases`).
-/

import ScriptReport.Proofs.Script.RunningText
import Mathlib.Data.List.Induction

namespace ScriptReport.Script

/-! ## Kinds that run on -/

/-- The blanks in front of each line of the kind. -/
def Running.indent : Running → Nat
  | .codeLiteral => 2
  | .preformatted => 1

/-- The item of the kind with the given text. -/
def Running.item : Running → Chars → Item
  | .codeLiteral => .codeLiteral
  | .preformatted => .preformatted

/-- The lines are a block of the kind: for code two spaces stand before every line, for preformatted
    text one before every line and two not before every one. -/
def Running.Holds : Running → List Chars → Prop
  | .codeLiteral, lines => ∀ line ∈ lines, ("  " : Chars) <+: line
  | .preformatted, lines =>
    (∀ line ∈ lines, (" " : Chars) <+: line) ∧ ¬ ∀ line ∈ lines, ("  " : Chars) <+: line

/-- The text of a block of the kind. -/
def Running.text (kind : Running) (lines : List Chars) : Chars :=
  Text.unlines (lines.map (·.drop kind.indent))

instance Running.decidableHolds (kind : Running) (lines : List Chars) :
    Decidable (kind.Holds lines) :=
  match kind with
  | .codeLiteral => inferInstanceAs (Decidable (∀ _ ∈ _, _))
  | .preformatted => inferInstanceAs (Decidable (_ ∧ _))

theorem Running.item_inj {kind other : Running} {a b : Chars} :
    kind.item a = other.item b ↔ kind = other ∧ a = b := by
  cases kind <;> cases other <;> simp [Running.item]

theorem runningOf?_eq_some_iff {item : Item} {kind : Running} :
    runningOf? item = some kind ↔ ∃ text, item = kind.item text := by
  cases item <;> cases kind <;> simp [runningOf?, Running.item]

/-! ## The item of a block -/

theorem blockItem_of_holds {kind : Running} {lines : List Chars} (h : kind.Holds lines) :
    blockItem lines = (some (kind.item (kind.text lines)), []) := by
  have hall (front : Chars) :
      lines.all (front.isPrefixOf ·) = true ↔ ∀ line ∈ lines, front <+: line := by
    simp only [List.all_eq_true, List.isPrefixOf_iff_prefix]
  unfold blockItem
  cases kind with
  | codeLiteral =>
    rw [if_pos ((hall _).mpr h)]
    rfl
  | preformatted =>
    rw [if_neg (mt (hall _).mp h.2), if_pos ((hall _).mpr h.1)]
    rfl

theorem runningOf?_taggedItem {item : Item} {lines : List Chars}
    (h : (taggedItem lines).1 = some item) : runningOf? item = none := by
  unfold taggedItem at h
  split at h
  · cases h; rfl
  · split at h
    · cases h; rfl
    · cases h

/-- A block that is of neither kind is another item, or no item as a whole. -/
theorem runningOf?_blockItem {item : Item} {lines : List Chars}
    (h : (blockItem lines).1 = some item) (hnot : ∀ kind : Running, ¬ kind.Holds lines) :
    runningOf? item = none := by
  have hall (front : Chars) :
      lines.all (front.isPrefixOf ·) = true ↔ ∀ line ∈ lines, front <+: line := by
    simp only [List.all_eq_true, List.isPrefixOf_iff_prefix]
  have hcode := hnot .codeLiteral
  have hpreformatted : ¬ ∀ line ∈ lines, (" " : Chars) <+: line :=
    fun hone => hnot .preformatted ⟨hone, hcode⟩
  unfold blockItem at h
  rw [if_neg (mt (hall _).mp hcode), if_neg (mt (hall _).mp hpreformatted)] at h
  split at h
  · cases h; rfl
  · cases h; rfl
  · exact runningOf?_taggedItem h

/-- What a block can be. -/
theorem block_cases (lines : List Chars) :
    (∃ kind : Running, kind.Holds lines) ∨
      (∃ item, (blockItem lines).1 = some item ∧ runningOf? item = none) ∨
      (blockItem lines).1 = none := by
  by_cases hkind : ∃ kind : Running, kind.Holds lines
  · exact .inl hkind
  · rw [not_exists] at hkind
    cases hitem : (blockItem lines).1 with
    | some item => exact .inr (.inl ⟨item, rfl, runningOf?_blockItem hitem hkind⟩)
    | none => exact .inr (.inr rfl)

/-! ## One more block -/

/-- The items read so far, the latest first, and the kind of the last block if it may run on. -/
abbrev Standing := List Item × Option Running

/-- The items and the kind after one more block. -/
def advance (s : Standing) (block : Block) : Standing :=
  match (blockItem block.lines).1 with
  | some item => addItem block.gap s.2 s.1 item
  | none => (addPieces s.1 (pieces block.lines), none)

variable {items rest : List Item} {running : Option Running} {kind : Running} {block : Block}
  {before : Chars}

theorem advance_joined (h : kind.Holds block.lines) :
    advance (kind.item before :: rest, some kind) block =
      (kind.item (before ++ List.replicate (block.gap + 1) '\n' ++ kind.text block.lines) :: rest,
        some kind) := by
  rw [advance, blockItem_of_holds h]
  cases kind <;> rfl

theorem addItem_started {item : Item} (hitem : runningOf? item = some kind)
    (hrunning : running ≠ some kind) (gap : Nat) :
    addItem gap running items item = (item :: items, some kind) := by
  obtain ⟨text, rfl⟩ := runningOf?_eq_some_iff.mp hitem
  cases kind with
  | codeLiteral =>
    rcases running with _ | _ | _
    · rfl
    · exact absurd rfl hrunning
    · rfl
  | preformatted =>
    rcases running with _ | _ | _
    · rfl
    · rfl
    · exact absurd rfl hrunning

theorem advance_started (h : kind.Holds block.lines) (hrunning : running ≠ some kind) :
    advance (items, running) block = (kind.item (kind.text block.lines) :: items, some kind) := by
  rw [advance, blockItem_of_holds h]
  exact addItem_started (runningOf?_eq_some_iff.mpr ⟨_, rfl⟩) hrunning block.gap

theorem advance_other {item : Item} (hitem : (blockItem block.lines).1 = some item)
    (hnot : runningOf? item = none) (s : Standing) : advance s block = (item :: s.1, none) := by
  rw [advance, hitem]
  cases item with
  | codeLiteral text => cases hnot
  | preformatted text => cases hnot
  | _ => rfl

theorem advance_mixed (h : (blockItem block.lines).1 = none) (s : Standing) :
    advance s block = (addPieces s.1 (pieces block.lines), none) := by
  rw [advance, h]

/-- If a block may run on, the last item is of its kind. -/
def Standing.IsSound (s : Standing) : Prop :=
  ∀ kind, s.2 = some kind → ∃ before rest, s.1 = Running.item kind before :: rest

/-- All that one more block can do. -/
theorem advance_cases {s : Standing} (h : s.IsSound) (block : Block) :
    (∃ kind before rest, Running.Holds kind block.lines ∧
      s = (Running.item kind before :: rest, some kind) ∧
      advance s block = (Running.item kind
        (before ++ List.replicate (block.gap + 1) '\n' ++ Running.text kind block.lines) :: rest,
          some kind)) ∨
    (∃ kind, Running.Holds kind block.lines ∧ s.2 ≠ some kind ∧
      advance s block = (Running.item kind (Running.text kind block.lines) :: s.1, some kind)) ∨
    (∃ item, (blockItem block.lines).1 = some item ∧ runningOf? item = none ∧
      advance s block = (item :: s.1, none)) ∨
    ((blockItem block.lines).1 = none ∧
      advance s block = (addPieces s.1 (pieces block.lines), none)) := by
  obtain ⟨items, running⟩ := s
  rcases block_cases block.lines with ⟨kind, hkind⟩ | ⟨item, hitem, hnot⟩ | hnone
  · by_cases hrunning : running = some kind
    · obtain ⟨before, rest, rfl⟩ := h kind hrunning
      subst hrunning
      exact .inl ⟨kind, before, rest, hkind, rfl, advance_joined hkind⟩
    · exact .inr (.inl ⟨kind, hkind, hrunning, advance_started hkind hrunning⟩)
  · exact .inr (.inr (.inl ⟨item, hitem, hnot, advance_other hitem hnot _⟩))
  · exact .inr (.inr (.inr ⟨hnone, advance_mixed hnone _⟩))

/-- What may run on behind a block is a block of the kind, and the last item is of the kind. -/
theorem advance_running {s : Standing} (h : s.IsSound) (block : Block)
    (hrunning : (advance s block).2 = some kind) :
    kind.Holds block.lines ∧ ∃ text rest, (advance s block).1 = kind.item text :: rest := by
  rcases advance_cases h block with ⟨other, before, rest, hkind, -, hs⟩ | ⟨other, hkind, -, hs⟩ |
    ⟨item, -, -, hs⟩ | ⟨-, hs⟩
  all_goals rw [hs] at hrunning
  · cases hrunning
    exact ⟨hkind, _, _, congrArg Prod.fst hs⟩
  · cases hrunning
    exact ⟨hkind, _, _, congrArg Prod.fst hs⟩
  · cases hrunning
  · cases hrunning

theorem Standing.IsSound.advance {s : Standing} (h : s.IsSound) (block : Block) :
    Standing.IsSound (advance s block) :=
  fun _ hrunning => (advance_running h block hrunning).2

/-! ## All blocks -/

/-- The items and the kind after the blocks. -/
def standing (blocks : List Block) : Standing := blocks.foldl advance ([], none)

/-- The items of the blocks, in order. -/
def itemsOf (blocks : List Block) : List Item := (standing blocks).1.reverse

theorem standing_concat (blocks : List Block) (block : Block) :
    standing (blocks ++ [block]) = advance (standing blocks) block := by
  rw [standing, List.foldl_append]
  rfl

theorem isSound_standing (blocks : List Block) : (standing blocks).IsSound := by
  induction blocks using List.reverseRecOn with
  | nil => exact fun _ h => by cases h
  | append_singleton blocks block ih =>
    rw [standing_concat]
    exact ih.advance block

theorem advance_eq_add (r : Reading) (block : Block) :
    advance (r.items, r.running) block = ((r.add block).items, (r.add block).running) := by
  unfold advance Reading.add
  rcases blockItem block.lines with ⟨_ | item, warnings⟩ <;> rfl

/-- Reading the text under a header is reading its blocks. -/
theorem readItems_eq (lines : List Chars) : (readItems lines).1 = itemsOf (blocks lines) := by
  have hfold (blocks : List Block) (r : Reading) :
      blocks.foldl advance (r.items, r.running) =
        ((blocks.foldl Reading.add r).items, (blocks.foldl Reading.add r).running) := by
    induction blocks generalizing r with
    | nil => rfl
    | cons block blocks ih => rw [List.foldl_cons, advance_eq_add, ih, List.foldl_cons]
  rw [itemsOf, standing]
  exact congrArg List.reverse (congrArg Prod.fst (hfold (blocks lines) {})).symm

/-! ## Settled items

Reading on leaves the items before alone, unless the last of them is running text, or a block that
the next one is joined to. -/

theorem addText_append {base : List Item} (hbase : endInText base = false) (separator : Chars)
    (lines : List Chars) (items : List Item) :
    addText separator lines (items ++ base) = addText separator lines items ++ base := by
  cases items with
  | nil =>
    cases base with
    | nil => rfl
    | cons last base =>
      cases last with
      | text t => cases hbase
      | _ => rfl
  | cons last items => cases last <;> rfl

theorem addPieces_concat (items : List Item) (ps : List Piece) (piece : Piece) :
    addPieces items (ps ++ [piece]) = addPiece ps.isEmpty (addPieces items ps) piece := by
  cases ps with
  | nil => rfl
  | cons first ps => rw [List.cons_append, addPieces, List.foldl_append]; rfl

theorem addPiece_append {base : List Item} (hbase : endInText base = false) (first : Bool)
    (items : List Item) (piece : Piece) :
    addPiece first (items ++ base) piece = addPiece first items piece ++ base := by
  cases piece with
  | text lines => exact addText_append hbase _ lines items
  | region kind lines closed => cases lines <;> rfl

theorem addPieces_append {base : List Item} (hbase : endInText base = false) (items : List Item)
    (ps : List Piece) : addPieces (items ++ base) ps = addPieces items ps ++ base := by
  induction ps using List.reverseRecOn with
  | nil => rfl
  | append_singleton ps piece ih =>
    rw [addPieces_concat, ih, addPiece_append hbase, addPieces_concat]

theorem advance_append {base : List Item} (hbase : endInText base = false) {s : Standing}
    (h : s.IsSound) (block : Block) :
    advance (s.1 ++ base, s.2) block = ((advance s block).1 ++ base, (advance s block).2) := by
  rcases advance_cases h block with ⟨kind, before, rest, hkind, rfl, hs⟩ |
    ⟨kind, hkind, hrunning, hs⟩ | ⟨item, hitem, hnot, hs⟩ | ⟨hnone, hs⟩
  all_goals rw [hs]
  · exact advance_joined hkind
  · exact advance_started hkind hrunning
  · exact advance_other hitem hnot _
  · rw [advance_mixed hnone, addPieces_append hbase]

/-- Behind items that are settled, blocks are read as on their own. -/
theorem foldl_advance_settled {base : List Item} (hbase : endInText base = false)
    (blocks : List Block) :
    blocks.foldl advance (base, none) = ((standing blocks).1 ++ base, (standing blocks).2) := by
  induction blocks using List.reverseRecOn with
  | nil => rfl
  | append_singleton blocks block ih =>
    rw [List.foldl_append, ih, standing_concat]
    exact advance_append hbase (isSound_standing blocks) block

end ScriptReport.Script

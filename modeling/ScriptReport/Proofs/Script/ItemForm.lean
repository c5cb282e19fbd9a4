/-
  ScriptReport.Proofs.Script.ItemForm

  The form of the items that the text under a header is read into. No item is empty, running text is
  never followed by running text, and two items of code, or two of preformatted text, follow each
  other only where a block with nothing but empty regions stands between the blocks that they were
  read from. Each block keeps all this (`HasForm.advance`). Main statement: `areInForm_readItems`.
-/

import ScriptReport.Proofs.Script.AsRead
import ScriptReport.Proofs.Script.BlockStep
import Mathlib.Data.List.Chain

namespace ScriptReport.Script

/-! ## The form -/

/-- Items of a list with the marker: there are some, and none goes on where the next one starts. -/
def AreListItems (marker : Chars) (items : List Chars) : Prop :=
  items ≠ [] ∧ ∀ item ∈ items, ¬ ('\n' :: marker) <:+: item

/-- A path that is not empty, without blanks around it. -/
def IsTrimmedPath (path : Chars) : Prop := path ≠ [] ∧ Text.trim path = path

/-- The item is not empty, and its parts are cut as they should be. -/
def Item.IsProper : Item → Prop
  | .text t | .codeLiteral t | .preformatted t => Text.isBlank t = false
  | .bulletedList items => AreListItems "* " items
  | .numberedList items => AreListItems "# " items
  | .included path _ | .graphic path => IsTrimmedPath path
  | .html raw | .latex raw => Text.isBlank raw = false

/-- The block produces no item: it has nothing but empty regions. -/
def IsIdle (lines : List Chars) : Prop :=
  (blockItem lines).1 = none ∧ ∀ piece ∈ pieces lines, piece.isEmptyRegion = true

/-- Items in normal form, as they are read from blocks. -/
structure AreInForm (blocks : List Block) (items : List Item) : Prop where
  proper : ∀ item ∈ items, item.IsProper
  texts : ∀ front back s t, items ≠ front ++ .text s :: .text t :: back
  runs : ∀ (kind : Running) front back s t, items = front ++ kind.item s :: kind.item t :: back →
    ∃ before idle after, blocks = before ++ idle :: after ∧ IsIdle idle.lines ∧
      itemsOf before = front ++ [kind.item s] ∧ itemsOf after = kind.item t :: back

variable {items rest : List Item} {lines : List Chars} {kind : Running}

/-! ## Parts of items -/

/-- There are lines, and none of them is blank. -/
def AreFull (lines : List Chars) : Prop := lines ≠ [] ∧ ∀ line ∈ lines, Text.isBlank line = false

theorem AreFull.unlines (h : AreFull lines) : Text.isBlank (Text.unlines lines) = false := by
  obtain ⟨line, rest, rfl⟩ := List.exists_cons_of_ne_nil h.1
  have hline := h.2 line List.mem_cons_self
  rw [← Bool.not_eq_true] at hline ⊢
  exact fun hblank => hline (isBlank_of_mem_join hblank List.mem_cons_self)

theorem Running.Holds.indented (h : kind.Holds lines) {line : Chars} (hline : line ∈ lines) :
    List.replicate kind.indent ' ' <+: line := by
  cases kind with
  | codeLiteral => exact h line hline
  | preformatted => exact h.1 line hline

theorem not_isBlank_text (h : kind.Holds lines) (hfull : AreFull lines) :
    Text.isBlank (kind.text lines) = false := by
  refine AreFull.unlines ⟨fun hnil => hfull.1 (List.map_eq_nil_iff.mp hnil), fun line hline => ?_⟩
  obtain ⟨whole, hwhole, rfl⟩ := List.mem_map.mp hline
  obtain ⟨rest, hrest⟩ := h.indented hwhole
  -- only blanks are taken away
  have hblanks : (List.replicate kind.indent ' ').all Text.isBlankChar = true :=
    List.all_replicate.trans (by simp [show Text.isBlankChar ' ' = true by decide])
  have hline := hfull.2 whole hwhole
  rw [← hrest, Text.isBlank, List.all_append, hblanks, Bool.true_and] at hline
  rw [← hrest, List.drop_left' List.length_replicate]
  exact hline

theorem areListItems_of_listItems? {marker : Chars} {texts : List Chars}
    (h : listItems? marker lines = some texts) : AreListItems marker texts := by
  unfold listItems? at h
  split at h
  · cases h
  · split at h
    · cases h
      exact ⟨Text.splitOn_ne_nil _ _, fun _ =>
        Text.not_infix_of_mem_splitOn (List.cons_ne_nil _ _)⟩
    · cases h

theorem trimEnd_prefix (text : Chars) : Text.trimEnd text <+: text := by
  rw [Text.trimEnd, Text.dropEndWhile, ← List.reverse_suffix, List.reverse_reverse]
  exact List.dropWhile_suffix _

theorem trim_trim (text : Chars) : Text.trim (Text.trim text) = Text.trim text := by
  have hstart : Text.trimStart (Text.trim text) = Text.trim text := by
    cases htrim : Text.trim text with
    | nil => rfl
    | cons c rest =>
      -- what trimming at the end leaves starts as before
      obtain ⟨after, hafter⟩ := trimEnd_prefix (Text.trimStart text)
      rw [← Text.trim, htrim] at hafter
      have hhead : (text.dropWhile Text.isBlankChar).head? = some c := by
        rw [← Text.trimStart, ← hafter]
        rfl
      have hc : Text.isBlankChar c = false := Text.head?_dropWhile hhead
      exact List.dropWhile_cons_of_neg (by rw [hc]; exact Bool.false_ne_true)
  rw [Text.trim, hstart, Text.trim, Text.trimEnd, Text.trimEnd, Text.dropEndWhile,
    Text.dropEndWhile, List.reverse_reverse, List.dropWhile_idempotent]

theorem isTrimmedPath_of_delimited {tags : Tags} {markup path : Chars} {warnings : List Warning}
    (h : delimited tags markup = (some path, warnings)) : IsTrimmedPath path := by
  unfold delimited at h
  dsimp only at h
  split at h
  · cases h
  · split at h
    · cases h
    · have hpath := congrArg Prod.fst h
      rw [Option.ite_none_left_eq_some, Option.some.injEq] at hpath
      obtain ⟨hne, rfl⟩ := hpath
      exact ⟨hne, trim_trim _⟩

theorem isProper_taggedItem {item : Item} (h : (taggedItem lines).1 = some item) :
    item.IsProper := by
  unfold taggedItem at h
  split at h
  · next hpath =>
    cases h
    exact isTrimmedPath_of_delimited hpath
  · split at h
    · next hpath =>
      cases h
      exact isTrimmedPath_of_delimited hpath
    · cases h

/-- The item of a block that is one as a whole. -/
theorem isProper_blockItem {item : Item} (h : (blockItem lines).1 = some item)
    (hfull : AreFull lines) : item.IsProper := by
  by_cases hkind : ∃ kind : Running, kind.Holds lines
  · obtain ⟨kind, hkind⟩ := hkind
    rw [blockItem_of_holds hkind] at h
    have htext := not_isBlank_text hkind hfull
    cases kind <;> · cases h; exact htext
  · have hnot := runningOf?_blockItem h (not_exists.mp hkind)
    unfold blockItem at h
    split_ifs at h
    · cases h
      cases hnot
    · cases h
      cases hnot
    · split at h
      · next hitems =>
        cases h
        exact areListItems_of_listItems? hitems
      · next hitems =>
        cases h
        exact areListItems_of_listItems? hitems
      · exact isProper_taggedItem h

/-- The lines of a piece are not blank, and only a region can have none. -/
theorem areFull_of_mem_pieces (hfull : AreFull lines) {piece : Piece} (h : piece ∈ pieces lines)
    (hne : piece.isEmptyRegion = false) : AreFull piece.lines := by
  refine ⟨?_, fun line hline => hfull.2 line (untagged_subset none lines ?_)⟩
  · cases piece with
    | text texts => exact ne_nil_of_text_mem_pieces h
    | region kind texts closed =>
      cases texts with
      | nil => cases hne
      | cons line rest => exact List.cons_ne_nil line rest
  · rw [← lines_pieces]
    exact List.mem_flatMap.mpr ⟨piece, h, hline⟩

theorem areFull_of_mem_blocks {block : Block} (h : block ∈ blocks lines) : AreFull block.lines := by
  refine ⟨lines_ne_nil_of_mem_blocksAfter h, fun line hline => ?_⟩
  have hmem : line ∈ (blocks lines).flatMap Block.lines :=
    List.mem_flatMap.mpr ⟨block, h, hline⟩
  rw [blocks, flatten_blocksAfter, List.mem_filter, Bool.not_eq_true'] at hmem
  exact hmem.2

/-! ## Pieces -/

/-- What holds of the items and stays so with each piece holds after all pieces of a block. -/
theorem addPieces_induction {motive : List Item → Prop} {ps : List Piece} (start : motive items)
    (step : ∀ first items, ∀ piece ∈ ps, motive items → motive (addPiece first items piece)) :
    motive (addPieces items ps) := by
  induction ps using List.reverseRecOn with
  | nil => exact start
  | append_singleton ps piece ih =>
    rw [addPieces_concat]
    exact step _ _ piece List.mem_concat_self (ih fun first items p hp =>
      step first items p (List.mem_append_left _ hp))

/-- The last of the items is none that a block can be joined to. -/
def EndStill (items : List Item) : Prop :=
  ∃ item rest, items = item :: rest ∧ runningOf? item = none

theorem addPiece_of_isEmptyRegion {piece : Piece} (h : piece.isEmptyRegion = true) (first : Bool)
    (items : List Item) : addPiece first items piece = items := by
  cases piece with
  | text texts => cases h
  | region kind texts closed =>
    cases texts with
    | nil => rfl
    | cons line rest => cases h

/-- A piece that is not an empty region leaves an item, which takes the place of the last one at
    most. -/
theorem exists_addPiece {piece : Piece} (h : piece.isEmptyRegion = false) (first : Bool)
    (items : List Item) :
    ∃ item rest, addPiece first items piece = item :: rest ∧ runningOf? item = none ∧
      rest <:+ items := by
  cases piece with
  | text texts =>
    cases items with
    | nil => exact ⟨_, _, rfl, rfl, List.suffix_refl _⟩
    | cons last items =>
      cases last with
      | text t => exact ⟨_, _, rfl, rfl, List.suffix_cons _ _⟩
      | _ => exact ⟨_, _, rfl, rfl, List.suffix_refl _⟩
  | region kind texts closed =>
    cases texts with
    | nil => cases h
    | cons line more => cases kind <;> exact ⟨_, _, rfl, rfl, List.suffix_refl _⟩

theorem not_item_eq {item : Item} (h : runningOf? item = none) (kind : Running) (text : Chars) :
    kind.item text ≠ item := by
  rintro rfl
  rw [runningOf?_eq_some_iff.mpr ⟨text, rfl⟩] at h
  cases h

/-- Pieces leave the items up to one of code or preformatted text alone. -/
theorem suffix_of_suffix_addPieces {text : Chars} {ps : List Piece}
    (h : kind.item text :: rest <:+ addPieces items ps) : kind.item text :: rest <:+ items := by
  revert h
  refine addPieces_induction (motive := fun after => kind.item text :: rest <:+ after →
    kind.item text :: rest <:+ items) id fun first before piece _ ih h => ?_
  cases hempty : piece.isEmptyRegion with
  | true =>
    rw [addPiece_of_isEmptyRegion hempty] at h
    exact ih h
  | false =>
    obtain ⟨item, more, hadd, hnot, hmore⟩ := exists_addPiece hempty first before
    rw [hadd, List.suffix_cons_iff] at h
    rcases h with heq | hsuffix
    · exact absurd (List.cons.inj heq).1 (not_item_eq hnot kind text)
    · exact ih (hsuffix.trans hmore)

theorem addPieces_of_isEmptyRegion {ps : List Piece}
    (h : ∀ piece ∈ ps, piece.isEmptyRegion = true) (items : List Item) :
    addPieces items ps = items := by
  refine addPieces_induction (motive := (· = items)) rfl fun first before piece hpiece ih => ?_
  rw [addPiece_of_isEmptyRegion (h piece hpiece), ih]

/-- Behind a piece that is not an empty region nothing can be joined. -/
theorem endStill_addPieces (items : List Item) (ps : List Piece) :
    (∀ piece ∈ ps, piece.isEmptyRegion = true) ∨ EndStill (addPieces items ps) := by
  induction ps using List.reverseRecOn with
  | nil => exact .inl fun _ h => absurd h List.not_mem_nil
  | append_singleton ps piece ih =>
    rw [addPieces_concat]
    cases hempty : piece.isEmptyRegion with
    | true =>
      rw [addPiece_of_isEmptyRegion hempty]
      exact ih.imp_left fun hall => List.forall_mem_append.mpr
        ⟨hall, List.forall_mem_singleton.mpr hempty⟩
    | false =>
      obtain ⟨item, rest, hadd, hnot, -⟩ := exists_addPiece hempty ps.isEmpty (addPieces items ps)
      exact .inr ⟨item, rest, hadd, hnot⟩

/-- One of two neighbours is not running text. -/
def Apart (a b : Item) : Prop := a.text? = none ∨ b.text? = none

theorem isChain_push {item : Item} (hitem : item.text? = none) (h : items.IsChain Apart) :
    (item :: items).IsChain Apart :=
  List.isChain_cons.mpr ⟨fun _ _ => .inl hitem, h⟩

theorem isChain_addPiece (h : items.IsChain Apart) (first : Bool) (piece : Piece) :
    (addPiece first items piece).IsChain Apart := by
  cases piece with
  | text texts =>
    cases items with
    | nil => exact List.isChain_singleton _
    | cons last rest =>
      obtain ⟨hlast, hrest⟩ := List.isChain_cons.mp h
      cases last with
      | text t =>
        exact List.isChain_cons.mpr
          ⟨fun next hnext => .inr ((hlast next hnext).resolve_left (by simp [Item.text?])), hrest⟩
      | _ => exact List.isChain_cons_cons.mpr ⟨.inr rfl, h⟩
  | region kind texts closed =>
    cases texts with
    | nil => exact h
    | cons line rest => cases kind <;> exact isChain_push rfl h

theorem isProper_addPiece (h : ∀ item ∈ items, item.IsProper) {piece : Piece}
    (hpiece : piece.isEmptyRegion = false → AreFull piece.lines) (first : Bool) :
    ∀ item ∈ addPiece first items piece, item.IsProper := by
  cases piece with
  | text texts =>
    have hnew : Text.isBlank (Text.unlines texts) = false := (hpiece rfl).unlines
    cases items with
    | nil => exact List.forall_mem_singleton.mpr hnew
    | cons last rest =>
      cases last with
      | text t =>
        refine List.forall_mem_cons.mpr ⟨?_, (List.forall_mem_cons.mp h).2⟩
        show Text.isBlank (t ++ _ ++ Text.unlines texts) = false
        rw [Text.isBlank] at hnew ⊢
        rw [List.all_append, hnew, Bool.and_false]
      | _ => exact List.forall_mem_cons.mpr ⟨hnew, h⟩
  | region kind texts closed =>
    cases texts with
    | nil => exact h
    | cons line rest =>
      have hnew : Text.isBlank (Text.unlines (line :: rest)) = false := (hpiece rfl).unlines
      cases kind <;> exact List.forall_mem_cons.mpr ⟨hnew, h⟩

/-! ## Blocks -/

/-- One of the blocks produces no item where the items so far are just the given ones. -/
def IdleAt (bs : List Block) (items : List Item) : Prop :=
  ∃ before idle after, bs = before ++ idle :: after ∧ IsIdle idle.lines ∧
    (standing before).1 = items

theorem IdleAt.concat {bs : List Block} (h : IdleAt bs items) (block : Block) :
    IdleAt (bs ++ [block]) items := by
  obtain ⟨before, idle, after, rfl, hidle, hitems⟩ := h
  exact ⟨before, idle, after ++ [block], by simp, hidle, hitems⟩

/-- Two neighbours of one kind that runs on have a block between them that produces no item. -/
def ArePartedByIdle (bs : List Block) (items : List Item) : Prop :=
  ∀ (kind : Running) t before rest, kind.item t :: kind.item before :: rest <:+ items →
    IdleAt bs (kind.item before :: rest)

theorem ArePartedByIdle.concat {bs : List Block} (h : ArePartedByIdle bs items) (block : Block) :
    ArePartedByIdle (bs ++ [block]) items :=
  fun kind t before rest hpair => (h kind t before rest hpair).concat block

theorem ArePartedByIdle.cons {bs : List Block} (h : ArePartedByIdle bs items) {item : Item}
    (hitem : ∀ (kind : Running) t before rest, item = kind.item t →
      items = kind.item before :: rest → IdleAt bs items) :
    ArePartedByIdle bs (item :: items) := by
  intro kind t before rest hpair
  rcases List.suffix_cons_iff.mp hpair with heq | hsuffix
  · obtain ⟨hhead, hrest⟩ := List.cons.inj heq
    exact hrest ▸ hitem kind t before rest hhead.symm hrest.symm
  · exact h kind t before rest hsuffix

/-- The form of what has been read from the blocks, the latest item coming first. -/
structure HasForm (bs : List Block) (s : Standing) : Prop where
  proper : ∀ item ∈ s.1, item.IsProper
  apart : s.1.IsChain Apart
  parted : ArePartedByIdle bs s.1
  last : ∀ (kind : Running) t rest, s.1 = kind.item t :: rest → s.2 = some kind ∨ IdleAt bs s.1

theorem text?_item (kind : Running) (t : Chars) : (kind.item t).text? = none := by
  cases kind <;> rfl

theorem isProper_item {t : Chars} : (kind.item t).IsProper ↔ Text.isBlank t = false := by
  cases kind <;> exact Iff.rfl

/-- One more block keeps the form. -/
theorem HasForm.advance {bs : List Block} (h : HasForm bs (standing bs)) {block : Block}
    (hfull : AreFull block.lines) :
    HasForm (bs ++ [block]) (advance (standing bs) block) := by
  obtain ⟨hproper, hapart, hparted, hlast⟩ := h
  have hparted := hparted.concat block
  rcases advance_cases (isSound_standing bs) block with ⟨kind, before, rest, hkind, hs, hnext⟩ |
    ⟨kind, hkind, hrunning, hnext⟩ | ⟨item, hitem, hnot, hnext⟩ | ⟨hnone, hnext⟩
  all_goals rw [hnext]
  · -- the last item goes on
    rw [hs] at hproper hapart hparted
    obtain ⟨hbefore, hrest⟩ := List.forall_mem_cons.mp hproper
    have hrestParted : ArePartedByIdle (bs ++ [block]) rest := fun _ _ _ _ hpair =>
      hparted _ _ _ _ (hpair.trans (List.suffix_cons _ _))
    refine ⟨List.forall_mem_cons.mpr ⟨?_, hrest⟩, isChain_push (text?_item _ _) hapart.tail,
      hrestParted.cons ?_, ?_⟩
    · rw [isProper_item, Text.isBlank] at hbefore ⊢
      rw [List.all_append, List.all_append, hbefore, Bool.false_and, Bool.false_and]
    · rintro other t last more hhead rfl
      obtain ⟨rfl, -⟩ := Running.item_inj.mp hhead
      exact hparted _ _ _ _ (List.suffix_refl _)
    · intro other t more heq
      exact .inl (congrArg some (Running.item_inj.mp (List.cons.inj heq).1).1)
  · -- a new item starts, so the one before it cannot run on
    refine ⟨List.forall_mem_cons.mpr ⟨isProper_item.mpr (not_isBlank_text hkind hfull), hproper⟩,
      isChain_push (text?_item _ _) hapart, hparted.cons ?_, ?_⟩
    · intro other t last more hhead hitems
      obtain ⟨rfl, -⟩ := Running.item_inj.mp hhead
      exact ((hlast _ _ _ hitems).resolve_left hrunning).concat block
    · intro other t more heq
      exact .inl (congrArg some (Running.item_inj.mp (List.cons.inj heq).1).1)
  · refine ⟨List.forall_mem_cons.mpr ⟨isProper_blockItem hitem hfull, hproper⟩,
      isChain_push (text?_blockItem hitem) hapart, hparted.cons ?_, ?_⟩
    · intro other t last more hhead
      exact absurd hhead.symm (not_item_eq hnot other t)
    · intro other t more heq
      exact absurd (List.cons.inj heq).1.symm (not_item_eq hnot other t)
  · refine ⟨?_, ?_, ?_, ?_⟩
    · exact addPieces_induction (motive := fun items => ∀ item ∈ items, item.IsProper) hproper
        fun first items piece hpiece ih =>
          isProper_addPiece ih (areFull_of_mem_pieces hfull hpiece) first
    · exact addPieces_induction (motive := fun items => items.IsChain Apart) hapart
        fun first items piece _ ih => isChain_addPiece ih first piece
    · exact fun _ _ _ _ hpair => hparted _ _ _ _ (suffix_of_suffix_addPieces hpair)
    · intro other t more heq
      rcases endStill_addPieces (standing bs).1 (pieces block.lines) with hempty | hend
      · refine .inr ⟨bs, block, [], rfl, ⟨hnone, hempty⟩, ?_⟩
        exact (addPieces_of_isEmptyRegion hempty _).symm
      · obtain ⟨item, rest, hitems, hnot⟩ := hend
        exact absurd (List.cons.inj (heq.symm.trans hitems)).1 (not_item_eq hnot other t)

theorem hasForm_standing {bs : List Block} (h : ∀ block ∈ bs, AreFull block.lines) :
    HasForm bs (standing bs) := by
  induction bs using List.reverseRecOn with
  | nil =>
    exact ⟨fun _ h => absurd h List.not_mem_nil, List.isChain_nil,
      fun _ _ _ _ h => absurd h (by simp [standing]), fun _ _ _ h => by cases h⟩
  | append_singleton bs block ih =>
    obtain ⟨hbefore, hblock⟩ := List.forall_mem_append.mp h
    rw [standing_concat]
    exact (ih hbefore).advance (hblock block List.mem_cons_self)

/-! ## Main statement -/

/-- A block that produces no item leaves what follows to be read on its own. -/
theorem itemsOf_idle {idle : Block} (hidle : IsIdle idle.lines) {before : List Block}
    (hbefore : endInText (standing before).1 = false) (after : List Block) :
    itemsOf (before ++ idle :: after) = itemsOf before ++ itemsOf after := by
  have hstep : advance (standing before) idle = ((standing before).1, none) := by
    rw [advance_mixed hidle.1, addPieces_of_isEmptyRegion hidle.2]
  have hfold : standing (before ++ idle :: after) =
      ((standing after).1 ++ (standing before).1, (standing after).2) := by
    rw [standing, List.foldl_append, List.foldl_cons, ← standing, hstep,
      foldl_advance_settled hbefore]
  rw [itemsOf, hfold, List.reverse_append]
  rfl

theorem standing_of_itemsOf {bs : List Block} {front back : List Item} {a b : Item}
    (h : itemsOf bs = front ++ a :: b :: back) :
    (standing bs).1 = back.reverse ++ b :: a :: front.reverse := by
  rw [← List.reverse_reverse (standing bs).1, ← itemsOf, h]
  simp

/-- The items of the text under a header are in normal form. -/
theorem areInForm_readItems (lines : List Chars) :
    AreInForm (blocks lines) (readItems lines).1 := by
  obtain ⟨hproper, hapart, hparted, -⟩ :=
    hasForm_standing fun block (hblock : block ∈ blocks lines) => areFull_of_mem_blocks hblock
  rw [readItems_eq]
  refine ⟨fun item hitem => hproper item (List.mem_reverse.mp hitem), ?_, ?_⟩
  · intro front back s t heq
    rw [standing_of_itemsOf heq, List.isChain_append_cons_cons] at hapart
    rcases hapart.2.1 with hnone | hnone <;> cases hnone
  · intro kind front back s t heq
    obtain ⟨before, idle, after, hblocks, hidle, hbefore⟩ :=
      hparted kind t s front.reverse (standing_of_itemsOf heq ▸ List.suffix_append _ _)
    have hfront : itemsOf before = front ++ [kind.item s] := by
      rw [itemsOf, hbefore, List.reverse_cons, List.reverse_reverse]
    refine ⟨before, idle, after, hblocks, hidle, hfront, ?_⟩
    have hstill : endInText (standing before).1 = false := by
      rw [hbefore]
      cases kind <;> rfl
    rw [hblocks, itemsOf_idle hidle hstill, hfront, List.append_assoc] at heq
    exact List.append_cancel_left (List.append_cancel_left heq)

/-- Code is not joined over empty regions, though nothing stands between the two items. -/
example : (readItems ["  a", "", "<html>", "</html>", "<latex>", "", "  b", "", "  c"]).1 =
    [.codeLiteral "a", .codeLiteral "b\n\nc"] := by decide +kernel

end ScriptReport.Script

/-
  ScriptReport.Proofs.Script.RunningText

  Which lines of running text come into one paragraph. Each line is followed with the number of its
  block, from the pieces of the block to the paragraphs that are shown (`IsPlacing`). Lines of
  different blocks are in different paragraphs, with one exception: text that comes right behind
  empty regions at the front of a block goes on with the paragraph of an earlier block. Main
  statement: `paragraphs_apart_iff`.
-/

import ScriptReport.Proofs.Script.CarriedLines
import ScriptReport.Report.Render

namespace ScriptReport.Script

/-! ## Lines and their blocks -/

/-- The lines outside of all regions, without the tag lines. -/
def outside : Option Region → List Chars → List Chars
  | _, [] => []
  | some region, line :: rest =>
    if closes region line then outside none rest else outside (some region) rest
  | none, line :: rest =>
    match opens? line with
    | some region => outside (some region) rest
    | none => line :: outside none rest

/-- The lines of running text of a block, which has none if it is an item as a whole. -/
def textLines (lines : List Chars) : List Chars :=
  if (blockItem lines).1.isSome then [] else outside none lines

/-- A line of running text, with the number of its block. -/
abbrev Placed := Nat × Chars

/-- The lines of a block with its number. -/
def placedIn (n : Nat) (lines : List Chars) : List Placed := lines.map (n, ·)

/-- All lines of running text under a header, in order. -/
def placedLines (lines : List Chars) : List Placed :=
  (subBlocks lines).zipIdx.flatMap fun (block, n) => placedIn n (textLines block)

/-! ## Paragraphs -/

/-- A paragraph: lines that come one after another. -/
abbrev Paragraph := List Placed

/-- The text of a paragraph. -/
def Paragraph.text (p : Paragraph) : Chars := Text.unlines (p.map Prod.snd)

/-- All lines of the paragraph are of the same block. -/
def Paragraph.IsOfOneBlock (p : Paragraph) : Prop := ∀ a ∈ p, ∀ b ∈ p, a.1 = b.1

/-- The running text of an item. -/
def Item.text? : Item → Option Chars
  | .text t => some t
  | _ => none

/-- The paragraphs are those of the items of running text: with an empty line between neighbours
    they make up the texts of the items, they are the paragraphs that are shown, and together they
    have just the lines of running text, in order. -/
structure IsPlacing (lines : List Chars) (placed : List (List Paragraph)) : Prop where
  texts : (readItems lines).1.filterMap Item.text? =
    placed.map fun paragraphs => Text.join "\n\n" (paragraphs.map Paragraph.text)
  shown : ((readItems lines).1.filterMap Item.text?).map Report.paragraphs =
    placed.map (·.map Paragraph.text)
  carried : placed.flatten.flatten = placedLines lines

/-- No paragraph has lines of different blocks. -/
def AreApart (placed : List (List Paragraph)) : Prop :=
  ∀ paragraphs ∈ placed, ∀ p ∈ paragraphs, p.IsOfOneBlock

/-! ## Text behind empty regions -/

/-- A region without lines. -/
def Piece.isEmptyRegion : Piece → Bool
  | .region _ [] _ => true
  | _ => false

/-- A piece of running text. -/
def Piece.isText : Piece → Bool
  | .text _ => true
  | .region _ _ _ => false

/-- The first piece that is not an empty region is running text. -/
def startWithText (ps : List Piece) : Bool :=
  (ps.dropWhile Piece.isEmptyRegion).head?.any Piece.isText

/-- The block starts with an empty region, and behind it and others like it comes running text. -/
def startsWithGap (lines : List Chars) : Bool :=
  (blockItem lines).1.isNone && (pieces lines).head?.any Piece.isEmptyRegion &&
    startWithText (pieces lines)

/-- The last of the items, which come the latest first, is running text. -/
def endInText : List Item → Bool
  | .text _ :: _ => true
  | _ => false

/-- One of the blocks starts with empty regions before its text where the items so far end with
    text. -/
def HasGap (r : Reading) (blocks : List Block) : Prop :=
  ∃ before block after, blocks = before ++ block :: after ∧
    endInText (before.foldl Reading.add r).items = true ∧ startsWithGap block.lines = true

variable {lines : List Chars} {items : List Item} {n : Nat} {p : Paragraph}

theorem map_snd_placedIn (n : Nat) (lines : List Chars) :
    (placedIn n lines).map Prod.snd = lines := by
  rw [placedIn, List.map_map]
  exact List.map_id _

theorem fst_of_mem_placedIn {a : Placed} (h : a ∈ placedIn n lines) : a.1 = n := by
  obtain ⟨line, -, rfl⟩ := List.mem_map.mp h
  rfl

theorem isOfOneBlock_of_forall (h : ∀ a ∈ p, a.1 = n) : p.IsOfOneBlock :=
  fun a ha b hb => (h a ha).trans (h b hb).symm

/-! ## Texts fall into their paragraphs -/

/-- Lines without an empty one among them belong to the first paragraph of what they start. -/
theorem splitOn_unlines_append (h : AreBlockLines lines) {rest piece : Chars} {more : List Chars}
    (hrest : Text.splitOn "\n\n" rest = piece :: more) :
    Text.splitOn "\n\n" (Text.unlines lines ++ rest) = (Text.unlines lines ++ piece) :: more := by
  induction lines with
  | nil => exact hrest
  | cons line others ih =>
    obtain ⟨hline, hothers⟩ := List.forall_mem_cons.mp h
    cases others with
    | nil =>
      obtain ⟨first, later, hsplit, hall⟩ := Text.splitOn_append_left hline.2 "\n" rest
      obtain ⟨rfl, rfl⟩ := List.cons.inj (hrest.symm.trans hsplit)
      exact hall
    | cons next others =>
      have hafter := ih hothers
      -- the line feed behind the line is followed by a character of the next line
      have hnot : ¬ "\n\n".toList.isPrefixOf
          ('\n' :: (Text.unlines (next :: others) ++ rest)) = true := by
        have hne : next ≠ [] := AreBlockLines.ne_nil hothers List.mem_cons_self
        obtain ⟨c, cs, rfl⟩ := List.exists_cons_of_ne_nil hne
        have hc : c ≠ '\n' := fun heq => (hothers _ List.mem_cons_self).2 (heq ▸ List.mem_cons_self)
        cases others <;> simp [Text.unlines, Text.join, List.isPrefixOf, Ne.symm hc]
      have hfeed : Text.splitOn "\n\n" ('\n' :: (Text.unlines (next :: others) ++ rest)) =
          ('\n' :: (Text.unlines (next :: others) ++ piece)) :: more := by
        rw [Text.splitOn] at hafter ⊢
        rw [Text.splitOnGo, if_neg hnot, hafter]
        rfl
      obtain ⟨first, later, hsplit, hall⟩ := Text.splitOn_append_left hline.2 "\n"
        ('\n' :: (Text.unlines (next :: others) ++ rest))
      obtain ⟨rfl, rfl⟩ := List.cons.inj (hfeed.symm.trans hsplit)
      rw [Text.unlines_cons_cons, List.append_assoc, List.append_assoc]
      exact hall

/-- A paragraph with lines, each as blocks have them. -/
def Paragraph.IsFull (p : Paragraph) : Prop := p ≠ [] ∧ AreBlockLines (p.map Prod.snd)

theorem isFull_placedIn (hne : lines ≠ []) (h : AreBlockLines lines) (n : Nat) :
    Paragraph.IsFull (placedIn n lines) := by
  refine ⟨by simpa [placedIn] using hne, ?_⟩
  rwa [map_snd_placedIn]

theorem Paragraph.IsFull.append {q : Paragraph} (hp : p.IsFull) (hq : q.IsFull) :
    Paragraph.IsFull (p ++ q) := by
  refine ⟨List.append_ne_nil_of_left_ne_nil hp.1 q, ?_⟩
  rw [List.map_append]
  intro line hline
  rcases List.mem_append.mp hline with h | h
  · exact hp.2 line h
  · exact hq.2 line h

theorem splitOn_join_paragraphs {paragraphs : List Paragraph} (hne : paragraphs ≠ [])
    (h : ∀ p ∈ paragraphs, p.IsFull) :
    Text.splitOn "\n\n" (Text.join "\n\n" (paragraphs.map Paragraph.text)) =
      paragraphs.map Paragraph.text := by
  induction paragraphs with
  | nil => exact absurd rfl hne
  | cons p rest ih =>
    obtain ⟨hp, hrest⟩ := List.forall_mem_cons.mp h
    cases rest with
    | nil =>
      have hsplit := splitOn_unlines_append hp.2 (show Text.splitOn "\n\n" [] = [[]] from rfl)
      simpa [Paragraph.text] using hsplit
    | cons q rest =>
      have hafter := ih (List.cons_ne_nil q rest) hrest
      have hcut : Text.splitOn "\n\n"
          ("\n\n" ++ Text.join "\n\n" ((q :: rest).map Paragraph.text)) =
            [] :: (q :: rest).map Paragraph.text := by
        rw [Text.splitOn_separator_append (by decide), hafter]
      have hsplit := splitOn_unlines_append hp.2 hcut
      rw [List.append_nil] at hsplit
      rw [List.map_cons, Text.join_cons (by simp), List.append_assoc]
      exact hsplit

/-- Paragraphs with empty lines between them are shown as they are. -/
theorem paragraphs_join {paragraphs : List Paragraph} (hne : paragraphs ≠ [])
    (h : ∀ p ∈ paragraphs, p.IsFull) :
    Report.paragraphs (Text.join "\n\n" (paragraphs.map Paragraph.text)) =
      paragraphs.map Paragraph.text := by
  rw [Report.paragraphs, splitOn_join_paragraphs hne h]
  refine List.filter_eq_self.mpr fun text htext => ?_
  obtain ⟨p, hp, rfl⟩ := List.mem_map.mp htext
  -- its first line is not blank
  obtain ⟨hlines, hfull⟩ := h p hp
  obtain ⟨⟨n, line⟩, rest, rfl⟩ := List.exists_cons_of_ne_nil hlines
  have hline : Text.isBlank line = false := (hfull line (by simp)).1
  have htext : Paragraph.text ((n, line) :: rest) =
      line ++ Text.unlines ([] :: rest.map Prod.snd) := by
    rw [← Text.unlines_append_cons, List.append_nil]
    rfl
  rw [htext, Text.isBlank, List.all_append]
  rw [Text.isBlank] at hline
  rw [hline]
  rfl

/-! ## Following the lines

The paragraphs of the items read so far, the latest item and in it the latest paragraph coming
first; an item that is not running text has none. -/

/-- The paragraphs with one more at the end. -/
def addParagraph (p : Paragraph) : List (List Paragraph) → List (List Paragraph)
  | (q :: qs) :: rest => (p :: q :: qs) :: rest
  | marks => [p] :: marks

/-- The paragraphs, the last of them with more lines. -/
def extendParagraph (p : Paragraph) : List (List Paragraph) → List (List Paragraph)
  | (q :: qs) :: rest => ((q ++ p) :: qs) :: rest
  | marks => [p] :: marks

/-- The paragraphs behind a piece of the block with the given number. -/
def followPiece (n : Nat) (first : Bool) (marks : List (List Paragraph)) :
    Piece → List (List Paragraph)
  | .text lines =>
    if first then addParagraph (placedIn n lines) marks
    else extendParagraph (placedIn n lines) marks
  | .region _ [] _ => marks
  | .region _ (_ :: _) _ => [] :: marks

/-- The paragraphs behind all pieces of a block. -/
def followPieces (n : Nat) (marks : List (List Paragraph)) : List Piece → List (List Paragraph)
  | [] => marks
  | piece :: rest => rest.foldl (followPiece n false) (followPiece n true marks piece)

/-- The text that paragraphs make up, the latest coming first. -/
def textOf (marks : List Paragraph) : Chars :=
  Text.join "\n\n" (marks.reverse.map Paragraph.text)

/-- The paragraphs are those of the item, the latest first. -/
def Item.Shows : Item → List Paragraph → Prop
  | .text t, marks => marks ≠ [] ∧ (∀ p ∈ marks, p.IsFull) ∧ t = textOf marks
  | _, marks => marks = []

variable {marks : List (List Paragraph)}

theorem textOf_cons {qs : List Paragraph} (h : qs ≠ []) (p : Paragraph) :
    textOf (p :: qs) = textOf qs ++ "\n\n" ++ p.text := by
  have hbefore : qs.reverse.map Paragraph.text ≠ [] := by simpa using h
  rw [textOf, List.reverse_cons, List.map_append, List.map_singleton, Text.join_concat hbefore]
  rfl

theorem text_append {q : Paragraph} (hq : q ≠ []) (hp : p ≠ []) :
    Paragraph.text (q ++ p) = q.text ++ "\n" ++ p.text := by
  rw [Paragraph.text, List.map_append]
  exact Text.join_append (by simpa using hq) (by simpa using hp)

theorem textOf_append {q : Paragraph} (hq : q ≠ []) (hp : p ≠ []) (qs : List Paragraph) :
    textOf ((q ++ p) :: qs) = textOf (q :: qs) ++ "\n" ++ p.text := by
  by_cases h : qs = []
  · subst h
    exact text_append hq hp
  · rw [textOf_cons h, textOf_cons h, text_append hq hp]
    simp only [List.append_assoc]

/-- Running text starts an item where there is no running text before it. -/
theorem shows_text (hne : lines ≠ []) (hlines : AreBlockLines lines) (n : Nat) :
    Item.Shows (.text (Text.unlines lines)) [placedIn n lines] := by
  refine ⟨List.cons_ne_nil _ _, List.forall_mem_singleton.mpr (isFull_placedIn hne hlines n), ?_⟩
  show Text.unlines lines = Text.unlines ((placedIn n lines).map Prod.snd)
  rw [map_snd_placedIn]

theorem shows_addParagraph (h : List.Forall₂ Item.Shows items marks) (hne : lines ≠ [])
    (hlines : AreBlockLines lines) (n : Nat) :
    List.Forall₂ Item.Shows (addText "\n\n" lines items)
      (addParagraph (placedIn n lines) marks) := by
  have hnew := shows_text hne hlines n
  cases h with
  | nil => exact .cons hnew .nil
  | @cons item paragraphs items marks hitem hrest =>
    cases item with
    | text t =>
      obtain ⟨hmarks, hall, rfl⟩ := hitem
      obtain ⟨q, qs, rfl⟩ := List.exists_cons_of_ne_nil hmarks
      have hfull := isFull_placedIn hne hlines n
      refine .cons ⟨List.cons_ne_nil _ _, List.forall_mem_cons.mpr ⟨hfull, hall⟩, ?_⟩ hrest
      rw [textOf_cons hmarks, Paragraph.text, map_snd_placedIn]
    | _ =>
      cases (show paragraphs = [] from hitem)
      exact .cons hnew (.cons hitem hrest)

theorem shows_extendParagraph (h : List.Forall₂ Item.Shows items marks) (hne : lines ≠ [])
    (hlines : AreBlockLines lines) (n : Nat) :
    List.Forall₂ Item.Shows (addText "\n" lines items)
      (extendParagraph (placedIn n lines) marks) := by
  have hnew := shows_text hne hlines n
  cases h with
  | nil => exact .cons hnew .nil
  | @cons item paragraphs items marks hitem hrest =>
    cases item with
    | text t =>
      obtain ⟨hmarks, hall, rfl⟩ := hitem
      obtain ⟨q, qs, rfl⟩ := List.exists_cons_of_ne_nil hmarks
      obtain ⟨hq, hqs⟩ := List.forall_mem_cons.mp hall
      have hfull := isFull_placedIn hne hlines n
      refine .cons ⟨List.cons_ne_nil _ _, List.forall_mem_cons.mpr ⟨hq.append hfull, hqs⟩, ?_⟩ hrest
      rw [textOf_append hq.1 hfull.1, Paragraph.text, map_snd_placedIn]
    | _ =>
      cases (show paragraphs = [] from hitem)
      exact .cons hnew (.cons hitem hrest)

/-- The lines of running text in a piece. -/
def Piece.textLines : Piece → List Chars
  | .text lines => lines
  | .region _ _ _ => []

/-- A piece of a block: its lines are lines of a block, and running text has some. -/
def Piece.IsFull (piece : Piece) : Prop :=
  AreBlockLines piece.lines ∧ (piece.isText = true → piece.lines ≠ [])

theorem shows_followPiece (h : List.Forall₂ Item.Shows items marks) {piece : Piece}
    (hpiece : piece.IsFull) (n : Nat) (first : Bool) :
    List.Forall₂ Item.Shows (addPiece first items piece) (followPiece n first marks piece) := by
  cases piece with
  | text lines =>
    cases first with
    | true => exact shows_addParagraph h (hpiece.2 rfl) hpiece.1 n
    | false => exact shows_extendParagraph h (hpiece.2 rfl) hpiece.1 n
  | region kind lines closed =>
    cases lines with
    | nil => exact h
    | cons line rest =>
      cases kind with
      | html => exact .cons rfl h
      | latex => exact .cons rfl h

theorem shows_followPieces (h : List.Forall₂ Item.Shows items marks) {ps : List Piece}
    (hps : ∀ piece ∈ ps, piece.IsFull) (n : Nat) :
    List.Forall₂ Item.Shows (addPieces items ps) (followPieces n marks ps) := by
  have hrest (ps : List Piece) (hps : ∀ piece ∈ ps, piece.IsFull) (items : List Item)
      (marks : List (List Paragraph)) (h : List.Forall₂ Item.Shows items marks) :
      List.Forall₂ Item.Shows (ps.foldl (addPiece false) items)
        (ps.foldl (followPiece n false) marks) := by
    induction ps generalizing items marks with
    | nil => exact h
    | cons piece ps ih =>
      obtain ⟨hpiece, hps⟩ := List.forall_mem_cons.mp hps
      exact ih hps _ _ (shows_followPiece h hpiece n false)
  cases ps with
  | nil => exact h
  | cons piece ps =>
    obtain ⟨hpiece, hps⟩ := List.forall_mem_cons.mp hps
    exact hrest ps hps _ _ (shows_followPiece h hpiece n true)

/-- A block that is an item as a whole leaves the paragraphs alone; it may be joined to the item
    before it, which then is not running text either. -/
theorem shows_addItem (h : List.Forall₂ Item.Shows items marks) {item : Item}
    (hitem : item.text? = none) (gap : Nat) (running : Option Running) :
    List.Forall₂ Item.Shows (addItem gap running items item).1 marks ∨
      List.Forall₂ Item.Shows (addItem gap running items item).1 ([] :: marks) := by
  have hshows : item.Shows [] := by
    cases item with
    | text t => cases hitem
    | _ => rfl
  unfold addItem
  split
  · cases h with
    | cons hlast hrest => exact .inl (.cons hlast hrest)
  · cases h with
    | cons hlast hrest => exact .inl (.cons hlast hrest)
  · exact .inr (.cons rfl h)
  · exact .inr (.cons rfl h)
  · exact .inr (.cons hshows h)

theorem text?_taggedItem {item : Item} (h : (taggedItem lines).1 = some item) :
    item.text? = none := by
  unfold taggedItem at h
  split at h
  · cases h; rfl
  · split at h
    · cases h; rfl
    · cases h

/-- No block is running text as a whole: running text is what is left. -/
theorem text?_blockItem {item : Item} (h : (blockItem lines).1 = some item) :
    item.text? = none := by
  unfold blockItem at h
  split_ifs at h
  · cases h; rfl
  · cases h; rfl
  · split at h
    · cases h; rfl
    · cases h; rfl
    · exact text?_taggedItem h

/-! ## No line is lost -/

/-- All lines of the paragraphs, in order. -/
def linesOfMarks (marks : List (List Paragraph)) : List Placed :=
  (marks.reverse.map List.reverse).flatten.flatten

theorem linesOfMarks_cons (paragraphs : List Paragraph) (marks : List (List Paragraph)) :
    linesOfMarks (paragraphs :: marks) = linesOfMarks marks ++ paragraphs.reverse.flatten := by
  simp [linesOfMarks]

theorem linesOfMarks_addParagraph (p : Paragraph) (marks : List (List Paragraph)) :
    linesOfMarks (addParagraph p marks) = linesOfMarks marks ++ p := by
  unfold addParagraph
  split
  · simp [linesOfMarks_cons]
  · simp [linesOfMarks_cons]

theorem linesOfMarks_extendParagraph (p : Paragraph) (marks : List (List Paragraph)) :
    linesOfMarks (extendParagraph p marks) = linesOfMarks marks ++ p := by
  unfold extendParagraph
  split
  · simp [linesOfMarks_cons]
  · simp [linesOfMarks_cons]

theorem linesOfMarks_followPiece (n : Nat) (first : Bool) (marks : List (List Paragraph))
    (piece : Piece) : linesOfMarks (followPiece n first marks piece) =
      linesOfMarks marks ++ placedIn n piece.textLines := by
  cases piece with
  | text lines =>
    cases first with
    | true => exact linesOfMarks_addParagraph _ _
    | false => exact linesOfMarks_extendParagraph _ _
  | region kind lines closed =>
    cases lines with
    | nil => exact (List.append_nil _).symm
    | cons line rest => exact linesOfMarks_cons [] marks

theorem linesOfMarks_followPieces (n : Nat) (marks : List (List Paragraph)) (ps : List Piece) :
    linesOfMarks (followPieces n marks ps) =
      linesOfMarks marks ++ placedIn n (ps.flatMap Piece.textLines) := by
  have hrest (ps : List Piece) (marks : List (List Paragraph)) :
      linesOfMarks (ps.foldl (followPiece n false) marks) =
        linesOfMarks marks ++ placedIn n (ps.flatMap Piece.textLines) := by
    induction ps generalizing marks with
    | nil => exact (List.append_nil _).symm
    | cons piece ps ih =>
      rw [List.foldl_cons, ih, linesOfMarks_followPiece, List.flatMap_cons, placedIn, placedIn,
        placedIn, List.map_append, List.append_assoc]
  cases ps with
  | nil => exact (List.append_nil _).symm
  | cons piece ps =>
    rw [followPieces, hrest, linesOfMarks_followPiece, List.flatMap_cons, placedIn, placedIn,
      placedIn, List.map_append, List.append_assoc]

theorem outside_region (region : Region) (lines : List Chars) :
    outside (some region) lines = outside none ((lines.dropWhile (!closes region ·)).drop 1) := by
  induction lines with
  | nil => rfl
  | cons line rest ih =>
    rw [outside]
    cases hcloses : closes region line with
    | true =>
      rw [List.dropWhile_cons_of_neg (by simp [hcloses])]
      rfl
    | false =>
      rw [List.dropWhile_cons_of_pos (by simp [hcloses]), ← ih]
      rfl

theorem outside_text (lines : List Chars) :
    outside none lines = lines.takeWhile (fun l => (opens? l).isNone) ++
      outside none (lines.dropWhile fun l => (opens? l).isNone) := by
  induction lines with
  | nil => rfl
  | cons line rest ih =>
    cases hopens : opens? line with
    | none =>
      have hline : outside none (line :: rest) = line :: outside none rest := by
        rw [outside, hopens]
      rw [hline, ih, List.takeWhile_cons_of_pos (by simp [hopens]),
        List.dropWhile_cons_of_pos (by simp [hopens]), List.cons_append, ← ih]
    | some region =>
      rw [List.takeWhile_cons_of_neg (by simp [hopens]),
        List.dropWhile_cons_of_neg (by simp [hopens])]
      rfl

/-- The running text in the pieces of a block is what stands outside of regions. -/
theorem textLines_pieces (lines : List Chars) :
    (pieces lines).flatMap Piece.textLines = outside none lines := by
  refine pieces_induction
    (motive := fun lines ps => ps.flatMap Piece.textLines = outside none lines) rfl ?_ ?_ ?_ lines
  · intro line rest region hopens hunclosed
    have hline : outside none (line :: rest) = outside (some region) rest := by
      rw [outside, hopens]
    rw [hline, outside_region, hunclosed]
    rfl
  · intro line rest region close after hopens hclosed ih
    have hline : outside none (line :: rest) = outside (some region) rest := by
      rw [outside, hopens]
    rw [hline, outside_region, hclosed, List.drop_one, List.tail_cons, List.flatMap_cons, ih]
    rfl
  · intro line rest hopens ih
    have hline : outside none (line :: rest) = line :: outside none rest := by
      rw [outside, hopens]
    rw [hline, outside_text, ← ih]
    rfl

theorem ne_nil_of_text_mem_pieces {texts : List Chars} (h : .text texts ∈ pieces lines) :
    texts ≠ [] := by
  revert h
  refine pieces_induction (motive := fun _ ps => .text texts ∈ ps → texts ≠ []) ?_ ?_ ?_ ?_ lines
  · exact fun h => absurd h List.not_mem_nil
  · intro line rest region _ _ h
    cases List.mem_singleton.mp h
  · intro line rest region close after _ _ ih h
    exact ih ((List.mem_cons.mp h).resolve_left fun heq => by cases heq)
  · intro line rest _ ih h
    rcases List.mem_cons.mp h with heq | hrest
    · cases heq
      exact List.cons_ne_nil _ _
    · exact ih hrest

theorem isFull_of_mem_pieces (h : AreBlockLines lines) {piece : Piece}
    (hpiece : piece ∈ pieces lines) : piece.IsFull := by
  refine ⟨areBlockLines_of_mem_pieces h hpiece, fun htext => ?_⟩
  cases piece with
  | text texts => exact ne_nil_of_text_mem_pieces hpiece
  | region kind texts closed => cases htext

/-! ## Lines of different blocks in one paragraph -/

/-- The last paragraph, if running text comes last, has only lines of the block. -/
def IsCurrent (n : Nat) : List (List Paragraph) → Prop
  | (q :: _) :: _ => ∀ a ∈ q, a.1 = n
  | _ => True

theorem areApart_cons {paragraphs : List Paragraph} :
    AreApart (paragraphs :: marks) ↔
      (∀ p ∈ paragraphs, p.IsOfOneBlock) ∧ AreApart marks :=
  List.forall_mem_cons

theorem areApart_nil_cons : AreApart ([] :: marks) ↔ AreApart marks :=
  areApart_cons.trans (and_iff_right fun _ hp => absurd hp List.not_mem_nil)

theorem isOfOneBlock_placedIn (n : Nat) (lines : List Chars) :
    Paragraph.IsOfOneBlock (placedIn n lines) :=
  isOfOneBlock_of_forall fun _ => fst_of_mem_placedIn

/-- A new paragraph is of its block, and other paragraphs stay as they are. -/
theorem areApart_addParagraph (n : Nat) (lines : List Chars) (marks : List (List Paragraph)) :
    (AreApart (addParagraph (placedIn n lines) marks) ↔ AreApart marks) ∧
      IsCurrent n (addParagraph (placedIn n lines) marks) := by
  have hp := isOfOneBlock_placedIn n lines
  unfold addParagraph
  split
  · refine ⟨?_, fun a => fst_of_mem_placedIn⟩
    simp only [areApart_cons, List.forall_mem_cons, hp, true_and]
  · refine ⟨?_, fun a => fst_of_mem_placedIn⟩
    simp only [areApart_cons, List.forall_mem_singleton, hp, true_and]

/-- More lines of the block that the last paragraph is of do no harm. -/
theorem areApart_extendParagraph (h : IsCurrent n marks) (lines : List Chars) :
    (AreApart (extendParagraph (placedIn n lines) marks) ↔ AreApart marks) ∧
      IsCurrent n (extendParagraph (placedIn n lines) marks) := by
  unfold extendParagraph
  split
  · next q qs rest =>
    have hq : ∀ a ∈ q, a.1 = n := h
    have hboth : ∀ a ∈ q ++ placedIn n lines, a.1 = n := by
      intro a ha
      rcases List.mem_append.mp ha with ha | ha
      · exact hq a ha
      · exact fst_of_mem_placedIn ha
    refine ⟨?_, hboth⟩
    simp only [areApart_cons, List.forall_mem_cons, isOfOneBlock_of_forall hq,
      isOfOneBlock_of_forall hboth, true_and]
  · refine ⟨?_, fun a => fst_of_mem_placedIn⟩
    simp only [areApart_cons, List.forall_mem_singleton, isOfOneBlock_placedIn, true_and]

theorem areApart_of_extendParagraph (h : AreApart (extendParagraph p marks)) : AreApart marks := by
  unfold extendParagraph at h
  split at h
  · rw [areApart_cons, List.forall_mem_cons] at h ⊢
    refine ⟨⟨fun a ha b hb => ?_, h.1.2⟩, h.2⟩
    exact h.1.1 a (List.mem_append_left _ ha) b (List.mem_append_left _ hb)
  · exact (areApart_cons.mp h).2

/-- Paragraphs that have come to be of different blocks stay so. -/
theorem areApart_of_followPiece {piece : Piece} (h : AreApart (followPiece n false marks piece)) :
    AreApart marks := by
  cases piece with
  | text lines => exact areApart_of_extendParagraph h
  | region kind lines closed =>
    cases lines with
    | nil => exact h
    | cons line rest => exact (areApart_cons.mp h).2

theorem areApart_of_foldl {ps : List Piece} (h : AreApart (ps.foldl (followPiece n false) marks)) :
    AreApart marks := by
  induction ps generalizing marks with
  | nil => exact h
  | cons piece ps ih => exact areApart_of_followPiece (ih h)

/-- Behind text or a region of the block, the rest of it does no harm. -/
theorem areApart_foldl_of_isCurrent (h : IsCurrent n marks) (ps : List Piece) :
    AreApart (ps.foldl (followPiece n false) marks) ↔ AreApart marks := by
  induction ps generalizing marks with
  | nil => exact Iff.rfl
  | cons piece ps ih =>
    rw [List.foldl_cons]
    cases piece with
    | text lines =>
      obtain ⟨hiff, hcurrent⟩ := areApart_extendParagraph h lines
      exact (ih hcurrent).trans hiff
    | region kind lines closed =>
      cases lines with
      | nil => exact ih h
      | cons line rest =>
        have hcurrent : IsCurrent n ([] :: marks) := trivial
        exact (ih hcurrent).trans areApart_nil_cons

/-- A region with lines ends the paragraph before it for the rest of the block. -/
theorem areApart_foldl_nil_cons (ps : List Piece) :
    AreApart (ps.foldl (followPiece n false) ([] :: marks)) ↔ AreApart marks :=
  (areApart_foldl_of_isCurrent (show IsCurrent n ([] :: marks) from trivial) ps).trans
    areApart_nil_cons

/-- Text that goes on with a paragraph of an earlier block is in it with lines of that block. -/
theorem not_areApart_extendParagraph {q : Paragraph} {qs : List Paragraph}
    {rest : List (List Paragraph)} (hq : ∃ a ∈ q, a.1 ≠ n) (hne : lines ≠ []) :
    ¬ AreApart (extendParagraph (placedIn n lines) ((q :: qs) :: rest)) := by
  intro h
  obtain ⟨a, ha, hother⟩ := hq
  obtain ⟨line, others, rfl⟩ := List.exists_cons_of_ne_nil hne
  have hblock := (areApart_cons.mp h).1 _ List.mem_cons_self
  exact hother (hblock a (List.mem_append_left _ ha) (n, line)
    (List.mem_append_right _ List.mem_cons_self))

/-- The paragraphs come from blocks before the one with the given number. -/
def AreBefore (n : Nat) (marks : List (List Paragraph)) : Prop :=
  ∀ paragraphs ∈ marks, ∀ p ∈ paragraphs, p ≠ [] ∧ ∀ a ∈ p, a.1 < n

theorem exists_of_endInText (h : List.Forall₂ Item.Shows items marks)
    (hend : endInText items = true) : ∃ q qs rest, marks = (q :: qs) :: rest := by
  cases h with
  | nil => cases hend
  | @cons item paragraphs items marks hitem hrest =>
    cases item with
    | text t =>
      obtain ⟨q, qs, rfl⟩ := List.exists_cons_of_ne_nil hitem.1
      exact ⟨q, qs, marks, rfl⟩
    | _ => cases hend

theorem isCurrent_of_endInText (h : List.Forall₂ Item.Shows items marks)
    (hend : endInText items = false) (n : Nat) : IsCurrent n marks := by
  cases h with
  | nil => trivial
  | @cons item paragraphs items marks hitem hrest =>
    cases item with
    | text t => cases hend
    | _ =>
      cases (show paragraphs = [] from hitem)
      trivial

/-- Where nothing of the block has been read but empty regions, text comes into an earlier
    paragraph exactly if running text is the last thing before. -/
theorem areApart_foldl_of_areBefore (h : AreBefore n marks)
    (hmarks : List.Forall₂ Item.Shows items marks) {ps : List Piece}
    (hps : ∀ piece ∈ ps, piece.IsFull) :
    AreApart (ps.foldl (followPiece n false) marks) ↔
      AreApart marks ∧ ¬ (endInText items = true ∧ startWithText ps = true) := by
  induction ps with
  | nil => simp [startWithText]
  | cons piece ps ih =>
    obtain ⟨hpiece, hrest⟩ := List.forall_mem_cons.mp hps
    cases piece with
    | region kind lines closed =>
      cases lines with
      | nil => exact ih hrest
      | cons line rest =>
        rw [and_iff_left fun hboth => by cases hboth.2]
        exact areApart_foldl_nil_cons ps
    | text lines =>
      cases hend : endInText items with
      | true =>
        obtain ⟨q, qs, others, rfl⟩ := exists_of_endInText hmarks hend
        obtain ⟨hne, hbefore⟩ := h _ List.mem_cons_self q List.mem_cons_self
        obtain ⟨a, ha⟩ := List.exists_mem_of_ne_nil q hne
        have hjoined :
            ¬ AreApart (extendParagraph (placedIn n lines) ((q :: qs) :: others)) :=
          not_areApart_extendParagraph ⟨a, ha, (hbefore a ha).ne⟩ (hpiece.2 rfl)
        exact iff_of_false (fun hall => hjoined (areApart_of_foldl hall))
          fun hboth => hboth.2 ⟨rfl, rfl⟩
      | false =>
        obtain ⟨hiff, hcurrent⟩ :=
          areApart_extendParagraph (isCurrent_of_endInText hmarks hend n) lines
        rw [and_iff_left fun hboth => by cases hboth.1]
        exact (areApart_foldl_of_isCurrent hcurrent ps).trans hiff

/-- The pieces of a block put lines into an earlier paragraph exactly if text comes behind empty
    regions at its front, and running text is the last thing before. -/
theorem areApart_followPieces (h : AreBefore n marks)
    (hmarks : List.Forall₂ Item.Shows items marks) {ps : List Piece}
    (hps : ∀ piece ∈ ps, piece.IsFull) :
    AreApart (followPieces n marks ps) ↔
      AreApart marks ∧ ¬ (endInText items = true ∧
        (ps.head?.any Piece.isEmptyRegion && startWithText ps) = true) := by
  cases ps with
  | nil => simp [followPieces]
  | cons piece ps =>
    obtain ⟨hpiece, hrest⟩ := List.forall_mem_cons.mp hps
    cases piece with
    | text lines =>
      obtain ⟨hiff, hcurrent⟩ := areApart_addParagraph n lines marks
      rw [and_iff_left fun hboth => by cases hboth.2]
      exact (areApart_foldl_of_isCurrent hcurrent ps).trans hiff
    | region kind lines closed =>
      cases lines with
      | nil => exact areApart_foldl_of_areBefore h hmarks hrest
      | cons line rest =>
        rw [and_iff_left fun hboth => by cases hboth.2]
        exact areApart_foldl_nil_cons ps

/-! ## Blocks -/

/-- The paragraphs are those of the items read so far, from blocks before the one with the given
    number. -/
structure Follows (n : Nat) (r : Reading) (marks : List (List Paragraph)) : Prop where
  shows : List.Forall₂ Item.Shows r.items marks
  before : ∀ a ∈ linesOfMarks marks, a.1 < n

theorem mem_linesOfMarks {a : Placed} :
    a ∈ linesOfMarks marks ↔ ∃ paragraphs ∈ marks, ∃ p ∈ paragraphs, a ∈ p := by
  simp only [linesOfMarks, List.mem_flatten, List.mem_map, List.mem_reverse]
  constructor
  · rintro ⟨p, ⟨-, ⟨paragraphs, hparagraphs, rfl⟩, hp⟩, ha⟩
    exact ⟨paragraphs, hparagraphs, p, List.mem_reverse.mp hp, ha⟩
  · rintro ⟨paragraphs, hparagraphs, p, hp, ha⟩
    exact ⟨p, ⟨_, ⟨paragraphs, hparagraphs, rfl⟩, List.mem_reverse.mpr hp⟩, ha⟩

theorem isFull_of_shows {item : Item} {paragraphs : List Paragraph} (h : item.Shows paragraphs)
    (hp : p ∈ paragraphs) : p.IsFull := by
  cases item with
  | text t => exact h.2.1 p hp
  | _ =>
    cases (show paragraphs = [] from h)
    exact absurd hp List.not_mem_nil

theorem isFull_of_forall₂ (h : List.Forall₂ Item.Shows items marks) :
    ∀ paragraphs ∈ marks, ∀ p ∈ paragraphs, p.IsFull := by
  induction h with
  | nil => exact fun _ h => absurd h List.not_mem_nil
  | cons hitem _ ih => exact List.forall_mem_cons.mpr ⟨fun _ => isFull_of_shows hitem, ih⟩

theorem Follows.areBefore {r : Reading} (h : Follows n r marks) : AreBefore n marks :=
  fun paragraphs hparagraphs p hp => ⟨(isFull_of_forall₂ h.shows paragraphs hparagraphs p hp).1,
    fun a ha => h.before a (mem_linesOfMarks.mpr ⟨paragraphs, hparagraphs, p, hp, ha⟩)⟩

/-- Reading one more block puts its lines of running text behind the others. -/
theorem Follows.add {r : Reading} (h : Follows n r marks) {block : Block}
    (hblock : AreBlockLines block.lines) :
    ∃ after, Follows (n + 1) (r.add block) after ∧
      linesOfMarks after = linesOfMarks marks ++ placedIn n (textLines block.lines) ∧
      (AreApart after ↔ AreApart marks ∧
        ¬ (endInText r.items = true ∧ startsWithGap block.lines = true)) := by
  have hbefore {after : List (List Paragraph)}
      (hlines : linesOfMarks after = linesOfMarks marks ++ placedIn n (textLines block.lines)) :
      ∀ a ∈ linesOfMarks after, a.1 < n + 1 := by
    intro a ha
    rw [hlines] at ha
    rcases List.mem_append.mp ha with hold | hnew
    · exact Nat.lt_succ_of_lt (h.before a hold)
    · exact (fst_of_mem_placedIn hnew).trans_lt (Nat.lt_succ_self n)
  cases hitem : (blockItem block.lines).1 with
  | some item =>
    have hadd : (r.add block).items = (addItem block.gap r.running r.items item).1 := by
      unfold Reading.add
      split
      · next heq => rw [heq] at hitem; cases hitem; rfl
      · next heq => rw [heq] at hitem; cases hitem
    have hlines : textLines block.lines = [] := by rw [textLines, hitem]; rfl
    have hgap : startsWithGap block.lines = false := by rw [startsWithGap, hitem]; rfl
    rw [hlines, hgap]
    rw [hlines] at hbefore
    rcases shows_addItem h.shows (text?_blockItem hitem) block.gap r.running with hsame | hmore
    · exact ⟨marks, ⟨hadd ▸ hsame, hbefore (by simp [placedIn])⟩, by simp [placedIn], by simp⟩
    · have hnone : linesOfMarks ([] :: marks) = linesOfMarks marks ++ placedIn n [] :=
        linesOfMarks_cons [] marks
      exact ⟨[] :: marks, ⟨hadd ▸ hmore, hbefore hnone⟩, hnone,
        by simp [areApart_nil_cons]⟩
  | none =>
    have hadd : (r.add block).items = addPieces r.items (pieces block.lines) := by
      unfold Reading.add
      split
      · next heq => rw [heq] at hitem; cases hitem
      · rfl
    have hgap : startsWithGap block.lines =
        ((pieces block.lines).head?.any Piece.isEmptyRegion &&
          startWithText (pieces block.lines)) := by
      rw [startsWithGap, hitem]
      rfl
    have hfull : ∀ piece ∈ pieces block.lines, piece.IsFull := fun _ => isFull_of_mem_pieces hblock
    have hlines : linesOfMarks (followPieces n marks (pieces block.lines)) =
        linesOfMarks marks ++ placedIn n (textLines block.lines) := by
      rw [linesOfMarks_followPieces, textLines_pieces, textLines, hitem]
      rfl
    refine ⟨_, ⟨?_, hbefore hlines⟩, hlines, ?_⟩
    · rw [hadd]
      exact shows_followPieces h.shows hfull n
    · rw [hgap]
      exact areApart_followPieces h.areBefore h.shows hfull

theorem hasGap_cons {r : Reading} {block : Block} {blocks : List Block} :
    HasGap r (block :: blocks) ↔
      (endInText r.items = true ∧ startsWithGap block.lines = true) ∨
        HasGap (r.add block) blocks := by
  constructor
  · rintro ⟨before, b, after, hblocks, hgap⟩
    cases before with
    | nil =>
      cases hblocks
      exact .inl hgap
    | cons first before =>
      cases hblocks
      exact .inr ⟨before, b, after, rfl, hgap⟩
  · rintro (hgap | ⟨before, b, after, rfl, hgap⟩)
    · exact ⟨[], block, blocks, rfl, hgap⟩
    · exact ⟨block :: before, b, after, rfl, hgap⟩

instance HasGap.decidable (r : Reading) : (blocks : List Block) → Decidable (HasGap r blocks)
  | [] => isFalse (by simp [HasGap])
  | block :: blocks =>
    have := HasGap.decidable (r.add block) blocks
    decidable_of_iff _ hasGap_cons.symm

/-- Reading blocks puts all their lines of running text into paragraphs, in order. -/
theorem Follows.foldl_add {r : Reading} (h : Follows n r marks) {blocks : List Block}
    (hblocks : ∀ block ∈ blocks, AreBlockLines block.lines) :
    ∃ after, List.Forall₂ Item.Shows (blocks.foldl Reading.add r).items after ∧
      linesOfMarks after = linesOfMarks marks ++ ((blocks.map Block.lines).zipIdx n).flatMap
        (fun (lines, k) => placedIn k (textLines lines)) ∧
      (AreApart after ↔ AreApart marks ∧ ¬ HasGap r blocks) := by
  induction blocks generalizing n r marks with
  | nil =>
    refine ⟨marks, h.shows, (List.append_nil _).symm, ?_⟩
    simp [HasGap]
  | cons block blocks ih =>
    obtain ⟨hblock, hrest⟩ := List.forall_mem_cons.mp hblocks
    obtain ⟨next, hnext, hnextLines, hnextApart⟩ := h.add hblock
    obtain ⟨after, hafter, hlines, hapart⟩ := ih hnext hrest
    refine ⟨after, hafter, ?_, ?_⟩
    · rw [hlines, hnextLines, List.append_assoc]
      rfl
    · rw [hapart, hnextApart, hasGap_cons, not_or, and_assoc]

/-! ## From the last item to the first -/

/-- The paragraphs in the order of the text, only those of running text. -/
def inOrder (marks : List (List Paragraph)) : List (List Paragraph) :=
  ((marks.filter (· ≠ [])).map List.reverse).reverse

theorem texts_of_forall₂ (h : List.Forall₂ Item.Shows items marks) :
    items.filterMap Item.text? = (marks.filter (· ≠ [])).map textOf := by
  induction h with
  | nil => rfl
  | @cons item paragraphs items marks hitem _ ih =>
    cases item with
    | text t =>
      obtain ⟨hne, -, rfl⟩ := hitem
      rw [List.filter_cons_of_pos (by simpa using hne), List.map_cons, ← ih]
      rfl
    | _ =>
      cases (show paragraphs = [] from hitem)
      rw [List.filter_cons_of_neg (by simp), ← ih]
      rfl

theorem flatten_flatten_inOrder (marks : List (List Paragraph)) :
    (inOrder marks).flatten.flatten = linesOfMarks marks := by
  induction marks with
  | nil => rfl
  | cons paragraphs marks ih =>
    rw [linesOfMarks_cons, ← ih]
    by_cases h : paragraphs = []
    · subst h
      exact (List.append_nil _).symm
    · rw [inOrder, List.filter_cons_of_pos (by simpa using h), List.map_cons, List.reverse_cons,
        List.flatten_append, List.flatten_append, List.flatten_singleton]
      rfl

theorem mem_inOrder {paragraphs : List Paragraph} :
    paragraphs ∈ inOrder marks ↔ paragraphs ≠ [] ∧ paragraphs.reverse ∈ marks := by
  simp only [inOrder, List.mem_reverse, List.mem_map, List.mem_filter, decide_eq_true_eq]
  constructor
  · rintro ⟨_, ⟨hmem, hne⟩, rfl⟩
    rw [List.reverse_reverse]
    exact ⟨by simpa using hne, hmem⟩
  · rintro ⟨hne, hmem⟩
    exact ⟨_, ⟨hmem, by simpa using hne⟩, List.reverse_reverse _⟩

theorem areApart_inOrder : AreApart (inOrder marks) ↔ AreApart marks := by
  constructor
  · intro h paragraphs hparagraphs p hp
    have hmem : paragraphs.reverse ∈ inOrder marks := by
      rw [mem_inOrder, List.reverse_reverse]
      exact ⟨by simpa using List.ne_nil_of_mem hp, hparagraphs⟩
    exact h _ hmem p (List.mem_reverse.mpr hp)
  · intro h paragraphs hparagraphs p hp
    exact h _ (mem_inOrder.mp hparagraphs).2 p (List.mem_reverse.mpr hp)

/-! ## Main statement -/

theorem isPlacing_inOrder (hitems : List.Forall₂ Item.Shows items marks)
    (hread : (readItems lines).1 = items.reverse)
    (hlines : linesOfMarks marks = placedLines lines) : IsPlacing lines (inOrder marks) := by
  have htexts : (readItems lines).1.filterMap Item.text? =
      (inOrder marks).map fun paragraphs => Text.join "\n\n" (paragraphs.map Paragraph.text) := by
    rw [hread, List.filterMap_reverse, texts_of_forall₂ hitems, inOrder, List.map_reverse,
      List.map_map]
    rfl
  refine ⟨htexts, ?_, (flatten_flatten_inOrder marks).trans hlines⟩
  rw [htexts, List.map_map]
  refine List.map_congr_left fun paragraphs hparagraphs => ?_
  obtain ⟨hne, hmem⟩ := mem_inOrder.mp hparagraphs
  exact paragraphs_join hne fun p hp =>
    isFull_of_forall₂ hitems _ hmem p (List.mem_reverse.mpr hp)

/-- The lines of running text are lines of blocks. -/
theorem areBlockLines_placedLines (h : ∀ line ∈ lines, '\n' ∉ line) :
    AreBlockLines ((placedLines lines).map Prod.snd) := by
  intro line hline
  obtain ⟨a, ha, rfl⟩ := List.mem_map.mp hline
  obtain ⟨⟨block, k⟩, hblock, ha⟩ := List.mem_flatMap.mp ha
  obtain ⟨text, htext, rfl⟩ := List.mem_map.mp ha
  have hmem : block ∈ (blocks lines).map Block.lines := by
    rw [lines_blocks]
    exact (List.mem_zipIdx hblock).2.2 ▸ List.getElem_mem _
  obtain ⟨block, hin, rfl⟩ := List.mem_map.mp hmem
  rw [textLines] at htext
  split_ifs at htext
  · exact absurd htext List.not_mem_nil
  · rw [← textLines_pieces] at htext
    obtain ⟨piece, hpiece, htext⟩ := List.mem_flatMap.mp htext
    refine areBlockLines_of_mem_pieces (areBlockLines_of_mem_blocks h hin) hpiece text ?_
    cases piece with
    | text texts => exact htext
    | region kind texts closed => exact absurd htext List.not_mem_nil

/-- There is at most one way: the texts that are shown tell how many lines a paragraph has. -/
theorem IsPlacing.unique {placed other : List (List Paragraph)}
    (hlines : ∀ line ∈ lines, '\n' ∉ line) (h : IsPlacing lines placed)
    (hother : IsPlacing lines other) : other = placed := by
  have hlength {placed : List (List Paragraph)} (h : IsPlacing lines placed) :
      placed.flatten.map List.length =
        (placed.flatten.map Paragraph.text).map fun text => (fullLines text).length := by
    rw [List.map_map]
    refine List.map_congr_left fun p hp => ?_
    have hp : AreBlockLines (p.map Prod.snd) := by
      refine (areBlockLines_placedLines hlines).subset ?_
      rw [← h.carried]
      exact List.map_subset _ fun a ha => List.mem_flatten.mpr ⟨p, hp, ha⟩
    rw [Function.comp_apply, Paragraph.text, fullLines_unlines hp, List.length_map]
  have hshown : other.map (·.map Paragraph.text) = placed.map (·.map Paragraph.text) :=
    hother.shown.symm.trans h.shown
  have htexts : other.flatten.map Paragraph.text = placed.flatten.map Paragraph.text := by
    rw [List.map_flatten, List.map_flatten, hshown]
  have hflatten : other.flatten = placed.flatten := by
    rw [List.eq_iff_flatten_eq, hlength h, hlength hother, htexts]
    exact ⟨hother.carried.trans h.carried.symm, rfl⟩
  rw [List.eq_iff_flatten_eq]
  refine ⟨hflatten, ?_⟩
  have hlengths := congrArg (List.map List.length) hshown
  simpa only [List.map_map, Function.comp_def, List.length_map] using hlengths

/-- Lines of running text of different blocks are never in one paragraph, unless a block starts
    with empty regions before its text and the items before it end with running text. -/
theorem paragraphs_apart_iff {lines : List Chars} (h : ∀ line ∈ lines, '\n' ∉ line) :
    (∃ placed, IsPlacing lines placed) ∧
      ∀ placed, IsPlacing lines placed → (AreApart placed ↔ ¬ HasGap {} (blocks lines)) := by
  have hstart : Follows 0 {} [] := ⟨.nil, fun a ha => absurd ha List.not_mem_nil⟩
  obtain ⟨marks, hitems, hlines, hapart⟩ :=
    hstart.foldl_add fun block hblock => areBlockLines_of_mem_blocks h hblock
  rw [lines_blocks] at hlines
  have hplacing : IsPlacing lines (inOrder marks) := isPlacing_inOrder hitems rfl hlines
  refine ⟨⟨_, hplacing⟩, fun placed hplaced => ?_⟩
  rw [hplacing.unique h hplaced, areApart_inOrder, hapart]
  exact and_iff_right fun _ hmem => absurd hmem List.not_mem_nil

/-- Running text around regions, around an empty one in its middle, and behind one at the front of
    a block that follows code. -/
def textBody : List Chars :=
  ["one", "two", "", "three", "<html>", "</html>", "four", "", "five", "<latex>", "x", "</latex>",
    "six", "", "  a = 1;", "", "<html>", "</html>", "seven"]

theorem paragraphs_apart_textBody :
    (∀ line ∈ textBody, '\n' ∉ line) ∧ ∃ placed, IsPlacing textBody placed ∧ AreApart placed := by
  have hfeeds : ∀ line ∈ textBody, '\n' ∉ line := by decide
  obtain ⟨⟨placed, hplaced⟩, hiff⟩ := paragraphs_apart_iff hfeeds
  refine ⟨hfeeds, placed, hplaced, (hiff placed hplaced).mpr ?_⟩
  decide +kernel

/-- Text, and a block that starts with an empty region before its text. -/
def gapBody : List Chars := ["one", "", "<html>", "</html>", "two"]

/-- The text of the second block goes on with the paragraph of the first. -/
theorem paragraphs_joined_gapBody :
    (∀ line ∈ gapBody, '\n' ∉ line) ∧
      IsPlacing gapBody [[[(0, "one"), (1, "two")]]] ∧
      ¬ AreApart [[[(0, "one"), (1, "two")]]] := by
  refine ⟨by decide, ⟨by decide +kernel, by decide +kernel, by decide +kernel⟩, fun h => ?_⟩
  exact absurd (h _ List.mem_cons_self _ List.mem_cons_self (0, "one") (by decide) (1, "two")
    (by decide)) (by decide)

end ScriptReport.Script

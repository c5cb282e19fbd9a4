/-
  ScriptReport.Proofs.Script.AsRead

  Documents as they are read from a script. Evaluation puts results into segments of code, and
  resolving the included files puts texts into items; a document as it is read has neither
  (`read_bare`, `areUnread_read`). Its segments of code are not blank (`not_isBlank_of_read`).
-/

import ScriptReport.Proofs.Script.Coverage
import ScriptReport.Script.Document
import Mathlib.Tactic.SplitIfs

namespace ScriptReport.Script

/-! ## Results -/

/-- The segment as it is before its code is run. -/
def Segment.bare : Segment → Segment
  | .code c => .code { c with result := none }
  | .header h => .header h

/-- The document as it is before its code is run. -/
def Document.bare (doc : Document) : Document := { doc with body := doc.body.map Segment.bare }

theorem Document.bare_eq_self_iff {doc : Document} :
    doc.bare = doc ↔ doc.body.map Segment.bare = doc.body := by
  constructor
  · exact congrArg Document.body
  · intro h
    rw [Document.bare, h]

variable {comments : List Chars}

theorem bare_of_segment? {run : Run} {start : Nat} {segment : Segment}
    (h : run.segment? comments start = some segment) : segment.bare = segment := by
  cases run with
  | header head body =>
    simp only [Run.segment?, Option.ite_none_left_eq_some, Option.some.injEq] at h
    rw [← h.2, Segment.bare]
  | code lines =>
    simp only [Run.segment?, Option.ite_none_left_eq_some, Option.some.injEq] at h
    rw [← h.2, Segment.bare]

theorem map_bare_segmentsOf (start : Nat) (runs : List Run) :
    (segmentsOf comments start runs).map Segment.bare = segmentsOf comments start runs := by
  induction runs generalizing start with
  | nil => rfl
  | cons run rest ih =>
    rw [segmentsOf, List.map_append, ih]
    cases hsegment : run.segment? comments start with
    | none => rfl
    | some segment => rw [Option.toList_some, List.map_singleton, bare_of_segment? hsegment]

theorem map_bare_segmentation (lines : List Chars) :
    (segmentation comments lines).2.map Segment.bare = (segmentation comments lines).2 := by
  unfold segmentation
  split
  · exact map_bare_segmentsOf _ _
  · exact map_bare_segmentsOf _ _

/-- Reading what stands under headers is as good without results. -/
theorem map_bare_withContent (segments : List Segment) :
    (withContent segments).1.map Segment.bare = (withContent (segments.map Segment.bare)).1 := by
  induction segments with
  | nil => rfl
  | cons segment rest ih =>
    cases segment with
    | code c => exact congrArg (Segment.bare (.code c) :: ·) ih
    | header h => exact congrArg (Segment.header { h with content := (readItems h.body).1 } :: ·) ih

theorem body_read (sourceName : Chars) (lines : List Chars) :
    (read comments sourceName lines).1.body = (withContent (segmentation comments lines).2).1 := by
  unfold read
  rcases segmentation comments lines with ⟨title, segments⟩
  cases title <;> rfl

/-- A document is read without results. -/
theorem read_bare (sourceName : Chars) (lines : List Chars) :
    (read comments sourceName lines).1.bare = (read comments sourceName lines).1 := by
  rw [Document.bare_eq_self_iff, body_read, map_bare_withContent, map_bare_segmentation]

/-! ## Included files -/

/-- The item holds no text of an included file. -/
def Item.isUnread : Item → Bool
  | .included _ (some _) => false
  | _ => true

/-- The items under a header. -/
def Segment.content : Segment → List Item
  | .header h => h.content
  | .code _ => []

/-- The items of a document: those of the introduction, then those under the headers. -/
def Document.items (doc : Document) : List Item := doc.intro ++ doc.body.flatMap Segment.content

/-- All items are unread. -/
def AreUnread (items : List Item) : Prop := ∀ item ∈ items, item.isUnread = true

theorem AreUnread.cons {item : Item} {items : List Item} (hitem : item.isUnread = true)
    (h : AreUnread items) : AreUnread (item :: items) :=
  List.forall_mem_cons.mpr ⟨hitem, h⟩

theorem AreUnread.addText {items : List Item} (h : AreUnread items) (separator : Chars)
    (lines : List Chars) : AreUnread (addText separator lines items) := by
  unfold Script.addText
  split
  · exact .cons rfl (List.forall_mem_cons.mp h).2
  · exact .cons rfl h

theorem AreUnread.addPiece {items : List Item} (h : AreUnread items) (first : Bool)
    (piece : Piece) : AreUnread (addPiece first items piece) := by
  cases piece with
  | text lines => exact h.addText _ lines
  | region kind lines closed =>
    cases lines with
    | nil => exact h
    | cons line rest => cases kind <;> exact .cons rfl h

theorem AreUnread.addPieces {items : List Item} (h : AreUnread items) (ps : List Piece) :
    AreUnread (addPieces items ps) := by
  cases ps with
  | nil => exact h
  | cons piece rest =>
    rw [Script.addPieces]
    exact List.foldlRecOn rest (Script.addPiece false) (h.addPiece true piece)
      fun items h piece _ => h.addPiece false piece

theorem AreUnread.addItem {items : List Item} (h : AreUnread items) (gap : Nat)
    (running : Option Running) {item : Item} (hitem : item.isUnread = true) :
    AreUnread (addItem gap running items item).1 := by
  unfold Script.addItem
  split
  · exact .cons rfl (List.forall_mem_cons.mp h).2
  · exact .cons rfl (List.forall_mem_cons.mp h).2
  · exact .cons rfl h
  · exact .cons rfl h
  · exact .cons hitem h

theorem isUnread_of_blockItem {lines : List Chars} {item : Item} {warnings : List Warning}
    (h : blockItem lines = (some item, warnings)) : item.isUnread = true := by
  unfold blockItem at h
  split_ifs at h
  · cases h
    rfl
  · cases h
    rfl
  · split at h
    · cases h
      rfl
    · cases h
      rfl
    · split at h
      · cases h
        rfl
      · split at h
        · cases h
          rfl
        · cases h

theorem areUnread_readItems (lines : List Chars) : AreUnread (readItems lines).1 := by
  have hread : AreUnread ((blocks lines).foldl Reading.add {}).items := by
    refine List.foldlRecOn (motive := fun r : Reading => AreUnread r.items) _ _
      (fun _ h => absurd h List.not_mem_nil) fun r h block _ => ?_
    unfold Reading.add
    split
    · next hitem => exact h.addItem _ _ (isUnread_of_blockItem hitem)
    · exact h.addPieces _
  exact fun item hitem => hread item (List.mem_reverse.mp hitem)

theorem areUnread_withContent (segments : List Segment) :
    AreUnread ((withContent segments).1.flatMap Segment.content) := by
  induction segments with
  | nil => exact fun _ h => absurd h List.not_mem_nil
  | cons segment rest ih =>
    cases segment with
    | code c => exact ih
    | header h => exact List.forall_mem_append.mpr ⟨areUnread_readItems h.body, ih⟩

theorem areUnread_intro (sourceName : Chars) (lines : List Chars) :
    AreUnread (read comments sourceName lines).1.intro := by
  unfold read
  rcases segmentation comments lines with ⟨title, segments⟩
  cases title with
  | none => exact fun _ h => absurd h List.not_mem_nil
  | some t => exact areUnread_readItems t.body

/-- A document is read without the texts of included files. -/
theorem areUnread_read (sourceName : Chars) (lines : List Chars) :
    AreUnread (read comments sourceName lines).1.items := by
  refine List.forall_mem_append.mpr ⟨areUnread_intro sourceName lines, ?_⟩
  rw [body_read]
  exact areUnread_withContent _

/-! ## Code -/

theorem isBlank_of_mem_join {sep line : Chars} {lines : List Chars}
    (h : Text.isBlank (Text.join sep lines) = true) (hmem : line ∈ lines) :
    Text.isBlank line = true := by
  unfold Text.isBlank at h ⊢
  induction lines with
  | nil => cases hmem
  | cons first rest ih =>
    cases rest with
    | nil =>
      obtain rfl := List.mem_singleton.mp hmem
      exact h
    | cons next rest =>
      rw [Text.join_cons (List.cons_ne_nil next rest), List.all_append, List.all_append,
        Bool.and_eq_true, Bool.and_eq_true] at h
      rcases List.mem_cons.mp hmem with rfl | hrest
      · exact h.1.1
      · exact ih h.2 hrest

variable {c : CodeSegment}

/-- Code that makes a segment starts with a line that is not blank. -/
theorem not_isBlank_of_segment? {run : Run} {start : Nat}
    (h : run.segment? comments start = some (.code c)) : Text.isBlank c.code = false := by
  cases run with
  | header head body =>
    simp only [Run.segment?, Option.ite_none_left_eq_some, Option.some.injEq] at h
    cases h.2
  | code part =>
    rw [segment?_code, Option.ite_none_left_eq_some, Option.some.injEq, Segment.code.injEq] at h
    obtain ⟨hne, rfl⟩ := h
    obtain ⟨line, hhead, hline⟩ := trimBlank_head hne
    rw [← Bool.not_eq_true]
    intro hblank
    rw [isBlank_of_mem_join hblank (List.mem_of_mem_head? hhead)] at hline
    cases hline

theorem exists_segment?_of_mem {segment : Segment} {start : Nat} {runs : List Run}
    (h : segment ∈ segmentsOf comments start runs) :
    ∃ run first, Run.segment? comments first run = some segment := by
  induction runs generalizing start with
  | nil => cases h
  | cons run rest ih =>
    rcases List.mem_append.mp h with hfirst | hrest
    · exact ⟨run, start, Option.mem_toList.mp hfirst⟩
    · exact ih hrest

theorem mem_of_mem_withContent {segments : List Segment}
    (h : .code c ∈ (withContent segments).1) : .code c ∈ segments := by
  induction segments with
  | nil => cases h
  | cons segment rest ih =>
    cases segment with
    | code first =>
      rcases List.mem_cons.mp h with heq | hrest
      · rw [heq]
        exact List.mem_cons_self
      · exact List.mem_cons_of_mem _ (ih hrest)
    | header first =>
      rcases List.mem_cons.mp h with heq | hrest
      · cases heq
      · exact List.mem_cons_of_mem _ (ih hrest)

/-- A script is read into segments of code that are not blank. -/
theorem not_isBlank_of_read {sourceName : Chars} {lines : List Chars}
    (h : .code c ∈ (read comments sourceName lines).1.body) : Text.isBlank c.code = false := by
  rw [body_read] at h
  have hsegment : .code c ∈ (segmentation comments lines).2 := mem_of_mem_withContent h
  unfold segmentation at hsegment
  split at hsegment
  all_goals
    obtain ⟨run, first, hrun⟩ := exists_segment?_of_mem hsegment
    exact not_isBlank_of_segment? hrun

end ScriptReport.Script

/-
  ScriptReport.Proofs.Script.NormalForm

  The tokens of running text in normal form. On every level of nesting plain text is neither empty
  nor next to other plain text, it has no symbols, and of each delimiter at most one is left, behind
  all spans of its style; and the styles around a level alternate, with bold once at most. Pairing
  the delimiters of a style establishes its own part of this and keeps the others'
  (`Remade.leaves_self`, `Remade.leaves_other`); finding symbols keeps all of it. Main statement:
  `readInline_isNormal`.
-/

import ScriptReport.Proofs.Script.Gather
import ScriptReport.Proofs.Script.Levels
import ScriptReport.Proofs.Script.ProtectedSpan
import ScriptReport.Proofs.Text.Splitting
import Mathlib.Data.List.Flatten
import Mathlib.Data.List.Infix

namespace ScriptReport.Script

/-! ## Plain text and spans of one level -/

/-- The text of a token that is plain text. -/
def Inline.plainText : Inline → Chars
  | .plain text => text
  | _ => []

/-- The token is plain text. -/
def Inline.IsPlain (token : Inline) : Prop := ∃ text, token = .plain text

/-- The plain text of one level. -/
def plainTexts (tokens : List Inline) : Chars := tokens.flatMap Inline.plainText

/-- If the delimiter of the style is left in the one token, the later one is no span of the style. -/
def MayPrecede (style : Style) (token later : Inline) : Prop :=
  style.delimiter ∈ token.plainText → ¬ later.IsSpan style

/-- At most one delimiter of the style is left on the level, behind all spans of the style. -/
structure Level.Leaves (style : Style) (level : Level) : Prop where
  count : (plainTexts level.tokens).count style.delimiter ≤ 1
  last : level.tokens.Pairwise (MayPrecede style)

/-- No two neighbours are plain text. -/
def AreSeparate (tokens : List Inline) : Prop := tokens.IsChain fun a b => ¬ (a.IsPlain ∧ b.IsPlain)

variable {style s : Style} {token : Inline} {tokens : List Inline} {atoms : List (Option Inline)}
  {old level : Level} {text : Chars}

theorem mayPrecede_of_not_isPlain (h : ¬ token.IsPlain) (later : Inline) :
    MayPrecede style token later := by
  intro hdelimiter
  cases token with
  | plain text => exact absurd ⟨text, rfl⟩ h
  | _ => cases hdelimiter

theorem plainTexts_cons (token : Inline) (tokens : List Inline) :
    plainTexts (token :: tokens) = token.plainText ++ plainTexts tokens := List.flatMap_cons

theorem plainTexts_append (a b : List Inline) :
    plainTexts (a ++ b) = plainTexts a ++ plainTexts b := List.flatMap_append

/-! ## Merging -/

theorem plainTexts_consPlain (text : Chars) (tokens : List Inline) :
    plainTexts (consPlain text tokens) = text ++ plainTexts tokens := by
  unfold consPlain
  split
  · rw [plainTexts_cons, plainTexts_cons, Inline.plainText, Inline.plainText, List.append_assoc]
  · rw [plainTexts_cons, Inline.plainText]

theorem plainTexts_mergePlain (tokens : List Inline) :
    plainTexts (mergePlain tokens) = plainTexts tokens := by
  induction tokens using mergePlain.induct with
  | case1 => rfl
  | case2 text rest ih => rw [mergePlain, plainTexts_consPlain, ih, plainTexts_cons, Inline.plainText]
  | case3 token rest hplain ih =>
    rw [mergePlain.eq_3 _ _ hplain, plainTexts_cons, ih, plainTexts_cons]

theorem separate_consPlain (text : Chars) (h : AreSeparate tokens) :
    AreSeparate (consPlain text tokens) := by
  unfold consPlain
  split
  · next t rest =>
    -- the first token is plain text before and after
    refine List.isChain_cons.mpr ⟨fun next hnext hboth => ?_, (List.isChain_cons.mp h).2⟩
    exact (List.isChain_cons.mp h).1 next hnext ⟨⟨t, rfl⟩, hboth.2⟩
  · next hfirst =>
    refine List.isChain_cons.mpr ⟨fun next hnext hboth => ?_, h⟩
    obtain ⟨t, rfl⟩ := hboth.2
    cases tokens with
    | nil => cases hnext
    | cons first rest => exact hfirst t rest (by rw [Option.mem_some_iff.mp hnext])

theorem separate_mergePlain (tokens : List Inline) : AreSeparate (mergePlain tokens) := by
  induction tokens using mergePlain.induct with
  | case1 => exact .nil
  | case2 text rest ih => exact separate_consPlain text ih
  | case3 token rest hplain ih =>
    rw [mergePlain.eq_3 _ _ hplain]
    exact List.isChain_cons.mpr ⟨fun _ _ hboth => hboth.1.elim hplain, ih⟩

theorem mem_consPlain (h : token ∈ consPlain text tokens) :
    (∃ more, token = .plain (text ++ more)) ∨ token ∈ tokens := by
  unfold consPlain at h
  split at h
  · exact (List.mem_cons.mp h).imp (fun h => ⟨_, h⟩) (List.mem_cons_of_mem _)
  · exact (List.mem_cons.mp h).imp_left fun h => ⟨[], by rw [h, List.append_nil]⟩

theorem nonempty_mergePlain (h : .plain [] ∉ tokens) : .plain [] ∉ mergePlain tokens := by
  induction tokens using mergePlain.induct with
  | case1 => exact h
  | case2 text rest ih =>
    rw [List.mem_cons, not_or] at h
    rw [mergePlain]
    intro hmem
    rcases mem_consPlain hmem with ⟨more, hmore⟩ | hmem
    · have htext := (List.append_eq_nil_iff.mp (Inline.plain.inj hmore).symm).1
      exact h.1 (by rw [htext])
    · exact ih h.2 hmem
  | case3 token rest hplain ih =>
    rw [List.mem_cons, not_or] at h
    rw [mergePlain.eq_3 _ _ hplain, List.mem_cons, not_or]
    exact ⟨h.1, ih h.2⟩

/-- Merging makes nothing but plain text. -/
theorem mem_of_mem_mergePlain (h : token ∈ mergePlain tokens) (hplain : ¬ token.IsPlain) :
    token ∈ tokens := by
  induction tokens using mergePlain.induct with
  | case1 => exact h
  | case2 text rest ih =>
    rcases mem_consPlain h with ⟨more, rfl⟩ | h
    · exact absurd ⟨_, rfl⟩ hplain
    · exact List.mem_cons_of_mem _ (ih h)
  | case3 first rest hfirst ih =>
    rw [mergePlain.eq_3 _ _ hfirst] at h
    exact (List.mem_cons.mp h).elim (fun h => h ▸ List.mem_cons_self)
      fun h => List.mem_cons_of_mem _ (ih h)

theorem not_isPlain_of_isSpan (h : token.IsSpan style) : ¬ token.IsPlain := by
  obtain ⟨children, rfl⟩ := h
  rintro ⟨text, htext⟩
  cases htext

theorem pairwise_mergePlain (h : tokens.Pairwise (MayPrecede style)) :
    (mergePlain tokens).Pairwise (MayPrecede style) := by
  have hspan {tokens : List Inline} {later : Inline} (hlater : later ∈ mergePlain tokens)
      (hspan : later.IsSpan style) : later ∈ tokens :=
    mem_of_mem_mergePlain hlater (not_isPlain_of_isSpan hspan)
  induction tokens using mergePlain.induct with
  | case1 => exact h
  | case2 text rest ih =>
    obtain ⟨hfirst, hrest⟩ := List.pairwise_cons.mp h
    have hmerged := ih hrest
    rw [mergePlain]
    unfold consPlain
    split
    · next t more heq =>
      -- the text that is joined to the first one precedes what that one precedes
      rw [heq, List.pairwise_cons] at hmerged
      refine List.pairwise_cons.mpr ⟨fun later hlater hdelimiter hstyle => ?_, hmerged.2⟩
      rcases List.mem_append.mp hdelimiter with hin | hin
      · refine hfirst later (hspan ?_ hstyle) hin hstyle
        rw [heq]
        exact List.mem_cons_of_mem _ hlater
      · exact hmerged.1 later hlater hin hstyle
    · refine List.pairwise_cons.mpr ⟨fun later hlater hdelimiter hstyle => ?_, hmerged⟩
      exact hfirst later (hspan hlater hstyle) hdelimiter hstyle
  | case3 token rest hplain ih =>
    obtain ⟨hfirst, hrest⟩ := List.pairwise_cons.mp h
    rw [mergePlain.eq_3 _ _ hplain]
    refine List.pairwise_cons.mpr ⟨fun later hlater hdelimiter hstyle => ?_, ih hrest⟩
    exact hfirst later (hspan hlater hstyle) hdelimiter hstyle

/-! ## Pieces -/

theorem plainTexts_plainAtoms (style : Style) (pieces : List Chars) :
    plainTexts ((plainAtoms pieces).map (pieceToken style)) =
      Text.join [style.delimiter] pieces := by
  induction pieces with
  | nil => rfl
  | cons piece rest ih =>
    have hpiece : plainTexts
        ((if piece = [] then [] else [some (Inline.plain piece)]).map (pieceToken style)) = piece := by
      split_ifs with hempty
      · exact hempty.symm
      · exact List.append_nil piece
    cases rest with
    | nil => exact hpiece
    | cons next rest =>
      have hatoms : plainAtoms (piece :: next :: rest) =
          (if piece = [] then [] else [some (.plain piece)]) ++
            none :: plainAtoms (next :: rest) := rfl
      rw [hatoms, List.map_append, plainTexts_append, hpiece, List.map_cons, plainTexts_cons, ih,
        Text.join, List.append_assoc]
      rfl

/-- The pieces of a token, with the delimiters between them, have its plain text. -/
theorem plainTexts_atoms (style : Style) (token : Inline) :
    plainTexts ((token.atoms style).map (pieceToken style)) = token.plainText := by
  cases token with
  | plain text => rw [Inline.atoms, plainTexts_plainAtoms, Text.join_splitOn (by simp)]; rfl
  | span s children => rfl
  | _ => rfl

theorem plainTexts_atomsOf (style : Style) (tokens : List Inline) :
    plainTexts ((atomsOf style tokens).map (pieceToken style)) = plainTexts tokens := by
  induction tokens with
  | nil => rfl
  | cons token rest ih =>
    rw [atomsOf, List.map_append, plainTexts_append, ih, plainTexts_atoms, plainTexts_cons]

/-- What is a piece of a token: plain text of plain text, else the token or a span of its style. -/
theorem of_mem_atoms {piece : Inline} (h : some piece ∈ token.atoms style) :
    style.delimiter ∉ piece.plainText ∧ piece ≠ .plain [] ∧
      ∀ s, piece.IsSpan s → token.IsSpan s := by
  cases token with
  | plain text =>
    obtain ⟨piece, hpiece, hne, rfl⟩ := of_mem_plainAtoms h
    refine ⟨Text.not_mem_of_mem_splitOn hpiece, fun hempty => hne (Inline.plain.inj hempty), ?_⟩
    rintro s ⟨children, hchildren⟩
    cases hchildren
  | span t children =>
    cases Option.some.inj (List.mem_singleton.mp h)
    refine ⟨List.not_mem_nil, by simp, ?_⟩
    rintro s ⟨_, hsame⟩
    cases hsame
    exact ⟨children, rfl⟩
  | _ =>
    cases Option.some.inj (List.mem_singleton.mp h)
    exact ⟨List.not_mem_nil, by simp, fun _ hspan => hspan⟩

theorem exists_of_mem_atomsOf {piece : Inline} (h : some piece ∈ atomsOf style tokens) :
    ∃ token ∈ tokens, some piece ∈ token.atoms style := by
  rwa [atomsOf_eq_flatMap, List.mem_flatMap] at h

theorem pairwise_atomsOf (style : Style) (h : tokens.Pairwise (MayPrecede s)) :
    ((atomsOf style tokens).map (pieceToken style)).Pairwise (MayPrecede s) := by
  -- a piece that is a span of the style comes from one, and the delimiter from plain text with it
  have hspan {token piece : Inline} (hpiece : piece ∈ (token.atoms style).map (pieceToken style))
      (hspan : piece.IsSpan s) : token.IsSpan s := by
    obtain ⟨atom, hatom, rfl⟩ := List.mem_map.mp hpiece
    cases atom with
    | none => exact absurd ⟨_, rfl⟩ (not_isPlain_of_isSpan hspan)
    | some piece => exact (of_mem_atoms hatom).2.2 s hspan
  have htext {token piece : Inline} (hpiece : piece ∈ (token.atoms style).map (pieceToken style))
      (hdelimiter : s.delimiter ∈ piece.plainText) : s.delimiter ∈ token.plainText := by
    rw [← plainTexts_atoms style token]
    exact List.mem_flatMap.mpr ⟨piece, hpiece, hdelimiter⟩
  rw [atomsOf_eq_flatMap, List.map_flatMap, List.pairwise_flatMap]
  refine ⟨fun token _ => ?_, h.imp fun hab x hx y hy hdelimiter hstyle =>
    hab (htext hx hdelimiter) (hspan hy hstyle)⟩
  refine List.pairwise_of_forall_mem_list fun x hx y hy hdelimiter hstyle => ?_
  -- a token with plain text is no span
  obtain ⟨children, rfl⟩ := hspan hy hstyle
  exact absurd (htext hx hdelimiter) List.not_mem_nil

/-! ## Pairing -/

namespace Paired

theorem plainTexts_sublist (h : Paired style atoms tokens) :
    List.Sublist (plainTexts tokens) (plainTexts (atoms.map (pieceToken style))) := by
  induction h with
  | done => exact List.Sublist.refl _
  | token token _ ih =>
    rw [List.map_cons, plainTexts_cons, plainTexts_cons]
    exact ih.append_left _
  | unpaired inside =>
    have hinside : (inside.map some).map (pieceToken style) = inside := by
      rw [List.map_map]
      exact List.map_id inside
    rw [List.map_cons, hinside]
    exact List.Sublist.refl _
  | span inside _ ih =>
    -- what gets into the new span is gone from the level, and so are the delimiters around it
    rw [List.map_cons, List.map_append, List.map_cons, plainTexts_cons, plainTexts_cons,
      plainTexts_append, plainTexts_cons]
    have hrest := ih.trans (List.sublist_append_right (Inline.plainText (pieceToken style none)) _)
    have hinside := hrest.trans
      (List.sublist_append_right (plainTexts ((inside.map some).map (pieceToken style))) _)
    exact hinside.trans (List.sublist_append_right _ _)

/-- A delimiter is left of itself only where it stays without a partner. -/
theorem count_le (h : Paired style atoms tokens)
    (hatoms : ∀ piece, some piece ∈ atoms → style.delimiter ∉ piece.plainText) :
    (plainTexts tokens).count style.delimiter ≤ 1 := by
  induction h with
  | done => exact Nat.zero_le 1
  | token token _ ih =>
    have hzero := List.count_eq_zero.mpr (hatoms token List.mem_cons_self)
    rw [plainTexts_cons, List.count_append, hzero, Nat.zero_add]
    exact ih fun piece hpiece => hatoms piece (List.mem_cons_of_mem _ hpiece)
  | unpaired inside =>
    have hzero : (plainTexts inside).count style.delimiter = 0 := by
      rw [List.count_eq_zero]
      intro hmem
      obtain ⟨piece, hpiece, hdelimiter⟩ := List.mem_flatMap.mp hmem
      exact hatoms piece (List.mem_cons_of_mem _ (List.mem_map_of_mem hpiece)) hdelimiter
    rw [plainTexts_cons, List.count_append, hzero]
    exact Nat.le_of_eq (by simp [Inline.plainText])
  | span inside _ ih =>
    exact ih fun piece hpiece =>
      hatoms piece (List.mem_cons_of_mem _ (List.mem_append_right _ (List.mem_cons_of_mem _ hpiece)))

theorem mem_or (h : Paired style atoms tokens) (htoken : token ∈ tokens) :
    token ∈ atoms.map (pieceToken style) ∨ token.IsSpan style := by
  induction h with
  | done => exact absurd htoken List.not_mem_nil
  | token first _ ih =>
    rcases List.mem_cons.mp htoken with rfl | htoken
    · exact .inl List.mem_cons_self
    · exact (ih htoken).imp_left (List.mem_cons_of_mem _)
  | unpaired inside =>
    left
    rcases List.mem_cons.mp htoken with rfl | htoken
    · exact List.mem_cons_self
    · exact List.mem_cons_of_mem _ (List.mem_map.mpr ⟨some token, List.mem_map_of_mem htoken, rfl⟩)
  | span inside _ ih =>
    rcases List.mem_cons.mp htoken with rfl | htoken
    · exact .inr ⟨_, rfl⟩
    · refine (ih htoken).imp_left fun hmem => ?_
      rw [List.map_cons, List.map_append, List.map_cons]
      exact List.mem_cons_of_mem _ (List.mem_append_right _ (List.mem_cons_of_mem _ hmem))

/-- What holds of the delimiters and spans of another style still holds. -/
theorem pairwise_other (h : Paired style atoms tokens) (hs : s ≠ style)
    (hatoms : (atoms.map (pieceToken style)).Pairwise (MayPrecede s)) :
    tokens.Pairwise (MayPrecede s) := by
  induction h with
  | done => exact .nil
  | token token hrest ih =>
    obtain ⟨hfirst, hatoms⟩ := List.pairwise_cons.mp hatoms
    refine List.pairwise_cons.mpr ⟨fun later hlater hdelimiter hstyle => ?_, ih hatoms⟩
    rcases hrest.mem_or hlater with hpiece | ⟨children, rfl⟩
    · exact hfirst later hpiece hdelimiter hstyle
    · obtain ⟨_, hsame⟩ := hstyle
      cases hsame
      exact hs rfl
  | unpaired inside =>
    rw [List.map_cons, List.map_map, show pieceToken style ∘ some = id from rfl, List.map_id] at hatoms
    exact hatoms
  | span inside _ ih =>
    refine List.pairwise_cons.mpr ⟨fun later _ => mayPrecede_of_not_isPlain ?_ later, ih ?_⟩
    · exact not_isPlain_of_isSpan ⟨_, rfl⟩
    · rw [List.map_cons, List.map_append, List.map_cons] at hatoms
      exact (List.pairwise_cons.mp (List.pairwise_append.mp (List.pairwise_cons.mp hatoms).2).2.1).2

/-- A delimiter that stays without a partner is the last one. -/
theorem pairwise_self (h : Paired style atoms tokens)
    (hatoms : ∀ piece, some piece ∈ atoms →
      style.delimiter ∉ piece.plainText ∧ ¬ piece.IsSpan style) :
    tokens.Pairwise (MayPrecede style) := by
  have hpieces {inside : List Inline}
      (hinside : ∀ piece ∈ inside, style.delimiter ∉ piece.plainText) :
      inside.Pairwise (MayPrecede style) :=
    List.pairwise_of_forall_mem_list fun x hx _ _ hdelimiter => absurd hdelimiter (hinside x hx)
  induction h with
  | done => exact .nil
  | token token _ ih =>
    refine List.pairwise_cons.mpr ⟨fun later _ hdelimiter => ?_, ih fun piece hpiece =>
      hatoms piece (List.mem_cons_of_mem _ hpiece)⟩
    exact absurd hdelimiter (hatoms token List.mem_cons_self).1
  | unpaired inside =>
    have hinside (piece : Inline) (hpiece : piece ∈ inside) :=
      hatoms piece (List.mem_cons_of_mem _ (List.mem_map_of_mem hpiece))
    exact List.pairwise_cons.mpr ⟨fun later hlater _ => (hinside later hlater).2,
      hpieces fun piece hpiece => (hinside piece hpiece).1⟩
  | span inside _ ih =>
    refine List.pairwise_cons.mpr ⟨fun later _ => mayPrecede_of_not_isPlain ?_ later, ih ?_⟩
    · exact not_isPlain_of_isSpan ⟨_, rfl⟩
    · exact fun piece hpiece => hatoms piece
        (List.mem_cons_of_mem _ (List.mem_append_right _ (List.mem_cons_of_mem _ hpiece)))

theorem nonempty (h : Paired style atoms tokens)
    (hatoms : ∀ piece, some piece ∈ atoms → piece ≠ .plain []) : .plain [] ∉ tokens := by
  intro hmem
  rcases h.mem_or hmem with hpiece | hspan
  · obtain ⟨atom, hatom, hempty⟩ := List.mem_map.mp hpiece
    cases atom with
    | none => cases hempty
    | some piece => exact hatoms piece hatom hempty
  · exact not_isPlain_of_isSpan hspan ⟨_, rfl⟩

end Paired

/-! ## Levels that have been remade -/

/-- The pieces inside of a new span are among those of the level. -/
theorem sublist_pieces (style : Style) {inside : List Inline} (h : inside.map some <:+: atoms) :
    List.Sublist inside (atoms.map (pieceToken style)) := by
  have hmap := h.sublist.map (pieceToken style)
  rwa [List.map_map, show pieceToken style ∘ some = id from rfl, List.map_id] at hmap

namespace Remade

theorem separate (h : Remade style old level) : AreSeparate level.tokens := by
  cases h with
  | again => exact separate_mergePlain _
  | inside => exact separate_mergePlain _

theorem nonempty (h : Remade style old level) : .plain [] ∉ level.tokens := by
  have hpieces (piece : Inline) (hpiece : some piece ∈ atomsOf style old.tokens) :
      piece ≠ .plain [] := by
    obtain ⟨token, -, hpiece⟩ := exists_of_mem_atomsOf hpiece
    exact (of_mem_atoms hpiece).2.1
  cases h with
  | again => exact nonempty_mergePlain ((paired_pairUp style _).nonempty hpieces)
  | inside _ inside hinside =>
    refine nonempty_mergePlain fun hmem => hpieces _ ?_ rfl
    exact hinside.subset (List.mem_map_of_mem hmem)

/-- What a level leaves of the delimiters of another style stays so. -/
theorem leaves_other (h : Remade style old level) (hs : s ≠ style) (hold : old.Leaves s) :
    level.Leaves s := by
  have hpairwise := pairwise_atomsOf style hold.last
  cases h with
  | again =>
    have hpaired := paired_pairUp style (atomsOf style old.tokens)
    refine ⟨?_, pairwise_mergePlain (hpaired.pairwise_other hs hpairwise)⟩
    have hsublist := hpaired.plainTexts_sublist
    rw [plainTexts_atomsOf, ← plainTexts_mergePlain (pairUp _ _ _)] at hsublist
    exact (hsublist.count_le _).trans hold.count
  | inside _ inside hinside =>
    refine ⟨?_, pairwise_mergePlain (hpairwise.sublist (sublist_pieces style hinside))⟩
    have hsublist := (sublist_pieces style hinside).flatMap Inline.plainText
    rw [← plainTexts, ← plainTexts, plainTexts_atomsOf, ← plainTexts_mergePlain inside] at hsublist
    exact (hsublist.count_le _).trans hold.count

/-- Of its own delimiters, pairing leaves at most the last one of a level. -/
theorem leaves_self (h : Remade style old level)
    (hold : ∀ token ∈ old.tokens, ¬ token.IsSpan style) : level.Leaves style := by
  have hpieces (piece : Inline) (hpiece : some piece ∈ atomsOf style old.tokens) :
      style.delimiter ∉ piece.plainText ∧ ¬ piece.IsSpan style := by
    obtain ⟨token, htoken, hpiece⟩ := exists_of_mem_atomsOf hpiece
    have hof := of_mem_atoms hpiece
    exact ⟨hof.1, fun hspan => hold token htoken (hof.2.2 style hspan)⟩
  cases h with
  | again =>
    have hpaired := paired_pairUp style (atomsOf style old.tokens)
    refine ⟨?_, pairwise_mergePlain (hpaired.pairwise_self hpieces)⟩
    rw [emphasize, plainTexts_mergePlain]
    exact hpaired.count_le fun piece hpiece => (hpieces piece hpiece).1
  | inside _ inside hinside =>
    have hnone (piece : Inline) (hpiece : piece ∈ inside) : style.delimiter ∉ piece.plainText :=
      (hpieces piece (hinside.subset (List.mem_map_of_mem hpiece))).1
    constructor
    · have hzero : (plainTexts inside).count style.delimiter = 0 := by
        rw [List.count_eq_zero]
        intro hmem
        obtain ⟨piece, hpiece, hdelimiter⟩ := List.mem_flatMap.mp hmem
        exact hnone piece hpiece hdelimiter
      rw [plainTexts_mergePlain, hzero]
      exact Nat.zero_le 1
    · exact pairwise_mergePlain (List.pairwise_of_forall_mem_list fun x hx _ _ hdelimiter =>
        absurd hdelimiter (hnone x hx))

end Remade

/-! ## Pairing one style after another -/

/-- What pairing the delimiters of some styles has made of a level. -/
structure Level.IsPaired (used : List Style) (depth : Nat) (level : Level) : Prop where
  nests : level.Nests used depth
  leaves : ∀ s ∈ used, level.Leaves s

/-- One more style keeps what the styles before it have made. -/
theorem isPaired_emphasize (style : Style) {used : List Style} {depth : Nat}
    (h : ∀ level ∈ levels tokens, level.IsPaired used depth) (hnew : style ∉ used)
    (hbold : style = .bold → depth = 0) :
    ∀ level ∈ levels (emphasize style tokens), level.IsPaired (style :: used) (2 * depth + 1) := by
  intro level hlevel
  obtain ⟨old, hold, hremade⟩ := exists_remade hlevel
  refine ⟨hremade.nests (h old hold).nests hnew hbold, fun s hs => ?_⟩
  rcases List.mem_cons.mp hs with rfl | hs
  · -- a span of the new style would have a level of its own inside
    refine hremade.leaves_self fun token htoken hspan => ?_
    obtain ⟨children, rfl⟩ := hspan
    exact hnew ((h _ (mem_levels_of_span hold htoken)).nests.used s List.mem_cons_self)
  · have hne : s ≠ style := fun heq => hnew (heq ▸ hs)
    exact hremade.leaves_other hne ((h old hold).leaves s hs)

/-! ## Finding symbols -/

/-- The level with its symbols found. -/
def Level.withSymbols (level : Level) : Level := ⟨level.around, splitAllSymbols level.tokens⟩

theorem of_mem_symbolsGo {skip : Nat} (h : token ∈ symbolsGo skip text) :
    token ≠ .plain [] ∧ ∀ s, ¬ token.IsSpan s := by
  induction text generalizing skip with
  | nil => cases skip <;> exact absurd h List.not_mem_nil
  | cons c rest ih =>
    cases skip with
    | succ k => exact ih h
    | zero =>
      rw [symbolsGo] at h
      split_ifs at h
      · rcases List.mem_cons.mp h with rfl | h
        · simp [Inline.IsSpan]
        · exact ih h
      · rcases List.mem_cons.mp h with rfl | h
        · simp [Inline.IsSpan]
        · exact ih h
      · rcases mem_consPlain h with ⟨more, rfl⟩ | h
        · simp [Inline.IsSpan]
        · exact ih h

mutual

theorem levelsBelow_splitSymbols : ∀ (token : Inline) (around : List Style),
    levelsBelow around token.splitSymbols = (token.levels around).map Level.withSymbols
  | .plain text, around => levelsBelow_eq_nil fun _ htoken => (of_mem_symbolsGo htoken).2
  | .span style children, around => by
    rw [Inline.splitSymbols, levelsBelow, levelsBelow, List.append_nil, Inline.levels, Inline.levels,
      List.map_cons, levelsBelow_splitAllSymbols children]
    rfl
  | .link _, _ => rfl
  | .mathInline _, _ => rfl
  | .mathBlock _, _ => rfl
  | .trademark, _ => rfl
  | .registered, _ => rfl

theorem levelsBelow_splitAllSymbols : ∀ (tokens : List Inline) (around : List Style),
    levelsBelow around (splitAllSymbols tokens) = (levelsBelow around tokens).map Level.withSymbols
  | [], _ => rfl
  | token :: rest, around => by
    rw [splitAllSymbols, levelsBelow_append, levelsBelow_splitSymbols token,
      levelsBelow_splitAllSymbols rest, levelsBelow, List.map_append]

end

theorem levels_splitAllSymbols (tokens : List Inline) :
    levels (splitAllSymbols tokens) = (levels tokens).map Level.withSymbols := by
  rw [levels, levels, List.map_cons, levelsBelow_splitAllSymbols]
  rfl

theorem splitAllSymbols_eq_flatMap (tokens : List Inline) :
    splitAllSymbols tokens = tokens.flatMap Inline.splitSymbols := by
  induction tokens with
  | nil => rfl
  | cons token rest ih => rw [splitAllSymbols, ih, List.flatMap_cons]

theorem separate_symbolsGo (skip : Nat) (text : Chars) : AreSeparate (symbolsGo skip text) := by
  induction text generalizing skip with
  | nil => cases skip <;> exact .nil
  | cons c rest ih =>
    have hsymbol {token : Inline} (h : ¬ token.IsPlain) (k : Nat) :
        AreSeparate (token :: symbolsGo k rest) :=
      List.isChain_cons.mpr ⟨fun _ _ hboth => h hboth.1, ih k⟩
    cases skip with
    | succ k => exact ih k
    | zero =>
      rw [symbolsGo]
      split_ifs
      · exact hsymbol (by simp [Inline.IsPlain]) _
      · exact hsymbol (by simp [Inline.IsPlain]) _
      · exact separate_consPlain [c] (ih 0)

theorem prefix_of_symbolsGo {rest : List Inline} {t : Chars}
    (h : symbolsGo 0 text = .plain t :: rest) : t <+: text := by
  have hgather := gatherAll_symbolsGo (fun c => [c]) (fun _ => []) 0 text
  rw [h, gatherAll, Inline.gather, List.flatMap_singleton', List.drop_zero,
    List.flatMap_singleton'] at hgather
  exact ⟨_, hgather⟩

/-- No symbol is left in the plain text between symbols. -/
theorem not_infix_of_mem_symbolsGo {symbol t : Chars} {skip : Nat}
    (hsymbol : symbol = trademarkText ∨ symbol = registeredText)
    (h : .plain t ∈ symbolsGo skip text) : ¬ symbol <:+: t := by
  induction text generalizing skip t with
  | nil => cases skip <;> exact absurd h List.not_mem_nil
  | cons c rest ih =>
    cases skip with
    | succ k => exact ih h
    | zero =>
      rw [symbolsGo] at h
      split_ifs at h with htrademark hregistered
      · exact ih ((List.mem_cons.mp h).resolve_left (by simp))
      · exact ih ((List.mem_cons.mp h).resolve_left (by simp))
      · -- the symbol would have to start right here
        have hhere : ¬ symbol <+: c :: rest := by
          rw [← List.isPrefixOf_iff_prefix]
          rcases hsymbol with rfl | rfl
          · exact htrademark
          · exact hregistered
        have hlong : 1 < symbol.length := by rcases hsymbol with rfl | rfl <;> decide
        unfold consPlain at h
        split at h
        · next t' more hmore =>
          rcases List.mem_cons.mp h with heq | hin
          · rw [Inline.plain.inj heq, List.singleton_append, List.infix_cons_iff, not_or]
            refine ⟨fun hprefix => hhere ?_, ih (hmore ▸ List.mem_cons_self)⟩
            obtain ⟨after, hafter⟩ := prefix_of_symbolsGo hmore
            exact hprefix.trans ⟨after, by rw [List.cons_append, hafter]⟩
          · exact ih (hmore ▸ List.mem_cons_of_mem _ hin)
        · rcases List.mem_cons.mp h with heq | hin
          · rw [Inline.plain.inj heq]
            intro hinfix
            have hlength := hinfix.length_le
            rw [List.length_singleton] at hlength
            omega
          · exact ih hin

theorem plainTexts_symbolsGo_sublist (skip : Nat) (text : Chars) :
    List.Sublist (plainTexts (symbolsGo skip text)) text := by
  induction text generalizing skip with
  | nil => cases skip <;> exact List.Sublist.refl _
  | cons c rest ih =>
    cases skip with
    | succ k => exact (ih k).cons c
    | zero =>
      rw [symbolsGo]
      split_ifs
      · exact (ih _).cons c
      · exact (ih _).cons c
      · rw [plainTexts_consPlain]
        exact (ih 0).cons_cons c

theorem plainTexts_splitSymbols_sublist (token : Inline) :
    List.Sublist (plainTexts token.splitSymbols) token.plainText := by
  cases token with
  | plain text => exact plainTexts_symbolsGo_sublist 0 text
  | _ => exact List.Sublist.refl _

theorem isSpan_of_mem_splitSymbols {later : Inline} (h : later ∈ token.splitSymbols)
    (hspan : later.IsSpan s) : token.IsSpan s := by
  cases token with
  | plain text => exact absurd hspan ((of_mem_symbolsGo h).2 s)
  | span t children =>
    obtain ⟨_, rfl⟩ := hspan
    cases List.mem_singleton.mp h
    exact ⟨children, rfl⟩
  | _ => rwa [List.mem_singleton.mp h] at hspan

namespace Level

theorem Leaves.withSymbols (h : level.Leaves s) : level.withSymbols.Leaves s := by
  constructor
  · have hsublist : List.Sublist (plainTexts level.withSymbols.tokens) (plainTexts level.tokens) := by
      rw [Level.withSymbols, splitAllSymbols_eq_flatMap, plainTexts, List.flatMap_assoc]
      exact List.Sublist.flatMap_right _ fun token _ => plainTexts_splitSymbols_sublist token
    exact (hsublist.count_le _).trans h.count
  · rw [Level.withSymbols, splitAllSymbols_eq_flatMap, List.pairwise_flatMap]
    have htext {token piece : Inline} (hpiece : piece ∈ token.splitSymbols)
        (hdelimiter : s.delimiter ∈ piece.plainText) : s.delimiter ∈ token.plainText :=
      (plainTexts_splitSymbols_sublist token).subset
        (List.mem_flatMap.mpr ⟨piece, hpiece, hdelimiter⟩)
    refine ⟨fun token _ => ?_, h.last.imp fun hab x hx y hy hdelimiter hspan =>
      hab (htext hx hdelimiter) (isSpan_of_mem_splitSymbols hy hspan)⟩
    refine List.pairwise_of_forall_mem_list fun x hx y hy hdelimiter hspan => ?_
    obtain ⟨children, rfl⟩ := isSpan_of_mem_splitSymbols hy hspan
    exact absurd (htext hx hdelimiter) List.not_mem_nil

theorem nonempty_withSymbols (level : Level) : .plain [] ∉ level.withSymbols.tokens := by
  rw [Level.withSymbols, splitAllSymbols_eq_flatMap]
  intro hmem
  obtain ⟨token, -, hempty⟩ := List.mem_flatMap.mp hmem
  cases token with
  | plain text => exact (of_mem_symbolsGo hempty).1 rfl
  | _ => cases List.mem_singleton.mp hempty

end Level

theorem separate_splitAllSymbols (h : AreSeparate tokens) : AreSeparate (splitAllSymbols tokens) := by
  induction tokens with
  | nil => exact .nil
  | cons token rest ih =>
    obtain ⟨hfirst, hrest⟩ := List.isChain_cons.mp h
    rw [splitAllSymbols]
    cases token with
    | plain text =>
      -- what follows plain text is none, and does not become any
      refine (separate_symbolsGo 0 text).append (ih hrest) fun x _ y hy hboth => ?_
      cases rest with
      | nil => cases hy
      | cons next rest =>
        have hnext : ¬ next.IsPlain := fun hplain =>
          hfirst next rfl ⟨⟨text, rfl⟩, hplain⟩
        obtain ⟨t, rfl⟩ := hboth.2
        cases next with
        | plain text' => exact hnext ⟨text', rfl⟩
        | _ => cases hy
    | _ =>
      refine List.isChain_cons.mpr ⟨fun _ _ hboth => ?_, ih hrest⟩
      obtain ⟨t, ht⟩ := hboth.1
      cases ht

/-! ## Main statement -/

/-- A level in normal form. -/
structure Level.IsNormal (level : Level) : Prop where
  /-- Plain text is not empty. -/
  nonempty : .plain [] ∉ level.tokens
  /-- Plain text is not next to plain text. -/
  separate : AreSeparate level.tokens
  /-- Plain text has no symbols. -/
  symbols : ∀ text, .plain text ∈ level.tokens →
    ¬ trademarkText <:+: text ∧ ¬ registeredText <:+: text
  /-- Of each delimiter at most one is left, behind all spans of its style. -/
  leaves : ∀ style, level.Leaves style
  /-- One at most of the spans around the level is bold. -/
  bold : level.around.count .bold ≤ 1
  /-- No span is right inside of a span of its own style. -/
  alternating : level.around.IsChain (· ≠ ·)
  /-- There are seven spans around the level at most. -/
  depth : level.around.length ≤ 7

theorem not_isSpan_of_mem_protectedSpansGo {skip : Nat} (h : token ∈ protectedSpansGo skip text)
    (s : Style) : ¬ token.IsSpan s := by
  induction text generalizing skip with
  | nil => cases skip <;> exact absurd h List.not_mem_nil
  | cons c rest ih =>
    cases skip with
    | succ k => exact ih h
    | zero =>
      rw [protectedSpansGo] at h
      split at h
      · next found size hfound =>
        rcases List.mem_cons.mp h with rfl | h
        · obtain ⟨mark, -, -, -, rfl, -⟩ := protectedSpan?_eq_some_iff.mp hfound
          rintro ⟨children, hchildren⟩
          cases mark <;> cases hchildren
        · exact ih h
      · rcases mem_consPlain h with ⟨more, rfl⟩ | h
        · simp [Inline.IsSpan]
        · exact ih h

/-- The links and formulas of a text and the plain text between them are on one level. -/
theorem levels_protectedSpans (text : Chars) :
    levels (protectedSpans text) = [⟨[], protectedSpans text⟩] := by
  have hbelow : levelsBelow [] (protectedSpans text) = [] :=
    levelsBelow_eq_nil fun _ htoken s => not_isSpan_of_mem_protectedSpansGo htoken s
  rw [levels, hbelow]

/-- Every level of running text is in normal form. -/
theorem readInline_isNormal (text : Chars) : ∀ level ∈ levels (readInline text), level.IsNormal := by
  intro level hlevel
  have hstart : ∀ level ∈ levels (protectedSpans text), level.IsPaired [] 0 := by
    rw [levels_protectedSpans, List.forall_mem_singleton]
    exact ⟨⟨by simp, Nat.le_refl 0, .nil, Nat.zero_le 1⟩, by simp⟩
  have hbold := isPaired_emphasize .bold hstart (by simp) (fun _ => rfl)
  have hitalic := isPaired_emphasize .italic hbold (by decide) (by simp)
  have hmonospaced := isPaired_emphasize .monospaced hitalic (by decide) (by simp)
  rw [readInline, levels_splitAllSymbols] at hlevel
  obtain ⟨paired, hpaired, rfl⟩ := List.mem_map.mp hlevel
  obtain ⟨old, -, hremade⟩ := exists_remade hpaired
  have hall := hmonospaced paired hpaired
  exact {
    nonempty := Level.nonempty_withSymbols paired
    separate := separate_splitAllSymbols hremade.separate
    symbols := by
      intro t ht
      rw [Level.withSymbols, splitAllSymbols_eq_flatMap] at ht
      obtain ⟨token, -, hin⟩ := List.mem_flatMap.mp ht
      cases token with
      | plain text =>
        exact ⟨not_infix_of_mem_symbolsGo (.inl rfl) hin, not_infix_of_mem_symbolsGo (.inr rfl) hin⟩
      | _ => cases List.mem_singleton.mp hin
    leaves := by
      intro style
      refine (hall.leaves style ?_).withSymbols
      cases style <;> decide
    bold := hall.nests.bold
    alternating := hall.nests.alternating
    depth := hall.nests.depth }

/-- Seven spans can be around a level: the styles alternate, and bold is in the middle. -/
theorem readInline_isNormal_of_deepest :
    ∃ level ∈ levels (readInline "|_|*|_|x|_|*|_|"),
      level.around.length = 7 ∧ level.IsNormal := by
  have hdeepest : ∃ level ∈ levels (readInline "|_|*|_|x|_|*|_|"), level.around.length = 7 := by
    decide +kernel
  obtain ⟨level, hlevel, hlength⟩ := hdeepest
  exact ⟨level, hlevel, hlength, readInline_isNormal _ level hlevel⟩

end ScriptReport.Script

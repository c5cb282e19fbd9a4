/-
  ScriptReport.Proofs.Script.Levels

  The levels of nesting of running text: the tokens outside of all spans, and the tokens inside of
  each span, with the styles of the spans around them. Pairing the delimiters of one style makes
  every level again, and puts new levels between it and the ones below. What a level can become is
  said once (`Remade`, `exists_remade`); everything about nesting follows from it.
-/

import ScriptReport.Script.Inline
import Mathlib.Data.List.Chain
import Mathlib.Tactic.SplitIfs

namespace ScriptReport.Script

/-! ## Levels -/

/-- The tokens on one level, and the styles of the spans around them, from the innermost. -/
structure Level where
  around : List Style
  tokens : List Inline

mutual

/-- The levels inside of a token. -/
def Inline.levels (around : List Style) : Inline → List Level
  | .span style children => ⟨style :: around, children⟩ :: levelsBelow (style :: around) children
  | _ => []

/-- The levels inside of tokens. -/
def levelsBelow (around : List Style) : List Inline → List Level
  | [] => []
  | token :: rest => token.levels around ++ levelsBelow around rest

end

/-- The token is a span of the style. -/
def Inline.IsSpan (style : Style) (token : Inline) : Prop := ∃ children, token = .span style children

/-- The levels of tokens, the outermost one first. -/
def levels (tokens : List Inline) : List Level := ⟨[], tokens⟩ :: levelsBelow [] tokens

variable {style : Style} {around around' : List Style} {tokens : List Inline}
  {atoms : List (Option Inline)} {level : Level}

theorem mem_levelsBelow_iff :
    level ∈ levelsBelow around tokens ↔ ∃ token ∈ tokens, level ∈ token.levels around := by
  induction tokens with
  | nil => simp [levelsBelow]
  | cons token rest ih => rw [levelsBelow, List.mem_append, ih]; simp

theorem levelsBelow_append (a b : List Inline) :
    levelsBelow around (a ++ b) = levelsBelow around a ++ levelsBelow around b := by
  induction a with
  | nil => rfl
  | cons token rest ih => rw [List.cons_append, levelsBelow, levelsBelow, ih, List.append_assoc]

/-- Without spans there are no levels below. -/
theorem levelsBelow_eq_nil (h : ∀ token ∈ tokens, ∀ s, ¬ token.IsSpan s) :
    levelsBelow around tokens = [] := by
  refine List.eq_nil_iff_forall_not_mem.mpr fun level hlevel => ?_
  obtain ⟨token, htoken, hlevel⟩ := mem_levelsBelow_iff.mp hlevel
  cases token with
  | span s children => exact h _ htoken s ⟨children, rfl⟩
  | _ => exact absurd hlevel List.not_mem_nil

mutual

theorem mem_levels_of_span_token : ∀ (token : Inline) {around : List Style} {level : Level}
    {style : Style} {children : List Inline}, level ∈ token.levels around →
    .span style children ∈ level.tokens →
    (⟨style :: level.around, children⟩ : Level) ∈ token.levels around
  | .span s inner, around, level, style, children, hlevel, hspan => by
    rcases List.mem_cons.mp hlevel with rfl | hbelow
    · exact List.mem_cons_of_mem _ (mem_levelsBelow_iff.mpr ⟨_, hspan, List.mem_cons_self⟩)
    · exact List.mem_cons_of_mem _ (mem_levels_of_span_tokens inner hbelow hspan)
  | .plain _, _, _, _, _, hlevel, _ => absurd hlevel List.not_mem_nil
  | .link _, _, _, _, _, hlevel, _ => absurd hlevel List.not_mem_nil
  | .mathInline _, _, _, _, _, hlevel, _ => absurd hlevel List.not_mem_nil
  | .mathBlock _, _, _, _, _, hlevel, _ => absurd hlevel List.not_mem_nil
  | .trademark, _, _, _, _, hlevel, _ => absurd hlevel List.not_mem_nil
  | .registered, _, _, _, _, hlevel, _ => absurd hlevel List.not_mem_nil

theorem mem_levels_of_span_tokens : ∀ (tokens : List Inline) {around : List Style} {level : Level}
    {style : Style} {children : List Inline}, level ∈ levelsBelow around tokens →
    .span style children ∈ level.tokens →
    (⟨style :: level.around, children⟩ : Level) ∈ levelsBelow around tokens
  | [], _, _, _, _, hlevel, _ => absurd hlevel List.not_mem_nil
  | token :: rest, _, _, _, _, hlevel, hspan => by
    rcases List.mem_append.mp hlevel with hhere | hrest
    · exact List.mem_append_left _ (mem_levels_of_span_token token hhere hspan)
    · exact List.mem_append_right _ (mem_levels_of_span_tokens rest hrest hspan)

end

/-- The inside of a span on a level is a level too. -/
theorem mem_levels_of_span {children : List Inline} (hlevel : level ∈ levels tokens)
    (hspan : .span style children ∈ level.tokens) :
    (⟨style :: level.around, children⟩ : Level) ∈ levels tokens := by
  rcases List.mem_cons.mp hlevel with rfl | hbelow
  · exact List.mem_cons_of_mem _ (mem_levelsBelow_iff.mpr ⟨_, hspan, List.mem_cons_self⟩)
  · exact List.mem_cons_of_mem _ (mem_levels_of_span_tokens tokens hbelow hspan)

theorem levelsBelow_consPlain (text : Chars) :
    levelsBelow around (consPlain text tokens) = levelsBelow around tokens := by
  unfold consPlain
  split <;> rfl

theorem levelsBelow_mergePlain (tokens : List Inline) :
    levelsBelow around (mergePlain tokens) = levelsBelow around tokens := by
  induction tokens using mergePlain.induct with
  | case1 => rfl
  | case2 text rest ih => rw [mergePlain, levelsBelow_consPlain, ih]; rfl
  | case3 token rest hplain ih => rw [mergePlain.eq_3 _ _ hplain, levelsBelow, ih, levelsBelow]

/-! ## Pairing on one level -/

/-- The tokens that pairing makes of pieces and delimiters: what is between two delimiters becomes
    a span, and a delimiter without a partner is the last one. -/
inductive Paired (style : Style) : List (Option Inline) → List Inline → Prop where
  | done : Paired style [] []
  | token (token : Inline) {atoms : List (Option Inline)} {tokens : List Inline} :
      Paired style atoms tokens → Paired style (some token :: atoms) (token :: tokens)
  | unpaired (inside : List Inline) :
      Paired style (none :: inside.map some) (.plain [style.delimiter] :: inside)
  | span (inside : List Inline) {atoms : List (Option Inline)} {tokens : List Inline} :
      Paired style atoms tokens →
      Paired style (none :: (inside.map some ++ none :: atoms))
        (.span style (mergePlain inside) :: tokens)

/-- An open delimiter with the tokens behind it, as pieces. -/
def openAtoms : Option (List Inline) → List (Option Inline)
  | none => []
  | some inside => none :: inside.map some

theorem paired_openAtoms (style : Style) (inside : Option (List Inline))
    (atoms : List (Option Inline)) :
    Paired style (openAtoms inside ++ atoms) (pairUp style inside atoms) := by
  induction inside, atoms using pairUp.induct with
  | case1 => exact .done
  | case2 token rest ih => exact .token token ih
  | case3 rest ih => exact ih
  | case4 inside =>
    rw [List.append_nil]
    exact .unpaired inside
  | case5 inside token rest ih =>
    rw [openAtoms, List.map_append, List.cons_append, List.append_assoc] at ih
    exact ih
  | case6 inside rest ih => exact .span inside ih

theorem paired_pairUp (style : Style) (atoms : List (Option Inline)) :
    Paired style atoms (pairUp style none atoms) := paired_openAtoms style none atoms

/-- A level below comes with a piece, which may have got into a new span, or is the inside of a new
    span itself. -/
theorem Paired.mem_levelsBelow (h : Paired style atoms tokens)
    (hlevel : level ∈ levelsBelow around tokens) :
    (∃ piece p, some piece ∈ atoms ∧ (p = around ∨ p = style :: around) ∧
      level ∈ piece.levels p) ∨
    ∃ inside, inside.map some <:+: atoms ∧ level = ⟨style :: around, mergePlain inside⟩ := by
  induction h with
  | done => exact absurd hlevel List.not_mem_nil
  | token token _ ih =>
    rcases List.mem_append.mp hlevel with hhere | hrest
    · exact .inl ⟨token, around, List.mem_cons_self, .inl rfl, hhere⟩
    · rcases ih hrest with ⟨piece, p, hpiece, hp⟩ | ⟨inside, hinside, rfl⟩
      · exact .inl ⟨piece, p, List.mem_cons_of_mem _ hpiece, hp⟩
      · exact .inr ⟨inside, List.infix_cons hinside, rfl⟩
  | unpaired inside =>
    obtain ⟨piece, hpiece, hlevel⟩ := mem_levelsBelow_iff.mp (show level ∈ levelsBelow _ inside from hlevel)
    exact .inl ⟨piece, around, List.mem_cons_of_mem _ (List.mem_map_of_mem hpiece), .inl rfl, hlevel⟩
  | @span inside atoms tokens _ ih =>
    rcases List.mem_append.mp hlevel with hhere | hrest
    · rcases List.mem_cons.mp hhere with rfl | hbelow
      · exact .inr ⟨inside, ⟨[none], none :: atoms, by simp⟩, rfl⟩
      · rw [levelsBelow_mergePlain] at hbelow
        obtain ⟨piece, hpiece, hlevel⟩ := mem_levelsBelow_iff.mp hbelow
        refine .inl ⟨piece, style :: around, ?_, .inr rfl, hlevel⟩
        exact List.mem_cons_of_mem _ (List.mem_append_left _ (List.mem_map_of_mem hpiece))
    · rcases ih hrest with ⟨piece, p, hpiece, hp⟩ | ⟨inside', hinside, rfl⟩
      · refine .inl ⟨piece, p, ?_, hp⟩
        exact List.mem_cons_of_mem _ (List.mem_append_right _ (List.mem_cons_of_mem _ hpiece))
      · refine .inr ⟨inside', hinside.trans ⟨none :: inside.map some ++ [none], [], ?_⟩, rfl⟩
        simp

/-! ## Pieces -/

theorem atomsOf_eq_flatMap (style : Style) (tokens : List Inline) :
    atomsOf style tokens = tokens.flatMap (Inline.atoms style) := by
  induction tokens with
  | nil => rfl
  | cons token rest ih => rw [atomsOf, ih, List.flatMap_cons]

/-- A piece of plain text is plain text that is not empty. -/
theorem of_mem_plainAtoms {pieces : List Chars} {piece : Inline}
    (h : some piece ∈ plainAtoms pieces) : ∃ text ∈ pieces, text ≠ [] ∧ piece = .plain text := by
  induction pieces with
  | nil => exact absurd h List.not_mem_nil
  | cons text rest ih =>
    have hfirst (h : some piece ∈ if text = [] then [] else [some (Inline.plain text)]) :
        text ≠ [] ∧ piece = .plain text := by
      split_ifs at h with hempty
      · exact absurd h List.not_mem_nil
      · exact ⟨hempty, Option.some.inj (List.mem_singleton.mp h)⟩
    cases rest with
    | nil => exact ⟨text, List.mem_cons_self, hfirst h⟩
    | cons next rest =>
      rcases List.mem_append.mp h with h | h
      · exact ⟨text, List.mem_cons_self, hfirst h⟩
      · obtain ⟨text', hmem, htext⟩ := ih ((List.mem_cons.mp h).resolve_left (by simp))
        exact ⟨text', List.mem_cons_of_mem _ hmem, htext⟩

/-! ## Weaving a style in -/

/-- The styles with another one woven in: it may stand around the inside of each of the spans. -/
inductive Woven (style : Style) : List Style → List Style → Prop where
  | outermost : Woven style [] []
  | direct (s : Style) {around around' : List Style} :
      Woven style around around' → Woven style (s :: around) (s :: around')
  | wrapped (s : Style) {around around' : List Style} :
      Woven style around around' → Woven style (s :: around) (s :: style :: around')

namespace Woven

theorem length_le (h : Woven style around around') : around'.length ≤ 2 * around.length := by
  induction h with
  | outermost => exact Nat.le_refl 0
  | direct s _ ih => simp only [List.length_cons]; omega
  | wrapped s _ ih => simp only [List.length_cons]; omega

theorem count_eq (h : Woven style around around') {s : Style} (hs : s ≠ style) :
    around'.count s = around.count s := by
  induction h with
  | outermost => rfl
  | direct t _ ih => rw [List.count_cons, List.count_cons, ih]
  | wrapped t _ ih =>
    rw [List.count_cons, List.count_cons_of_ne (Ne.symm hs), List.count_cons, ih]

theorem mem_or (h : Woven style around around') {s : Style} (hs : s ∈ around') :
    s = style ∨ s ∈ around := by
  induction h with
  | outermost => exact absurd hs List.not_mem_nil
  | direct t _ ih =>
    rcases List.mem_cons.mp hs with rfl | hs
    · exact .inr List.mem_cons_self
    · exact (ih hs).imp_right (List.mem_cons_of_mem t)
  | wrapped t _ ih =>
    rcases List.mem_cons.mp hs with rfl | hs
    · exact .inr List.mem_cons_self
    · rcases List.mem_cons.mp hs with rfl | hs
      · exact .inl rfl
      · exact (ih hs).imp_right (List.mem_cons_of_mem t)

theorem head?_eq (h : Woven style around around') : around'.head? = around.head? := by
  cases h <;> rfl

/-- A style that was not there before can be woven in and put in front, and no two styles that
    follow each other become equal. -/
theorem isChain (h : Woven style around around') (hnew : style ∉ around)
    (hchain : around.IsChain (· ≠ ·)) : (style :: around').IsChain (· ≠ ·) := by
  induction h with
  | outermost => exact .singleton style
  | direct s hwoven ih =>
    rw [List.mem_cons, not_or] at hnew
    rw [List.isChain_cons] at hchain
    have hrest := (List.isChain_cons.mp (ih hnew.2 hchain.2)).2
    refine List.isChain_cons.mpr ⟨by simpa using hnew.1, List.isChain_cons.mpr ⟨?_, hrest⟩⟩
    rw [hwoven.head?_eq]
    exact hchain.1
  | wrapped s _ ih =>
    rw [List.mem_cons, not_or] at hnew
    have hrest := ih hnew.2 (List.isChain_cons.mp hchain).2
    refine List.isChain_cons.mpr ⟨by simpa using hnew.1, List.isChain_cons.mpr ⟨?_, hrest⟩⟩
    simpa using Ne.symm hnew.1

end Woven

/-! ## What becomes of a level -/

/-- What pairing the delimiters of a style makes of a level: the level once more, with the style
    woven in around it, and new levels inside of it. -/
inductive Remade (style : Style) (old : Level) : Level → Prop where
  | again {around : List Style} (h : Woven style old.around around) :
      Remade style old ⟨around, emphasize style old.tokens⟩
  | inside {around : List Style} (h : Woven style old.around around) (inside : List Inline)
      (hinside : inside.map some <:+: atomsOf style old.tokens) :
      Remade style old ⟨style :: around, mergePlain inside⟩

/-- Every level of tokens whose delimiters have been paired is one that has been remade, if this is
    so below the pieces. -/
theorem exists_remade_of_pieces (hwoven : Woven style around around')
    (hpieces : ∀ piece p, some piece ∈ atomsOf style tokens →
      (p = around' ∨ p = style :: around') → level ∈ piece.levels p →
        ∃ old ∈ levelsBelow around tokens, Remade style old level)
    (hlevel : level ∈ (⟨around', emphasize style tokens⟩ : Level) ::
      levelsBelow around' (emphasize style tokens)) :
    ∃ old ∈ (⟨around, tokens⟩ : Level) :: levelsBelow around tokens, Remade style old level := by
  rcases List.mem_cons.mp hlevel with rfl | hbelow
  · exact ⟨⟨around, tokens⟩, List.mem_cons_self, .again hwoven⟩
  · rw [emphasize, levelsBelow_mergePlain] at hbelow
    rcases (paired_pairUp style (atomsOf style tokens)).mem_levelsBelow hbelow with
      ⟨piece, p, hpiece, hp, hlevel⟩ | ⟨inside, hinside, rfl⟩
    · obtain ⟨old, hold, hremade⟩ := hpieces piece p hpiece hp hlevel
      exact ⟨old, List.mem_cons_of_mem _ hold, hremade⟩
    · exact ⟨⟨around, tokens⟩, List.mem_cons_self, .inside hwoven inside hinside⟩

mutual

theorem exists_remade_of_token (style : Style) : ∀ (token : Inline) {around around' p : List Style}
    {piece : Inline} {level : Level}, Woven style around around' →
    (p = around' ∨ p = style :: around') → some piece ∈ token.atoms style →
    level ∈ piece.levels p → ∃ old ∈ token.levels around, Remade style old level
  | .span s children, around, around', p, piece, level, hwoven, hp, hpiece, hlevel => by
    -- the piece is the span with its inside remade; its styles are woven by one more step
    rw [Inline.atoms, List.mem_singleton] at hpiece
    cases hpiece
    have hnext : Woven style (s :: around) (s :: p) := by
      rcases hp with rfl | rfl
      · exact .direct s hwoven
      · exact .wrapped s hwoven
    exact exists_remade_of_pieces hnext
      (fun piece q hpiece hq => exists_remade_of_tokens style children hnext hq hpiece) hlevel
  | .plain text, _, _, _, piece, _, _, _, hpiece, hlevel => by
    obtain ⟨_, -, -, rfl⟩ := of_mem_plainAtoms hpiece
    exact absurd hlevel List.not_mem_nil
  | .link target, _, _, _, piece, _, _, _, hpiece, hlevel => by
    cases Option.some.inj (List.mem_singleton.mp hpiece)
    exact absurd hlevel List.not_mem_nil
  | .mathInline source, _, _, _, piece, _, _, _, hpiece, hlevel => by
    cases Option.some.inj (List.mem_singleton.mp hpiece)
    exact absurd hlevel List.not_mem_nil
  | .mathBlock source, _, _, _, piece, _, _, _, hpiece, hlevel => by
    cases Option.some.inj (List.mem_singleton.mp hpiece)
    exact absurd hlevel List.not_mem_nil
  | .trademark, _, _, _, piece, _, _, _, hpiece, hlevel => by
    cases Option.some.inj (List.mem_singleton.mp hpiece)
    exact absurd hlevel List.not_mem_nil
  | .registered, _, _, _, piece, _, _, _, hpiece, hlevel => by
    cases Option.some.inj (List.mem_singleton.mp hpiece)
    exact absurd hlevel List.not_mem_nil

theorem exists_remade_of_tokens (style : Style) : ∀ (tokens : List Inline)
    {around around' p : List Style} {piece : Inline} {level : Level}, Woven style around around' →
    (p = around' ∨ p = style :: around') → some piece ∈ atomsOf style tokens →
    level ∈ piece.levels p → ∃ old ∈ levelsBelow around tokens, Remade style old level
  | [], _, _, _, _, _, _, _, hpiece, _ => absurd hpiece List.not_mem_nil
  | token :: rest, around, around', p, piece, level, hwoven, hp, hpiece, hlevel => by
    rcases List.mem_append.mp hpiece with hhere | hrest
    · obtain ⟨old, hold, hremade⟩ := exists_remade_of_token style token hwoven hp hhere hlevel
      exact ⟨old, List.mem_append_left _ hold, hremade⟩
    · obtain ⟨old, hold, hremade⟩ := exists_remade_of_tokens style rest hwoven hp hrest hlevel
      exact ⟨old, List.mem_append_right _ hold, hremade⟩

end

/-- Every level of tokens whose delimiters have been paired is one that has been remade. -/
theorem exists_remade (h : level ∈ levels (emphasize style tokens)) :
    ∃ old ∈ levels tokens, Remade style old level :=
  exists_remade_of_pieces .outermost
    (fun _ _ hpiece hp => exists_remade_of_tokens style tokens .outermost hp hpiece) h

/-! ## Nesting -/

/-- The styles around a level: only some are used, not too many of them, no two that follow each
    other are the same, and one at most is bold. -/
structure Level.Nests (used : List Style) (depth : Nat) (level : Level) : Prop where
  used : ∀ s ∈ level.around, s ∈ used
  depth : level.around.length ≤ depth
  alternating : level.around.IsChain (· ≠ ·)
  bold : level.around.count .bold ≤ 1

/-- With one more style, bold being the first, twice as many spans and one more can be around a
    level. -/
theorem Remade.nests {old : Level} {used : List Style} {depth : Nat} (h : Remade style old level)
    (hold : old.Nests used depth) (hnew : style ∉ used) (hbold : style = .bold → depth = 0) :
    level.Nests (style :: used) (2 * depth + 1) := by
  -- the styles of both kinds of levels are among those of the deeper one
  obtain ⟨around', hwoven, haround⟩ : ∃ around', Woven style old.around around' ∧
      level.around <:+ style :: around' := by
    cases h with
    | @again around hwoven => exact ⟨around, hwoven, List.suffix_cons style around⟩
    | @inside around hwoven inside _ => exact ⟨around, hwoven, List.suffix_refl _⟩
  have hdepth := hold.depth
  have hlength := hwoven.length_le
  have hshorter := haround.length_le
  rw [List.length_cons] at hshorter
  refine ⟨fun s hs => ?_, by omega, ?_, ?_⟩
  · rcases List.mem_cons.mp (haround.subset hs) with rfl | hs
    · exact List.mem_cons_self
    · rcases hwoven.mem_or hs with rfl | hs
      · exact List.mem_cons_self
      · exact List.mem_cons_of_mem _ (hold.used s hs)
  · exact (hwoven.isChain (fun hs => hnew (hold.used style hs)) hold.alternating).suffix haround
  · by_cases hstyle : style = .bold
    · -- the first style finds no spans, so there is one span at most
      have hzero := hbold hstyle
      exact Nat.le_trans List.count_le_length (by omega)
    · calc level.around.count .bold
          ≤ (style :: around').count .bold := haround.sublist.count_le _
        _ = old.around.count .bold := by
            rw [List.count_cons_of_ne hstyle, hwoven.count_eq (Ne.symm hstyle)]
        _ ≤ 1 := hold.bold

end ScriptReport.Script

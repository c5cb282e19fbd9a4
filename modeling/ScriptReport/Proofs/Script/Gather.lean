/-
  ScriptReport.Proofs.Script.Gather

  What tokens hold, gathered from left to right at any depth: something for each character of
  running text, delimiters and symbols included, and something for each link and formula. Pairing
  delimiters and finding symbols build spans around the tokens that were there and cut plain text
  into pieces, but whatever is gathered afterwards is what was gathered before
  (`gatherAll_readInline`). The text of tokens, their links, and their links and formulas are
  gathered in this way.
-/

import ScriptReport.Script.Inline
import Mathlib.Tactic.SplitIfs

namespace ScriptReport.Script

variable {α : Type} (char : Char → List α) (leaf : Inline → List α)

mutual

/-- What a token holds: `char` of each character, and `leaf` of each link and formula. -/
def Inline.gather : Inline → List α
  | .plain text => text.flatMap char
  | .trademark => trademarkText.flatMap char
  | .registered => registeredText.flatMap char
  | .span style children => char style.delimiter ++ gatherAll children ++ char style.delimiter
  | token => leaf token

/-- What tokens hold, in order. -/
def gatherAll : List Inline → List α
  | [] => []
  | token :: rest => token.gather ++ gatherAll rest

end

/-! ## Lists of tokens -/

@[simp] theorem gatherAll_append (a b : List Inline) :
    gatherAll char leaf (a ++ b) = gatherAll char leaf a ++ gatherAll char leaf b := by
  induction a with
  | nil => rfl
  | cons token rest ih => rw [List.cons_append, gatherAll, gatherAll, ih, List.append_assoc]

@[simp] theorem gatherAll_singleton (token : Inline) :
    gatherAll char leaf [token] = token.gather char leaf := by
  rw [gatherAll, gatherAll, List.append_nil]

theorem gatherAll_consPlain (text : Chars) (tokens : List Inline) :
    gatherAll char leaf (consPlain text tokens) =
      text.flatMap char ++ gatherAll char leaf tokens := by
  unfold consPlain
  split
  · rw [gatherAll, gatherAll, Inline.gather, Inline.gather, List.flatMap_append, List.append_assoc]
  · rw [gatherAll, Inline.gather]

theorem gatherAll_mergePlain (tokens : List Inline) :
    gatherAll char leaf (mergePlain tokens) = gatherAll char leaf tokens := by
  induction tokens using mergePlain.induct with
  | case1 => rfl
  | case2 text rest ih => rw [mergePlain, gatherAll_consPlain, ih, gatherAll, Inline.gather]
  | case3 token rest hplain ih => rw [mergePlain.eq_3 _ _ hplain, gatherAll, ih, gatherAll]

/-! ## Pairing delimiters -/

/-- A piece as a token: a delimiter is plain text. -/
def pieceToken (style : Style) : Option Inline → Inline
  | none => .plain [style.delimiter]
  | some token => token

/-- What is inside an open delimiter, with the delimiter. -/
def opened (style : Style) : Option (List Inline) → List Inline
  | none => []
  | some inside => .plain [style.delimiter] :: inside

/-- A pair of delimiters holds them around what was between them; one that stays open is text. -/
theorem gatherAll_pairUp (style : Style) (inside : Option (List Inline))
    (atoms : List (Option Inline)) :
    gatherAll char leaf (pairUp style inside atoms) =
      gatherAll char leaf (opened style inside ++ atoms.map (pieceToken style)) := by
  -- the induction follows the pairing: what is inside an open delimiter grows to the right
  induction inside, atoms using pairUp.induct with
  | case1 => rfl
  | case2 token rest ih =>
    rw [pairUp, gatherAll, ih]
    rfl
  | case3 rest ih =>
    rw [pairUp, ih]
    rfl
  | case4 inside => rw [pairUp, List.map_nil, List.append_nil, opened]
  | case5 inside token rest ih =>
    rw [pairUp, ih, opened, opened, List.cons_append, List.cons_append, List.append_assoc]
    rfl
  | case6 inside rest ih =>
    -- the delimiter that closes the pair is gathered behind what the new span holds
    have hdelimiter : ([style.delimiter] : Chars).flatMap char = char style.delimiter := by
      rw [List.flatMap_cons, List.flatMap_nil, List.append_nil]
    rw [pairUp, gatherAll, ih, Inline.gather, gatherAll_mergePlain, opened, opened,
      List.nil_append, List.cons_append, List.map_cons, gatherAll, gatherAll_append, gatherAll,
      pieceToken, Inline.gather, hdelimiter]
    simp only [List.append_assoc]

/-- The pieces of a plain text with the delimiters between them hold the text. -/
theorem gatherAll_plainAtoms (style : Style) (pieces : List Chars) :
    gatherAll char leaf ((plainAtoms pieces).map (pieceToken style)) =
      (Text.join [style.delimiter] pieces).flatMap char := by
  induction pieces with
  | nil => rfl
  | cons piece rest ih =>
    -- an empty piece is dropped, and holds nothing
    have hpiece : gatherAll char leaf
        ((if piece = [] then [] else [some (Inline.plain piece)]).map (pieceToken style)) =
          piece.flatMap char := by
      split_ifs with hempty
      · rw [hempty]
        rfl
      · exact gatherAll_singleton char leaf _
    cases rest with
    | nil => exact hpiece
    | cons next rest =>
      have hatoms : plainAtoms (piece :: next :: rest) =
          (if piece = [] then [] else [some (.plain piece)]) ++
            none :: plainAtoms (next :: rest) := rfl
      rw [hatoms, List.map_append, gatherAll_append, hpiece, List.map_cons, gatherAll, ih,
        Text.join, List.flatMap_append, List.flatMap_append, pieceToken, Inline.gather,
        List.append_assoc]

mutual

theorem gatherAll_token_atoms (style : Style) : ∀ token : Inline,
    gatherAll char leaf ((token.atoms style).map (pieceToken style)) = token.gather char leaf
  | .plain text => by
    rw [Inline.atoms, gatherAll_plainAtoms, Text.join_splitOn (by simp), Inline.gather]
  | .span s children => by
    have hinside : gatherAll char leaf (mergePlain (pairUp style none (atomsOf style children))) =
        gatherAll char leaf children := by
      rw [gatherAll_mergePlain, gatherAll_pairUp, opened, List.nil_append,
        gatherAll_atomsOf style children]
    rw [Inline.atoms, List.map_singleton, gatherAll_singleton, pieceToken, Inline.gather, hinside,
      Inline.gather]
  | .link _ => gatherAll_singleton char leaf _
  | .mathInline _ => gatherAll_singleton char leaf _
  | .mathBlock _ => gatherAll_singleton char leaf _
  | .trademark => gatherAll_singleton char leaf _
  | .registered => gatherAll_singleton char leaf _

theorem gatherAll_atomsOf (style : Style) : ∀ tokens : List Inline,
    gatherAll char leaf ((atomsOf style tokens).map (pieceToken style)) =
      gatherAll char leaf tokens
  | [] => rfl
  | token :: rest => by
    rw [atomsOf, List.map_append, gatherAll_append, gatherAll_token_atoms style token,
      gatherAll_atomsOf style rest, gatherAll]

end

theorem gatherAll_emphasize (style : Style) (tokens : List Inline) :
    gatherAll char leaf (emphasize style tokens) = gatherAll char leaf tokens := by
  rw [emphasize, gatherAll_mergePlain, gatherAll_pairUp, opened, List.nil_append,
    gatherAll_atomsOf]

/-! ## Finding symbols -/

theorem gatherAll_symbolsGo (skip : Nat) (text : Chars) :
    gatherAll char leaf (symbolsGo skip text) = (text.drop skip).flatMap char := by
  induction text generalizing skip with
  | nil => cases skip <;> rfl
  | cons c rest ih =>
    cases skip with
    | succ k => exact ih k
    | zero =>
      -- a symbol at the front takes its own text away
      have hsymbol : ∀ symbol : Chars, symbol ≠ [] → symbol.isPrefixOf (c :: rest) = true →
          symbol.flatMap char ++ (rest.drop (symbol.length - 1)).flatMap char =
            (c :: rest).flatMap char := by
        intro symbol hne hprefix
        obtain ⟨after, hafter⟩ := List.isPrefixOf_iff_prefix.mp hprefix
        obtain ⟨s, ss, rfl⟩ := List.exists_cons_of_ne_nil hne
        obtain ⟨rfl, rfl⟩ := List.cons.inj hafter
        rw [← List.flatMap_append]
        simp
      rw [symbolsGo, List.drop_zero]
      split_ifs with htrademark hregistered
      · rw [gatherAll, ih, Inline.gather, hsymbol _ (by decide) htrademark]
      · rw [gatherAll, ih, Inline.gather, hsymbol _ (by decide) hregistered]
      · rw [gatherAll_consPlain, ih, List.drop_zero, ← List.flatMap_append]
        rfl

mutual

theorem gatherAll_splitSymbols : ∀ token : Inline,
    gatherAll char leaf token.splitSymbols = token.gather char leaf
  | .plain text => by rw [Inline.splitSymbols, gatherAll_symbolsGo, List.drop_zero, Inline.gather]
  | .span style children => by
    rw [Inline.splitSymbols, gatherAll_singleton, Inline.gather, gatherAll_splitAllSymbols children,
      Inline.gather]
  | .link _ => gatherAll_singleton char leaf _
  | .mathInline _ => gatherAll_singleton char leaf _
  | .mathBlock _ => gatherAll_singleton char leaf _
  | .trademark => gatherAll_singleton char leaf _
  | .registered => gatherAll_singleton char leaf _

theorem gatherAll_splitAllSymbols : ∀ tokens : List Inline,
    gatherAll char leaf (splitAllSymbols tokens) = gatherAll char leaf tokens
  | [] => rfl
  | token :: rest => by
    rw [splitAllSymbols, gatherAll_append, gatherAll_splitSymbols token,
      gatherAll_splitAllSymbols rest, gatherAll]

end

/-- Running text holds what its links and formulas, found first, and the text between them hold. -/
theorem gatherAll_readInline (text : Chars) :
    gatherAll char leaf (readInline text) = gatherAll char leaf (protectedSpans text) := by
  rw [readInline, gatherAll_splitAllSymbols, gatherAll_emphasize, gatherAll_emphasize,
    gatherAll_emphasize]

end ScriptReport.Script

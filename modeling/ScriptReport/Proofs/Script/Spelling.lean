/-
  ScriptReport.Proofs.Script.Spelling

  Writing the tokens of running text down again. Plain text, delimiters and symbols come back as
  they are, and links in their usual form. Main statement: reading running text loses nothing
  (`readInline_loses_nothing`): its tokens spell the text with each link in its usual form, and the
  links and formulas among them are the marks of the scan, in order.
-/

import ScriptReport.Proofs.Script.ProtectedSpan

namespace ScriptReport.Script

/-! ## Texts with usual links -/

/-- The mark with a link in its usual form, address and label separated by a space. -/
def Mark.usual : Mark → Chars
  | .link url tail => '<' :: url ++ ' ' :: labelOf url tail ++ ['>']
  | mark => mark.text

/-- The mark is a link. -/
def Mark.isLink : Mark → Bool
  | .link _ _ => true
  | _ => false

/-- The text of a scan with its links in their usual form. -/
def rewritten (hits : List Hit) (rest : Chars) : Chars :=
  hits.flatMap (fun hit => hit.before ++ hit.mark.usual) ++ rest

/-- The links and formulas among tokens, from left to right at any depth. -/
def leavesOf (tokens : List Inline) : List Inline :=
  gatherAll (fun _ => []) (fun leaf => [leaf]) tokens

/-! ## Spelling -/

mutual

theorem spell_eq_gather : ∀ token : Inline,
    token.spell = token.gather (fun c => [c]) Inline.spell
  | .plain text => (List.flatMap_singleton' text).symm
  | .span style children => by
    rw [Inline.spell, Inline.gather, spellAll_eq_gatherAll children, List.singleton_append]
  | .link _ => rfl
  | .mathInline _ => rfl
  | .mathBlock _ => rfl
  | .trademark => rfl
  | .registered => rfl

theorem spellAll_eq_gatherAll : ∀ tokens : List Inline,
    spellAll tokens = gatherAll (fun c => [c]) Inline.spell tokens
  | [] => rfl
  | token :: rest => by
    rw [spellAll, gatherAll, spell_eq_gather token, spellAll_eq_gatherAll rest]

end

theorem labelOf_ne_nil {url : Chars} (hurl : url ≠ []) (tail : Chars) : labelOf url tail ≠ [] := by
  unfold labelOf
  split_ifs with htail
  · exact hurl
  · exact htail

/-- What unpacking makes of an address and a label. They are cut apart at the first null character,
    and if the address has one itself, what comes behind it goes to the label. -/
def unpacked (url label : Chars) : Chars × Chars :=
  match Text.cutAt? '\x00' url with
  | none => (url, label)
  | some (front, behind) => (front, behind ++ '\x00' :: label)

theorem unpackLink_packLink {url label : Chars} (hlabel : label ≠ []) :
    unpackLink (packLink url label) = unpacked url label := by
  -- without a label the address would be shown in its place
  have hcut {front rest : Chars} (hfront : '\x00' ∉ front) (hrest : rest ≠ []) :
      unpackLink (front ++ '\x00' :: rest) = (front, rest) := by
    obtain ⟨c, cs, rfl⟩ := List.exists_cons_of_ne_nil hrest
    rw [unpackLink, Text.cutAt?_append_cons hfront]
  rw [packLink, unpacked]
  split
  · next hnone => exact hcut (Text.cutAt?_eq_none_iff.mp hnone) hlabel
  · next front behind hsome =>
    obtain ⟨rfl, hfront⟩ := Text.eq_of_cutAt? hsome
    rw [List.append_assoc, List.cons_append]
    exact hcut hfront (List.append_ne_nil_of_right_ne_nil _ (List.cons_ne_nil _ _))

theorem unpacked_of_not_mem {url : Chars} (h : '\x00' ∉ url) (label : Chars) :
    unpacked url label = (url, label) := by
  rw [unpacked, Text.cutAt?_eq_none_iff.mpr h]

/-- A link is spelled in its usual form, unless there is a null character in its address. -/
theorem spellLink_packLink {url label : Chars} (hnull : '\x00' ∉ url) (hlabel : label ≠ []) :
    spellLink (packLink url label) = '<' :: url ++ ' ' :: label ++ ['>'] := by
  rw [spellLink, unpackLink_packLink hlabel, unpacked_of_not_mem hnull]

theorem spell_token {mark : Mark} (h : mark.Fits) (hnull : '\x00' ∉ mark.text) :
    mark.token.spell = mark.usual := by
  cases mark with
  | mathBlock source => rfl
  | mathInline source => rfl
  | link url tail =>
    obtain ⟨⟨scheme, -, address, rfl, hne, -⟩, -⟩ := h
    have hurl : '\x00' ∉ scheme ++ address := fun hin => hnull (by
      rw [Mark.text, List.append_assoc, List.cons_append]
      exact List.mem_cons_of_mem _ (List.mem_append_left _ hin))
    exact spellLink_packLink hurl (labelOf_ne_nil (List.append_ne_nil_of_right_ne_nil _ hne) _)

/-! ## Nothing is lost -/

/-- Every text has a scan. The tokens of running text without null characters spell it with the
    links of the scan in their usual form, and so the text itself where there are none; their links
    and formulas are the marks of the scan, in order. -/
theorem readInline_loses_nothing (text : Chars) (hnull : '\x00' ∉ text) :
    (∃ hits rest, Scan text hits rest) ∧
      ∀ hits rest, Scan text hits rest →
        spellAll (readInline text) = rewritten hits rest ∧
        leavesOf (readInline text) = hits.map (·.mark.token) ∧
        ((∀ hit ∈ hits, hit.mark.isLink = false) → spellAll (readInline text) = text) := by
  refine ⟨exists_scan text, fun hits rest hscan => ?_⟩
  -- spelling is a way to gather, and gathering the tokens is gathering along the scan
  have hspell : spellAll (readInline text) = rewritten hits rest := by
    rw [spellAll_eq_gatherAll, gatherAll_readInline, gatherAll_of_scan _ _ hscan, rewritten,
      List.flatMap_singleton']
    congr 1
    refine List.flatMap_congr fun hit hin => ?_
    have hmark : '\x00' ∉ hit.mark.text := by
      intro h
      refine hnull ?_
      rw [hscan.text_eq]
      exact List.mem_append_left _ (List.mem_flatMap.mpr ⟨hit, hin, List.mem_append_right _ h⟩)
    rw [List.flatMap_singleton', spell_token (hscan.fits hit hin) hmark]
  refine ⟨hspell, ?_, fun hlinks => ?_⟩
  · rw [leavesOf, gatherAll_readInline, gatherLeaves_of_scan _ hscan, List.map_eq_flatMap]
  · rw [hspell, rewritten]
    -- only a link has a usual form that may differ from what was written
    conv_rhs => rw [hscan.text_eq]
    congr 1
    refine List.flatMap_congr fun hit hin => ?_
    have husual : hit.mark.usual = hit.mark.text := by
      cases hmark : hit.mark with
      | mathBlock source => rfl
      | mathInline source => rfl
      | link url tail =>
        have hnot := hlinks hit hin
        rw [hmark] at hnot
        cases hnot
    rw [husual]

/-- A formula and a link with a label, inside of a bold span. -/
theorem readInline_loses_nothing_of_mixed :
    spellAll (readInline "*a $b_1$ <http:c_  d >*") = ("*a $b_1$ <http:c_ d>*" : Chars) ∧
      leavesOf (readInline "*a $b_1$ <http:c_  d >*") =
        [.mathInline "b_1", .link (packLink "http:c_" "d")] := by
  have hend : Scan ['*'] [] ['*'] := by
    refine .done fun i => ?_
    cases i with
    | zero => decide
    | succ i => rw [List.drop_succ_cons, List.drop_nil]; exact not_startsWithMark_nil
  have hlink : (Mark.link "http:c_" "  d ").Fits := by
    refine ⟨⟨"http:", by decide, "c_", rfl, by decide, List.all_eq_true.mp (by decide)⟩, ?_,
      by decide⟩
    intro c hc
    cases hc
    decide
  have hformula : (Mark.mathInline "b_1").Fits := ⟨by decide, List.all_eq_true.mp (by decide)⟩
  have hscan : Scan ("*a " ++ (Mark.mathInline "b_1").text ++
      (" " ++ (Mark.link "http:c_" "  d ").text ++ ['*']))
      [⟨"*a ", .mathInline "b_1"⟩, ⟨" ", .link "http:c_" "  d "⟩] ['*'] :=
    .found hformula (by decide) (.found hlink (by decide) hend)
  obtain ⟨-, hall⟩ := readInline_loses_nothing "*a $b_1$ <http:c_  d >*" (by decide)
  obtain ⟨hspell, hleaves, -⟩ := hall _ _ hscan
  exact ⟨hspell, hleaves⟩

end ScriptReport.Script

/-
  ScriptReport.Proofs.Report.LinkCalls

  What the walk over running text hands to a format for its links. `renderTokensNoting` is the walk
  that also notes the address and the label of each link fragment it asks for. The notes are told by
  the links that the scan of the text meets, in order (`calls_readInline`). Main statement: each
  link is handed over as it is written exactly if no address has a null character
  (`link_calls_written_iff`).
-/

import ScriptReport.Proofs.Script.Spelling
import ScriptReport.Report.Render

namespace ScriptReport.Script

/-! ## Links in a text -/

/-- The address of a link, and what is between the address and the closing bracket. -/
def Mark.link? : Mark → Option (Chars × Chars)
  | .link url tail => some (url, tail)
  | _ => none

/-- The links that a scan meets, in order. -/
def linksMet (hits : List Hit) : List (Chars × Chars) := hits.filterMap (·.mark.link?)

/-- The address is what is in front of the first null character, and so all of it only if it has
    none. -/
theorem fst_unpacked_eq_iff (url label : Chars) : (unpacked url label).1 = url ↔ '\x00' ∉ url := by
  rw [unpacked]
  split
  · next hnone => exact iff_of_true rfl (Text.cutAt?_eq_none_iff.mp hnone)
  · next front behind hsome =>
    obtain ⟨rfl, -⟩ := Text.eq_of_cutAt? hsome
    refine iff_of_false (fun h => ?_) (by simp)
    exact List.cons_ne_nil _ _ (List.self_eq_append_right.mp h)

end ScriptReport.Script

namespace ScriptReport.Report

open ScriptReport.Script

/-! ## The walk with notes -/

/-- What the fragment of a link is asked for with. -/
structure LinkCall where
  url : Chars
  label : Chars
  deriving DecidableEq, Repr

mutual

/-- The fragment of a token, and the link fragments that were asked for. -/
def renderTokenNoting (b : BackEnd) : Inline → Chars × List LinkCall
  | .link target =>
    let call : LinkCall := ⟨(unpackLink target).1, b.escape (unpackLink target).2⟩
    (b.link call.url call.label, [call])
  | .span style children =>
    let (inside, calls) := renderTokensNoting b children
    (b.styled style inside, calls)
  | token => (renderToken b token, [])

/-- The fragments of tokens, and the link fragments that were asked for, in order. -/
def renderTokensNoting (b : BackEnd) : List Inline → Chars × List LinkCall
  | [] => ([], [])
  | token :: rest =>
    let (first, calls) := renderTokenNoting b token
    let (others, later) := renderTokensNoting b rest
    (first ++ others, calls ++ later)

end

/-- The link fragments that the walk over tokens asks for. -/
def linkCalls (b : BackEnd) (tokens : List Inline) : List LinkCall :=
  (renderTokensNoting b tokens).2

/-- What the fragment of a link is to be asked for with: the address as it is written, and the
    escaped label, trimmed, or the address where there is none. -/
def LinkCall.written (b : BackEnd) (link : Chars × Chars) : LinkCall :=
  ⟨link.1, b.escape (labelOf link.1 link.2)⟩

/-- What the fragment of a link is asked for with. -/
def LinkCall.handed (b : BackEnd) (link : Chars × Chars) : LinkCall :=
  let (url, label) := unpacked link.1 (labelOf link.1 link.2)
  ⟨url, b.escape label⟩

variable (b : BackEnd)

/-! ## Notes change nothing -/

mutual

theorem fst_renderTokenNoting : ∀ token : Inline,
    (renderTokenNoting b token).1 = renderToken b token
  | .plain _ => rfl
  | .link _ => rfl
  | .mathInline _ => rfl
  | .mathBlock _ => rfl
  | .trademark => rfl
  | .registered => rfl
  | .span style children => by
    rw [renderTokenNoting, renderToken, ← fst_renderTokensNoting children]

/-- Noting the calls does not change what is rendered. -/
theorem fst_renderTokensNoting : ∀ tokens : List Inline,
    (renderTokensNoting b tokens).1 = renderTokens b tokens
  | [] => rfl
  | token :: rest => by
    rw [renderTokensNoting, renderTokens, ← fst_renderTokenNoting token,
      ← fst_renderTokensNoting rest]

end

/-! ## Notes are gathered -/

mutual

theorem snd_renderTokenNoting : ∀ token : Inline,
    (renderTokenNoting b token).2 =
      token.gather (fun _ => []) (fun leaf => (renderTokenNoting b leaf).2)
  | .plain _ => (List.flatMap_eq_nil_iff.mpr fun _ _ => rfl).symm
  | .link _ => rfl
  | .mathInline _ => rfl
  | .mathBlock _ => rfl
  | .trademark => rfl
  | .registered => rfl
  | .span style children => by
    rw [Inline.gather, List.nil_append, List.append_nil, ← linkCalls_eq_gatherAll children]
    rfl

theorem linkCalls_eq_gatherAll : ∀ tokens : List Inline,
    linkCalls b tokens =
      gatherAll (fun _ => []) (fun leaf => (renderTokenNoting b leaf).2) tokens
  | [] => rfl
  | token :: rest => by
    rw [gatherAll, ← snd_renderTokenNoting token, ← linkCalls_eq_gatherAll rest]
    rfl

end

variable {b} {text rest : Chars} {hits : List Hit}

/-- A mark asks for one link fragment if it is a link, and for none if it is a formula. -/
theorem snd_renderTokenNoting_mark {mark : Mark} (h : mark.Fits) :
    (renderTokenNoting b mark.token).2 = (mark.link?.map (LinkCall.handed b)).toList := by
  cases mark with
  | mathBlock source => rfl
  | mathInline source => rfl
  | link url tail =>
    obtain ⟨⟨scheme, -, address, rfl, hne, -⟩, -⟩ := h
    have hlabel : labelOf (scheme ++ address) tail ≠ [] :=
      labelOf_ne_nil (List.append_ne_nil_of_right_ne_nil _ hne) tail
    rw [Mark.token, renderTokenNoting, unpackLink_packLink hlabel]
    rfl

/-- At any depth of nesting, the links of a text are handed over in order, each of them once. -/
theorem calls_readInline (h : Scan text hits rest) :
    linkCalls b (readInline text) = (linksMet hits).map (LinkCall.handed b) := by
  rw [linkCalls_eq_gatherAll, gatherAll_readInline, gatherLeaves_of_scan _ h, linksMet,
    List.map_filterMap, List.filterMap_eq_flatMap_toList]
  exact List.flatMap_congr fun hit hin => snd_renderTokenNoting_mark (h.fits hit hin)

theorem handed_eq_written_iff (link : Chars × Chars) :
    LinkCall.handed b link = LinkCall.written b link ↔ '\x00' ∉ link.1 := by
  refine ⟨fun h => ?_, fun h => ?_⟩
  · exact (fst_unpacked_eq_iff link.1 (labelOf link.1 link.2)).mp (congrArg LinkCall.url h)
  · rw [LinkCall.handed, unpacked_of_not_mem h, LinkCall.written]

/-! ## Main statement -/

/-- Every text has a scan. The walk over its tokens asks for one link fragment for each link that
    the scan meets, in order, and hands over what unpacking makes of address and label; this is the
    address and the escaped label as they are written, for all links, exactly if no null character
    stands in an address. -/
theorem link_calls_written_iff (b : BackEnd) (text : Chars) :
    (renderTokensNoting b (readInline text)).1 = renderInline b text ∧
      (∃ hits rest, Scan text hits rest) ∧
      ∀ hits rest, Scan text hits rest →
        linkCalls b (readInline text) = (linksMet hits).map (LinkCall.handed b) ∧
        (linkCalls b (readInline text) = (linksMet hits).map (LinkCall.written b) ↔
          ∀ link ∈ linksMet hits, '\x00' ∉ link.1) := by
  refine ⟨fst_renderTokensNoting b _, exists_scan text, fun hits rest hscan => ?_⟩
  have hcalls := calls_readInline (b := b) hscan
  refine ⟨hcalls, ?_⟩
  rw [hcalls, List.map_inj_left]
  exact forall₂_congr fun link _ => handed_eq_written_iff link

/-- The null character of an address goes to the label, with what is behind it. -/
theorem link_call_not_written :
    Scan "<http:a\x00b c>" [⟨[], .link "http:a\x00b" " c"⟩] [] ∧
      linkCalls Html.backEnd (readInline "<http:a\x00b c>") = [⟨"http:a", "b\x00c"⟩] ∧
      (linksMet [⟨[], .link "http:a\x00b" " c"⟩]).map (LinkCall.written Html.backEnd) =
        [⟨"http:a\x00b", "c"⟩] ∧
      linkCalls Html.backEnd (readInline "<http:a\x00b c>") ≠ [⟨"http:a\x00b", "c"⟩] := by
  have hlink : (Mark.link "http:a\x00b" " c").Fits := by
    refine ⟨⟨"http:", by decide, "a\x00b", rfl, by decide, List.all_eq_true.mp (by decide)⟩, ?_,
      by decide⟩
    intro c hc
    cases hc
    decide
  have hend : Scan [] [] [] := .done fun i => by
    rw [List.drop_nil]
    exact not_startsWithMark_nil
  have hscan : Scan ([] ++ (Mark.link "http:a\x00b" " c").text ++ [])
      [⟨[], .link "http:a\x00b" " c"⟩] [] :=
    .found hlink (by decide) hend
  have hcalls : linkCalls Html.backEnd (readInline "<http:a\x00b c>") =
      [⟨"http:a", "b\x00c"⟩] := calls_readInline hscan
  refine ⟨hscan, hcalls, by decide, ?_⟩
  rw [hcalls]
  decide

end ScriptReport.Report

/-
  ScriptReport.Proofs.Script.Link

  The links of running text. They are marks of the scan, and the address of each starts with one of
  the known schemes (`hasScheme_of_mem_linksOf`).
-/

import ScriptReport.Proofs.Script.ProtectedSpan

namespace ScriptReport.Script

/-! ## The links of tokens -/

mutual

/-- The targets of the links in a token. -/
def Inline.links : Inline → List Chars
  | .link target => [target]
  | .span _ children => linksOf children
  | _ => []

/-- The targets of the links in tokens, in order. -/
def linksOf : List Inline → List Chars
  | [] => []
  | token :: rest => token.links ++ linksOf rest

end

mutual

theorem links_eq_gather : ∀ token : Inline,
    token.links = token.gather (fun _ => []) Inline.links
  | .plain _ => (List.flatMap_eq_nil_iff.mpr fun _ _ => rfl).symm
  | .span _ children => by
    rw [Inline.gather, List.nil_append, List.append_nil, Inline.links, linksOf_eq_gatherAll children]
  | .link _ => rfl
  | .mathInline _ => rfl
  | .mathBlock _ => rfl
  | .trademark => rfl
  | .registered => rfl

theorem linksOf_eq_gatherAll : ∀ tokens : List Inline,
    linksOf tokens = gatherAll (fun _ => []) Inline.links tokens
  | [] => rfl
  | token :: rest => by
    rw [linksOf, gatherAll, links_eq_gather token, linksOf_eq_gatherAll rest]

end

/-! ## Addresses -/

/-- The address starts with one of the schemes of links. -/
def HasScheme (url : Chars) : Prop := ∃ scheme ∈ linkSchemes, scheme <+: url

/-- A null character in the address does not take its scheme away. -/
theorem HasScheme.unpackLink {url : Chars} (h : HasScheme url) (label : Chars) :
    HasScheme (unpackLink (packLink url label)).1 := by
  obtain ⟨scheme, hscheme, rest, rfl⟩ := h
  -- the address is cut at its first null character, which comes after the scheme
  have hnull : ∀ scheme ∈ linkSchemes, '\x00' ∉ scheme := by decide
  refine ⟨scheme, hscheme, ?_⟩
  rw [Script.unpackLink, packLink, List.append_assoc, Text.cutAt?_append (hnull scheme hscheme)]
  cases Text.cutAt? '\x00' (rest ++ '\x00' :: label) with
  | none => exact List.prefix_append _ _
  | some cut =>
    obtain ⟨a, b⟩ := cut
    cases b with
    | nil => exact List.prefix_append _ _
    | cons x xs => exact List.prefix_append _ _

/-- A mark that fits the pattern is a link with a scheme, or no link. -/
theorem Mark.Fits.hasScheme {mark : Mark} (h : mark.Fits) :
    ∀ target ∈ mark.token.links, HasScheme (unpackLink target).1 := by
  cases mark with
  | mathBlock source => exact fun target htarget => absurd htarget List.not_mem_nil
  | mathInline source => exact fun target htarget => absurd htarget List.not_mem_nil
  | link url tail =>
    obtain ⟨⟨scheme, hscheme, address, rfl, -⟩, -⟩ := h
    intro target htarget
    rw [List.mem_singleton.mp htarget]
    exact HasScheme.unpackLink ⟨scheme, hscheme, List.prefix_append _ _⟩ _

/-- Every link of running text has an address with one of the schemes. -/
theorem hasScheme_of_mem_linksOf {text target : Chars} (h : target ∈ linksOf (readInline text)) :
    HasScheme (unpackLink target).1 := by
  obtain ⟨hits, rest, hscan⟩ := exists_scan text
  rw [linksOf_eq_gatherAll, gatherAll_readInline, gatherLeaves_of_scan _ hscan] at h
  obtain ⟨hit, hin, htarget⟩ := List.mem_flatMap.mp h
  exact (hscan.fits hit hin).hasScheme target htarget

end ScriptReport.Script

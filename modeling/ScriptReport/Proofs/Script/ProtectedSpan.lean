/-
  ScriptReport.Proofs.Script.ProtectedSpan

  The links and formulas of running text as a pattern accepts them (`Mark.Fits`), and the scan that
  takes them from left to right without overlap (`Scan`). What `protectedSpan?` finds at the front
  of a text is exactly what the pattern accepts there (`protectedSpan?_eq_some_iff`). So the tokens
  that are found first hold the text passed over by the scan, and its marks (`gatherAll_of_scan`).
-/

import ScriptReport.Proofs.Script.Gather
import ScriptReport.Proofs.Text.Occurrence
import Mathlib.Data.Nat.Find

namespace ScriptReport.Script

/-! ## Links and formulas in a text -/

/-- A link or formula as it stands in a text. -/
inductive Mark where
  | mathBlock (source : Chars)
  | mathInline (source : Chars)
  /-- A link: its address, and what is between the address and the closing bracket. -/
  | link (url tail : Chars)
  deriving DecidableEq, Repr

/-- The label of a link, trimmed; where there is none the address is the label. -/
def labelOf (url tail : Chars) : Chars :=
  if Text.trim tail = [] then url else Text.trim tail

namespace Mark

/-- The mark as it is written. -/
def text : Mark → Chars
  | .mathBlock source => "$$" ++ source ++ "$$"
  | .mathInline source => '$' :: source ++ ['$']
  | .link url tail => '<' :: url ++ tail ++ ['>']

/-- The token of the mark. -/
def token : Mark → Inline
  | .mathBlock source => .mathBlock source
  | .mathInline source => .mathInline source
  | .link url tail => .link (packLink url (labelOf url tail))

/-- What the pattern of links and formulas accepts. A formula between double dollars has at least
    one character and ends at the first double dollar after it; one between single dollars is not
    empty, and has no dollar and no line feed; a link has a scheme and at least one more character
    in its address, which ends at a blank or at the bracket. -/
def Fits : Mark → Prop
  | .mathBlock source =>
    source ≠ [] ∧ ∀ i, 0 < i → i < source.length →
      ¬ ("$$" : Chars) <+: (source ++ ("$$" : Chars)).drop i
  | .mathInline source => source ≠ [] ∧ ∀ c ∈ source, isMathChar c = true
  | .link url tail =>
    (∃ scheme ∈ linkSchemes, ∃ address, url = scheme ++ address ∧ address ≠ [] ∧
      ∀ c ∈ address, isUrlChar c = true) ∧
    (∀ c, tail.head? = some c → Text.isBlankChar c = true) ∧ '>' ∉ tail

end Mark

/-- The text starts with a mark that becomes the token and takes `size` characters. -/
def IsMarkAt (text : Chars) (token : Inline) (size : Nat) : Prop :=
  ∃ mark after, Mark.Fits mark ∧ text = mark.text ++ after ∧ token = mark.token ∧
    size = mark.text.length

/-- A link or formula stands at the front of the text. -/
def StartsWithMark (text : Chars) : Prop := ∃ mark after, Mark.Fits mark ∧ text = mark.text ++ after

/-- A mark met by a scan, and the text passed over before it. -/
structure Hit where
  before : Chars
  mark : Mark
  deriving DecidableEq, Repr

/-- The scan of a text from left to right: the first mark is taken, and the scan goes on behind it.
    The text after the last mark has none. -/
inductive Scan : Chars → List Hit → Chars → Prop where
  | done {rest : Chars} (hnone : ∀ i, ¬ StartsWithMark (rest.drop i)) : Scan rest [] rest
  | found {before after rest : Chars} {mark : Mark} {hits : List Hit} (hmark : mark.Fits)
      (hfirst : ∀ i < before.length, ¬ StartsWithMark ((before ++ mark.text ++ after).drop i))
      (hscan : Scan after hits rest) :
      Scan (before ++ mark.text ++ after) (⟨before, mark⟩ :: hits) rest

/-! ## What is found fits the pattern -/

attribute [local simp] Mark.text

variable {text after : Chars} {token : Inline} {size : Nat}

/-- Double dollars behind a text stand where they stand in front of anything that follows. -/
theorem dollars_prefix_iff {cs : Chars} {i : Nat} (hi : i ≤ cs.length) :
    ("$$" : Chars) <+: (cs ++ ("$$" ++ after)).drop i ↔
      ("$$" : Chars) <+: (cs ++ ("$$" : Chars)).drop i := by
  have hsplit : (cs ++ (("$$" : Chars) ++ after)).drop i =
      (cs ++ ("$$" : Chars)).drop i ++ after := by
    rw [← List.append_assoc, List.drop_append_of_le_length]
    rw [List.length_append]
    omega
  rw [hsplit]
  refine ⟨fun h => ?_, fun h => h.trans (List.prefix_append _ _)⟩
  refine List.prefix_of_prefix_length_le h (List.prefix_append _ _) ?_
  rw [List.length_drop, List.length_append]
  omega

theorem isMarkAt_of_mathBlock? (h : mathBlock? text = some (token, size)) :
    IsMarkAt text token size := by
  unfold mathBlock? at h
  split at h
  · next c rest =>
    obtain ⟨n, hn, hfound⟩ := Option.map_eq_some_iff.mp h
    cases hfound
    obtain ⟨cs, b, rfl, rfl⟩ := Text.find?_eq_some_split hn
    have htake : (cs ++ ("$$" : Chars) ++ b).take cs.length = cs := by simp
    rw [List.append_assoc] at hn htake
    refine ⟨.mathBlock (c :: cs), b, ⟨by simp, fun i hpos hi => ?_⟩, ?_, ?_, ?_⟩
    · -- the first character belongs to the formula, the search starts behind it
      obtain ⟨j, rfl⟩ := Nat.exists_eq_succ_of_ne_zero (Nat.ne_of_gt hpos)
      rw [List.length_cons, Nat.succ_lt_succ_iff] at hi
      have hbefore := (Text.find?_eq_some_iff.mp hn).2 j hi
      rwa [dollars_prefix_iff hi.le] at hbefore
    · simp
    · rw [List.append_assoc, htake]
      rfl
    · simp
  · cases h

theorem isMarkAt_of_mathInline? (h : mathInline? text = some (token, size)) :
    IsMarkAt text token size := by
  unfold mathInline? at h
  split at h
  · next rest =>
    obtain ⟨source, behind, rfl, hsource, hstop⟩ := Text.exists_longest isMathChar rest
    simp only [Text.takeWhile_append_of_head? hsource hstop, List.drop_left] at h
    split_ifs at h with hclosed
    cases h
    rw [Bool.and_eq_true, decide_eq_true_iff, decide_eq_true_iff] at hclosed
    obtain ⟨hne, hdollar⟩ := hclosed
    obtain ⟨after, rfl⟩ := List.head?_eq_some_iff.mp hdollar
    refine ⟨.mathInline source, after, ⟨hne, hsource⟩, ?_, rfl, ?_⟩
    · simp
    · simp
  · cases h

theorem isMarkAt_of_link? (h : link? text = some (token, size)) :
    IsMarkAt text token size := by
  unfold link? at h
  split at h
  · next rest =>
    split at h
    · cases h
    · next scheme hscheme =>
      have hmem : scheme ∈ linkSchemes := List.mem_of_find?_eq_some hscheme
      have hprefix : scheme.isPrefixOf rest = true := by
        have hfound := List.find?_some hscheme
        exact hfound
      obtain ⟨path, rfl⟩ := List.isPrefixOf_iff_prefix.mp hprefix
      -- the rest of the address, what is in front of the bracket, and what is behind it
      obtain ⟨address, behind, rfl, haddress, hstop⟩ := Text.exists_longest isUrlChar path
      obtain ⟨tail, closing, rfl, htail, hclosing⟩ := Text.exists_longest (· != '>') behind
      rw [← List.append_assoc] at h
      simp only [List.append_assoc, List.drop_left, Text.takeWhile_append_of_head? haddress hstop]
        at h
      rw [← List.append_assoc] at h
      simp only [List.drop_left, Text.takeWhile_append_of_head? htail hclosing] at h
      by_cases hfails : (decide ((scheme ++ address).length = scheme.length) ||
          closing.isEmpty) = true
      · rw [if_pos hfails] at h
        cases h
      · rw [if_neg hfails] at h
        cases h
        rw [Bool.or_eq_true, not_or, decide_eq_true_iff, List.isEmpty_iff] at hfails
        obtain ⟨bracket, after, rfl⟩ := List.exists_cons_of_ne_nil hfails.2
        have hbracket : bracket = '>' := by simpa using hclosing bracket rfl
        subst hbracket
        refine ⟨.link (scheme ++ address) tail, after, ⟨⟨scheme, hmem, address, rfl, ?_, haddress⟩,
          fun c hc => ?_, fun hin => by simpa using htail _ hin⟩, ?_, rfl, ?_⟩
        · rintro rfl
          simp at hfails
        · -- the address ends here, and not at the bracket
          have hnot : isUrlChar c = false := hstop c (by rw [List.head?_append, hc]; rfl)
          have hin : c ∈ tail := List.mem_of_mem_head? hc
          have hne : (c != '>') = true := htail c hin
          simpa [isUrlChar, hne] using hnot
        · simp
        · simp
          omega
  · cases h

/-! ## What fits the pattern is found -/

theorem mathBlock?_of_fits {source : Chars} (h : (Mark.mathBlock source).Fits) (after : Chars) :
    mathBlock? ((Mark.mathBlock source).text ++ after) =
      some (.mathBlock source, (Mark.mathBlock source).text.length) := by
  obtain ⟨hne, hfirst⟩ := h
  obtain ⟨c, cs, rfl⟩ := List.exists_cons_of_ne_nil hne
  have hfound : Text.find? "$$" (cs ++ (("$$" : Chars) ++ after)) = some cs.length := by
    rw [Text.find?_eq_some_iff]
    refine ⟨by rw [List.drop_left]; exact List.prefix_append _ _, fun j hj => ?_⟩
    rw [dollars_prefix_iff hj.le]
    exact hfirst (j + 1) (by omega) (by simpa using hj)
  have htext : (Mark.mathBlock (c :: cs)).text ++ after =
      '$' :: '$' :: c :: (cs ++ (("$$" : Chars) ++ after)) := by simp
  rw [htext, mathBlock?, hfound, Option.map_some, List.take_left]
  simp

theorem mathInline?_of_fits {source : Chars} (h : (Mark.mathInline source).Fits) (after : Chars) :
    mathInline? ((Mark.mathInline source).text ++ after) =
      some (.mathInline source, (Mark.mathInline source).text.length) := by
  obtain ⟨hne, hsource⟩ := h
  have htext : (Mark.mathInline source).text ++ after = '$' :: (source ++ '$' :: after) := by
    simp
  have hlongest : (source ++ '$' :: after).takeWhile isMathChar = source :=
    Text.takeWhile_append_of_head? hsource (by simp [isMathChar])
  rw [htext, mathInline?]
  simp only [hlongest, List.drop_left]
  rw [if_pos (by simp [hne])]
  simp

/-- No formula between double dollars starts where one between single dollars does. -/
theorem mathBlock?_of_mathInline {source : Chars} (h : (Mark.mathInline source).Fits)
    (after : Chars) : mathBlock? ((Mark.mathInline source).text ++ after) = none := by
  obtain ⟨hne, hsource⟩ := h
  obtain ⟨c, cs, rfl⟩ := List.exists_cons_of_ne_nil hne
  have hc : c ≠ '$' := by
    rintro rfl
    exact absurd (hsource _ List.mem_cons_self) (by decide)
  unfold mathBlock?
  split
  · next heq =>
    simp only [Mark.text, List.cons_append, List.cons.injEq] at heq
    exact absurd heq.2.1 hc
  · rfl

/-- No scheme is the beginning of another one. -/
theorem scheme?_append {scheme : Chars} (h : scheme ∈ linkSchemes) (rest : Chars) :
    scheme? (scheme ++ rest) = some scheme := by
  -- two schemes in front of one text are prefixes of each other, and so the same
  have halone : ∀ a ∈ linkSchemes, ∀ b ∈ linkSchemes, a <+: b → a = b := by decide
  have hself : scheme.isPrefixOf (scheme ++ rest) = true :=
    List.isPrefixOf_iff_prefix.mpr (List.prefix_append _ _)
  cases hfound : scheme? (scheme ++ rest) with
  | none => exact absurd hself (by simpa using List.find?_eq_none.mp hfound scheme h)
  | some other =>
    have hother : other ∈ linkSchemes := List.mem_of_find?_eq_some hfound
    have hprefix : other.isPrefixOf (scheme ++ rest) = true := by
      have hsome := List.find?_some hfound
      exact hsome
    rw [List.isPrefixOf_iff_prefix] at hprefix
    rcases List.prefix_or_prefix_of_prefix hprefix (List.prefix_append scheme rest) with hle | hle
    · rw [halone other hother scheme h hle]
    · rw [halone scheme h other hother hle]

theorem link?_of_fits {url tail : Chars} (h : (Mark.link url tail).Fits) (after : Chars) :
    link? ((Mark.link url tail).text ++ after) =
      some ((Mark.link url tail).token, (Mark.link url tail).text.length) := by
  obtain ⟨⟨scheme, hscheme, address, rfl, hne, haddress⟩, htail, hbracket⟩ := h
  have htext : (Mark.link (scheme ++ address) tail).text ++ after =
      '<' :: (scheme ++ (address ++ (tail ++ '>' :: after))) := by simp
  have hurl : (address ++ (tail ++ '>' :: after)).takeWhile isUrlChar = address := by
    refine Text.takeWhile_append_of_head? haddress fun next hnext => ?_
    -- the address ends at a blank, or at the bracket if there is no label
    cases tail with
    | nil =>
      cases hnext
      decide
    | cons c cs =>
      have hblank : Text.isBlankChar next = true := htail next hnext
      simp [isUrlChar, hblank]
  have hlabel : (tail ++ '>' :: after).takeWhile (· != '>') = tail := by
    refine Text.takeWhile_append_of_head? (fun c hc => ?_) (by simp)
    rw [bne_iff_ne]
    rintro rfl
    exact hbracket hc
  rw [htext, link?]
  simp only [scheme?_append hscheme, List.drop_left, hurl]
  rw [← List.append_assoc scheme]
  simp only [List.drop_left, hlabel]
  rw [if_neg (by simp [hne])]
  simp [Mark.token, labelOf]
  omega

theorem protectedSpan?_of_fits {mark : Mark} (h : mark.Fits) (after : Chars) :
    protectedSpan? (mark.text ++ after) = some (mark.token, mark.text.length) := by
  unfold protectedSpan?
  cases mark with
  | mathBlock source =>
    rw [mathBlock?_of_fits h]
    rfl
  | mathInline source =>
    rw [mathBlock?_of_mathInline h, mathInline?_of_fits h]
    rfl
  | link url tail =>
    -- a link does not start with a dollar
    have hblock : mathBlock? ((Mark.link url tail).text ++ after) = none := rfl
    have hinline : mathInline? ((Mark.link url tail).text ++ after) = none := rfl
    rw [hblock, hinline]
    exact link?_of_fits h after

/-- What is found at the front of a text is what the pattern accepts there. -/
theorem protectedSpan?_eq_some_iff :
    protectedSpan? text = some (token, size) ↔ IsMarkAt text token size := by
  constructor
  · intro h
    unfold protectedSpan? at h
    split at h
    · next hblock =>
      cases h
      exact isMarkAt_of_mathBlock? hblock
    · split at h
      · next hinline =>
        cases h
        exact isMarkAt_of_mathInline? hinline
      · exact isMarkAt_of_link? h
  · rintro ⟨mark, after, hmark, rfl, rfl, rfl⟩
    exact protectedSpan?_of_fits hmark after

theorem isSome_protectedSpan?_iff :
    (protectedSpan? text).isSome = true ↔ StartsWithMark text := by
  rw [Option.isSome_iff_exists]
  constructor
  · rintro ⟨⟨token, size⟩, hfound⟩
    obtain ⟨mark, after, hmark, htext, -⟩ := protectedSpan?_eq_some_iff.mp hfound
    exact ⟨mark, after, hmark, htext⟩
  · rintro ⟨mark, after, hmark, rfl⟩
    exact ⟨_, protectedSpan?_of_fits hmark after⟩

theorem protectedSpan?_eq_none (h : ¬ StartsWithMark text) : protectedSpan? text = none := by
  rwa [← isSome_protectedSpan?_iff, Option.not_isSome_iff_eq_none] at h

instance (text : Chars) : Decidable (StartsWithMark text) :=
  decidable_of_iff _ isSome_protectedSpan?_iff

/-! ## The scan -/

theorem Mark.text_ne_nil (mark : Mark) : mark.text ≠ [] := by
  cases mark <;> simp

theorem not_startsWithMark_nil : ¬ StartsWithMark [] := by
  rintro ⟨mark, after, -, htext⟩
  exact mark.text_ne_nil (List.append_eq_nil_iff.mp htext.symm).1

/-- Every text can be scanned. -/
theorem exists_scan (text : Chars) : ∃ hits rest, Scan text hits rest := by
  by_cases hsome : ∃ i, StartsWithMark (text.drop i)
  · -- the first place where a mark stands
    obtain ⟨i, hi⟩ : ∃ i, i = Nat.find hsome := ⟨_, rfl⟩
    obtain ⟨mark, after, hmark, htext⟩ := hi ▸ Nat.find_spec hsome
    have hlength : i ≤ text.length := by
      by_contra hlong
      rw [List.drop_eq_nil_of_le (by omega)] at htext
      exact not_startsWithMark_nil ⟨mark, after, hmark, htext⟩
    have hsplit : text.take i ++ mark.text ++ after = text := by
      rw [List.append_assoc, ← htext, List.take_append_drop]
    have hshorter : after.length < text.length := by
      have hpos : 0 < mark.text.length := List.length_pos_of_ne_nil mark.text_ne_nil
      have hsum := congrArg List.length hsplit
      simp only [List.length_append] at hsum
      omega
    obtain ⟨hits, rest, hscan⟩ := exists_scan after
    -- no mark starts in front of it, so this is the mark that the scan meets
    have hfirst : ∀ j < (text.take i).length, ¬ StartsWithMark (text.drop j) := by
      intro j hj
      rw [List.length_take, Nat.min_eq_left hlength] at hj
      exact Nat.find_min hsome (hi ▸ hj)
    have hfound : Scan (text.take i ++ mark.text ++ after) (⟨text.take i, mark⟩ :: hits) rest :=
      .found hmark (by rwa [hsplit]) hscan
    rw [hsplit] at hfound
    exact ⟨_, _, hfound⟩
  · exact ⟨[], text, .done (not_exists.mp hsome)⟩
termination_by text.length

variable {hits : List Hit} {rest : Chars}

/-- The text is what the scan passes over, the marks, and the rest. -/
theorem Scan.text_eq (h : Scan text hits rest) :
    text = hits.flatMap (fun hit => hit.before ++ hit.mark.text) ++ rest := by
  induction h with
  | done _ => rfl
  | found _ _ _ ih => rw [List.flatMap_cons, List.append_assoc _ (List.flatMap _ _), ← ih]

/-- The scan meets only marks that fit the pattern. -/
theorem Scan.fits (h : Scan text hits rest) : ∀ hit ∈ hits, hit.mark.Fits := by
  induction h with
  | done _ => exact fun _ hin => absurd hin List.not_mem_nil
  | found hmark _ _ ih => exact List.forall_mem_cons.mpr ⟨hmark, ih⟩

section
variable {α : Type} (char : Char → List α) (leaf : Inline → List α)

/-- The characters of the token just found are passed over. -/
theorem protectedSpansGo_eq_drop (skip : Nat) (text : Chars) :
    protectedSpansGo skip text = protectedSpans (text.drop skip) := by
  induction text generalizing skip with
  | nil => cases skip <;> rfl
  | cons c rest ih =>
    cases skip with
    | succ k => exact ih k
    | zero => rfl

/-- Text in which no mark starts is held as it is. -/
theorem gatherAll_protectedSpans_append {before rest : Chars}
    (hnone : ∀ i < before.length, ¬ StartsWithMark ((before ++ rest).drop i)) :
    gatherAll char leaf (protectedSpans (before ++ rest)) =
      before.flatMap char ++ gatherAll char leaf (protectedSpans rest) := by
  induction before with
  | nil => rfl
  | cons c cs ih =>
    have hhere : protectedSpan? (c :: (cs ++ rest)) = none :=
      protectedSpan?_eq_none (hnone 0 (by simp))
    have hlater : ∀ i < cs.length, ¬ StartsWithMark ((cs ++ rest).drop i) := fun i hi =>
      hnone (i + 1) (by simpa using hi)
    have hgo : protectedSpans (c :: (cs ++ rest)) = consPlain [c] (protectedSpans (cs ++ rest)) := by
      rw [protectedSpans, protectedSpansGo, hhere]
      rfl
    rw [List.cons_append, hgo, gatherAll_consPlain, ih hlater, ← List.append_assoc,
      ← List.flatMap_append]
    rfl

/-- At a mark its token is taken, and reading goes on behind it. -/
theorem protectedSpans_mark {mark : Mark} (h : mark.Fits) (after : Chars) :
    protectedSpans (mark.text ++ after) = mark.token :: protectedSpans after := by
  have hfound := protectedSpan?_of_fits h after
  obtain ⟨c, cs, hcons⟩ := List.exists_cons_of_ne_nil mark.text_ne_nil
  rw [hcons, List.cons_append] at hfound ⊢
  rw [protectedSpans, protectedSpansGo, hfound]
  simp only [protectedSpansGo_eq_drop, List.length_cons, Nat.add_sub_cancel, List.drop_left]

/-- A leaf is what its link or formula is read as. -/
theorem gather_token (mark : Mark) : mark.token.gather char leaf = leaf mark.token := by
  cases mark <;> rfl

/-- What tokens found by the scan hold: the characters passed over, and the leaves of the marks. -/
theorem gatherAll_of_scan (h : Scan text hits rest) :
    gatherAll char leaf (protectedSpans text) =
      hits.flatMap (fun hit => hit.before.flatMap char ++ leaf hit.mark.token) ++
        rest.flatMap char := by
  induction h with
  | @done rest hnone =>
    -- the rest is passed over like the text in front of a mark that is not there
    have hall : ∀ i < rest.length, ¬ StartsWithMark ((rest ++ []).drop i) := fun i _ => by
      rw [List.append_nil]
      exact hnone i
    have hgather := gatherAll_protectedSpans_append char leaf hall
    rw [List.append_nil] at hgather
    rw [hgather, List.flatMap_nil, List.nil_append]
    exact List.append_nil _
  | @found before after rest mark hits hmark hfirst _ ih =>
    rw [List.append_assoc] at hfirst ⊢
    rw [gatherAll_protectedSpans_append char leaf hfirst, protectedSpans_mark hmark, gatherAll, ih,
      gather_token, List.flatMap_cons, List.append_assoc, List.append_assoc]

/-- Where plain text gives nothing, only the leaves of the marks are held. -/
theorem gatherLeaves_of_scan (h : Scan text hits rest) :
    gatherAll (fun _ => []) leaf (protectedSpans text) =
      hits.flatMap fun hit => leaf hit.mark.token := by
  have hnone : ∀ cs : Chars, cs.flatMap (fun _ => ([] : List α)) = [] := fun _ =>
    List.flatMap_eq_nil_iff.mpr fun _ _ => rfl
  rw [gatherAll_of_scan _ _ h, hnone, List.append_nil]
  exact List.flatMap_congr fun hit _ => by rw [hnone, List.nil_append]

end

end ScriptReport.Script

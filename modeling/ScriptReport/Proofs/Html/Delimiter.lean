/-
  ScriptReport.Proofs.Html.Delimiter

  What a page that is read as markup tells about its characters. It is text, brackets with what they
  hold, text, and so on (`markup_induction`). So there are as many brackets of either kind as there
  is markup, and the comments are exactly the places where a comment can be seen to start or to end.
-/

import ScriptReport.Proofs.Html.Markup
import ScriptReport.Proofs.Text.Occurrence

namespace ScriptReport.Html

variable {text content : Chars} {ms : List Markup} {m : Markup}

/-! ## Text and brackets in turn -/

theorem IsPlain.cons {c : Char} (hopen : c ≠ '<') (hclose : c ≠ '>') (h : IsPlain text) :
    IsPlain (c :: text) := by
  simp only [IsPlain, List.mem_cons, not_or] at h ⊢
  exact ⟨⟨Ne.symm hopen, h.1⟩, ⟨Ne.symm hclose, h.2⟩⟩

theorem markupGo_some_split (h : markupGo (some content) text = some ms) :
    ∃ inner rest m ms', text = inner ++ '>' :: rest ∧ IsPlain inner ∧
      tag? (content ++ inner) = some m ∧ markup? rest = some ms' ∧ ms = m :: ms' := by
  induction text generalizing content with
  | nil => cases h
  | cons c rest ih =>
    rw [markupGo] at h
    split_ifs at h with hopen hclose
    · obtain ⟨m, hm, hrest⟩ := Option.bind_eq_some_iff.mp h
      obtain ⟨ms', hms', rfl⟩ := Option.map_eq_some_iff.mp hrest
      refine ⟨[], rest, m, ms', ?_, isPlain_nil, ?_, hms', rfl⟩
      · rw [hclose, List.nil_append]
      · rwa [List.append_nil]
    · obtain ⟨inner, rest', m, ms', rfl, hinner, hm, hms', rfl⟩ := ih h
      refine ⟨c :: inner, rest', m, ms', rfl, hinner.cons hopen hclose, ?_, hms', rfl⟩
      rwa [List.append_assoc, List.singleton_append] at hm

theorem markup?_split (h : markup? text = some ms) :
    (ms = [] ∧ IsPlain text) ∨
      ∃ front inner rest m ms', text = front ++ '<' :: (inner ++ '>' :: rest) ∧ IsPlain front ∧
        IsPlain inner ∧ tag? inner = some m ∧ markup? rest = some ms' ∧ ms = m :: ms' := by
  induction text with
  | nil =>
    cases h
    exact .inl ⟨rfl, isPlain_nil⟩
  | cons c rest ih =>
    rw [markup?, markupGo] at h
    split_ifs at h with hopen hclose
    · obtain ⟨inner, rest', m, ms', rfl, hinner, hm, hms', rfl⟩ := markupGo_some_split h
      exact .inr ⟨[], inner, rest', m, ms', by rw [hopen]; rfl, isPlain_nil, hinner, hm, hms', rfl⟩
    · rcases ih h with ⟨rfl, hplain⟩ | ⟨front, inner, rest', m, ms', rfl, hfront, hrest⟩
      · exact .inl ⟨rfl, hplain.cons hopen hclose⟩
      · exact .inr ⟨c :: front, inner, rest', m, ms', rfl, hfront.cons hopen hclose, hrest⟩

/-- A page is text, or text and a pair of brackets with the rest of the page behind it. -/
theorem markup_induction {motive : Chars → List Markup → Prop}
    (plain : ∀ text, IsPlain text → motive text [])
    (pair : ∀ front inner rest m ms, IsPlain front → IsPlain inner → tag? inner = some m →
      motive rest ms → motive (front ++ '<' :: (inner ++ '>' :: rest)) (m :: ms))
    (h : markup? text = some ms) : motive text ms := by
  induction ms generalizing text with
  | nil =>
    rcases markup?_split h with ⟨-, hplain⟩ | ⟨_, _, _, _, _, _, _, _, _, _, hcons⟩
    · exact plain text hplain
    · cases hcons
  | cons m ms ih =>
    rcases markup?_split h with ⟨hnil, -⟩ |
      ⟨front, inner, rest, m', ms', rfl, hfront, hinner, hm, hms', hcons⟩
    · cases hnil
    · cases hcons
      exact pair front inner rest m ms hfront hinner hm (ih hms')

/-! ## Brackets -/

/-- Every angle bracket of a page is one of a pair that holds markup. -/
theorem count_brackets (h : markup? text = some ms) :
    text.count '<' = ms.length ∧ text.count '>' = ms.length := by
  refine markup_induction
    (motive := fun text ms => text.count '<' = ms.length ∧ text.count '>' = ms.length) ?_ ?_ h
  · intro text hplain
    exact ⟨List.count_eq_zero.mpr hplain.1, List.count_eq_zero.mpr hplain.2⟩
  · intro front inner rest m ms hfront hinner _ ih
    have hopen : (front ++ '<' :: (inner ++ '>' :: rest)).count '<' = ms.length + 1 := by
      rw [List.count_append, List.count_cons_self, List.count_append,
        List.count_cons_of_ne (by decide), List.count_eq_zero.mpr hfront.1,
        List.count_eq_zero.mpr hinner.1, ih.1]
      omega
    have hclose : (front ++ '<' :: (inner ++ '>' :: rest)).count '>' = ms.length + 1 := by
      rw [List.count_append, List.count_cons_of_ne (by decide), List.count_append,
        List.count_cons_self, List.count_eq_zero.mpr hfront.2, List.count_eq_zero.mpr hinner.2,
        ih.2]
      omega
    exact ⟨hopen, hclose⟩

/-! ## Comments -/

theorem getLast?_ne_of_isName {name : Chars} (h : isName name = true) :
    name.getLast? ≠ some '-' := by
  simp only [isName, Bool.and_eq_true, decide_eq_true_eq] at h
  exact h.2

/-- No list of attributes ends with a hyphen. -/
theorem getLast?_ne_of_attributesGo {place : Place} {c : Char} {rest : Chars}
    {attributes : List Attribute} (h : attributesGo place (c :: rest) = some attributes) :
    (c :: rest).getLast? ≠ some '-' := by
  induction rest generalizing place c attributes with
  | nil =>
    rintro hlast
    obtain rfl : c = '-' := by simpa using hlast
    cases place with
    | gap => simp [attributesGo] at h
    | name read =>
      -- the name that ends here would end with the hyphen
      rw [attributesGo, if_neg (by decide), if_neg (by decide), attributesGo] at h
      split_ifs at h with hname
      exact getLast?_ne_of_isName hname (by simp)
    | assigned name => simp [attributesGo] at h
    | value name read => simp [attributesGo] at h
  | cons d rest ih =>
    rw [List.getLast?_cons_cons]
    cases place with
    | gap =>
      rw [attributesGo] at h
      split_ifs at h
      exact ih h
    | name read =>
      rw [attributesGo] at h
      split_ifs at h
      · exact ih h
      · obtain ⟨_, hrest, -⟩ := Option.map_eq_some_iff.mp h
        exact ih hrest
      · exact ih h
    | assigned name =>
      rw [attributesGo] at h
      split_ifs at h
      exact ih h
    | value name read =>
      rw [attributesGo] at h
      split_ifs at h
      · obtain ⟨_, hrest, -⟩ := Option.map_eq_some_iff.mp h
        exact ih hrest
      · exact ih h

theorem isSuffixOf_hyphens_eq_false (h : content.getLast? ≠ some '-') :
    "--".toList.isSuffixOf content = false := by
  rw [← Bool.not_eq_true, List.isSuffixOf_iff_suffix]
  rintro ⟨front, rfl⟩
  exact h (by simp)

/-- Comments alone start with an exclamation mark and two hyphens, and alone end with two
    hyphens. -/
theorem isComment_of_tag? (h : tag? content = some m) :
    "!--".toList.isPrefixOf content = m.isComment ∧
      "--".toList.isSuffixOf content = m.isComment := by
  unfold tag? at h
  split_ifs at h with hdoctype hcomment hclosing hname
  · -- the document type
    cases h
    subst hdoctype
    decide
  · -- a comment
    cases h
    rw [Bool.and_eq_true, List.isSuffixOf_iff_suffix] at hcomment
    refine ⟨hcomment.1, ?_⟩
    exact List.isSuffixOf_iff_suffix.mpr (hcomment.2.trans (List.drop_suffix 3 content))
  · -- a closing tag ends with its name
    cases h
    obtain ⟨name, rfl⟩ := List.head?_eq_some_iff.mp hclosing
    refine ⟨rfl, isSuffixOf_hyphens_eq_false ?_⟩
    obtain ⟨c, cs, rfl⟩ := List.exists_cons_of_ne_nil (ne_nil_of_isName hname)
    rw [List.getLast?_cons_cons]
    exact getLast?_ne_of_isName hname
  · -- an opening tag ends with its name, or else with its last attribute
    simp only at h
    split_ifs at h with hname
    obtain ⟨attributes, hattributes, rfl⟩ := Option.map_eq_some_iff.mp h
    obtain ⟨rest, hcut⟩ := List.takeWhile_prefix (· != ' ') (l := content)
    have hdrop : ((content.takeWhile (· != ' ')) ++ rest).drop
        (content.takeWhile (· != ' ')).length = rest := List.drop_left
    rw [hcut] at hdrop
    rw [hdrop] at hattributes
    constructor
    · obtain ⟨c, cs, hcons⟩ := List.exists_cons_of_ne_nil (ne_nil_of_isName hname)
      have hbang : c ≠ '!' := by
        rintro rfl
        exact not_mem_of_isName hname (by decide) (by decide) (hcons ▸ List.mem_cons_self)
      rw [← hcut, hcons]
      simp [List.isPrefixOf, Ne.symm hbang, Markup.isComment]
    · apply isSuffixOf_hyphens_eq_false
      rw [← hcut]
      cases rest with
      | nil =>
        rw [List.append_nil]
        exact getLast?_ne_of_isName hname
      | cons d rest =>
        rw [List.getLast?_append_cons]
        exact getLast?_ne_of_attributesGo hattributes

/-- A page has as many places that start a comment, and that end one, as it has comments. -/
theorem occurrences_comment (h : markup? text = some ms) :
    Text.occurrences "<!--" text = ms.countP Markup.isComment ∧
      Text.occurrences "-->" text = ms.countP Markup.isComment := by
  refine markup_induction
    (motive := fun text ms => Text.occurrences "<!--" text = ms.countP Markup.isComment ∧
      Text.occurrences "-->" text = ms.countP Markup.isComment) ?_ ?_ h
  · intro text hplain
    exact ⟨Text.occurrences_eq_zero (by decide) hplain.1,
      Text.occurrences_eq_zero (by decide) hplain.2⟩
  · intro front inner rest m ms hfront hinner hm ih
    obtain ⟨hstart, hend⟩ := isComment_of_tag? hm
    have hopen : '<' ∉ inner ++ ['>'] := by
      rw [List.mem_append, not_or]
      exact ⟨hinner.1, by decide⟩
    constructor
    · -- a comment can start only at the opening bracket, and does if the content says so
      have hrest : Text.occurrences "<!--" (inner ++ '>' :: rest) =
          Text.occurrences "<!--" rest := by
        rw [List.append_cons]
        exact Text.occurrences_append_of_not_mem hopen
      have hprefix : "<!--".toList.isPrefixOf ('<' :: (inner ++ '>' :: rest)) = m.isComment := by
        rw [← hstart]
        change "!--".toList.isPrefixOf (inner ++ '>' :: rest) = "!--".toList.isPrefixOf inner
        cases inner with
        | nil => rfl
        | cons x xs => exact Text.isPrefixOf_append_cons (by decide)
      have hfirst : Text.occurrences "<!--" (front ++ '<' :: (inner ++ '>' :: rest)) =
          Text.occurrences "<!--" ('<' :: (inner ++ '>' :: rest)) :=
        Text.occurrences_append_of_not_mem hfront.1
      rw [hfirst, Text.occurrences, hprefix, hrest, ih.1, List.countP_cons, Nat.add_comm]
    · -- and end only at the closing bracket, which the two hyphens of the content reach
      have hfirst : Text.occurrences "-->" (front ++ '<' :: (inner ++ '>' :: rest)) =
          Text.occurrences "-->" (inner ++ '>' :: rest) := by
        rw [Text.occurrences_append_cons (by decide), Text.occurrences_eq_zero (by decide) hfront.2,
          Nat.zero_add]
        exact Text.occurrences_append_of_not_mem (show '-' ∉ ['<'] by decide)
      have hlast : Text.occurrences "-->" (inner ++ '>' :: rest) =
          (if "--".toList.isSuffixOf inner then 1 else 0) + Text.occurrences "-->" rest :=
        Text.occurrences_concat (q := "--".toList) (by decide) (by decide) hinner.2
      rw [hfirst, hlast, hend, ih.2, List.countP_cons, Nat.add_comm]

end ScriptReport.Html

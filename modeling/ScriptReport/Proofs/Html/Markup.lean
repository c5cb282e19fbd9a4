/-
  ScriptReport.Proofs.Html.Markup

  A strict reading of HTML, to say what is in a page. Every angle bracket must delimit a tag, a
  comment or the document type; what stands between a pair of brackets is read for itself, and what
  stands outside is text. So texts can be read one after another (`markup?_append`), text without
  angle brackets is no markup, and an attribute keeps any value without brackets and quotes.
-/

import ScriptReport.Html.Escape
import Mathlib.Tactic.SplitIfs

namespace ScriptReport.Html

/-! ## Between a pair of brackets -/

/-- The name of an attribute, and its value if it has one. -/
abbrev Attribute := Chars × Option Chars

/-- What a pair of angle brackets holds. -/
inductive Markup where
  | doctype
  | opening (name : Chars) (attributes : List Attribute)
  | closing (name : Chars)
  | comment (text : Chars)
  deriving DecidableEq, Repr

/-- The markup is a comment. -/
def Markup.isComment : Markup → Bool
  | .comment _ => true
  | _ => false

/-- The references that the markup makes: the values of its `href` attributes. -/
def Markup.references : Markup → List Chars
  | .opening _ attributes =>
    (attributes.filter fun a => a.1 = "href".toList).map fun a => a.2.getD []
  | _ => []

/-- A name of letters, digits and inner hyphens. -/
def isName (name : Chars) : Bool :=
  name ≠ [] && name.all (fun c => c.isAlphanum || c = '-') && name.getLast? ≠ some '-'

/-- Where the reading of attributes stands. -/
inductive Place where
  /-- Before a space, or at the end. -/
  | gap
  | name (read : Chars)
  /-- Before the quote in front of a value. -/
  | assigned (name : Chars)
  | value (name read : Chars)
  deriving DecidableEq, Repr

/-- `attributes?` from a place on. -/
def attributesGo : Place → Chars → Option (List Attribute)
  | .gap, [] => some []
  | .gap, c :: rest => if c = ' ' then attributesGo (.name []) rest else none
  | .name read, [] => if isName read then some [(read, none)] else none
  | .name read, c :: rest =>
    if c = '=' then (if isName read then attributesGo (.assigned read) rest else none)
    else if c = ' ' then
      if isName read then (attributesGo (.name []) rest).map ((read, none) :: ·) else none
    else attributesGo (.name (read ++ [c])) rest
  | .assigned _, [] => none
  | .assigned name, c :: rest => if c = '"' then attributesGo (.value name []) rest else none
  | .value _ _, [] => none
  | .value name read, c :: rest =>
    if c = '"' then (attributesGo .gap rest).map ((name, some read) :: ·)
    else attributesGo (.value name (read ++ [c])) rest

/-- The attributes after the name of a tag, each after one space, values in double quotes. -/
def attributes? (text : Chars) : Option (List Attribute) := attributesGo .gap text

/-- What the text between a pair of brackets is. -/
def tag? (content : Chars) : Option Markup :=
  if content = "!DOCTYPE html".toList then some .doctype
  else if "!--".toList.isPrefixOf content && "--".toList.isSuffixOf (content.drop 3) then
    some (.comment ((content.drop 3).take (content.length - 5)))
  else if content.head? = some '/' then
    if isName content.tail then some (.closing content.tail) else none
  else
    let name := content.takeWhile (· != ' ')
    if isName name then (attributes? (content.drop name.length)).map (.opening name) else none

/-! ## Whole texts -/

/-- `markup?` outside of brackets, or behind the given text inside of them. -/
def markupGo : Option Chars → Chars → Option (List Markup)
  | none, [] => some []
  | some _, [] => none
  | none, c :: rest =>
    if c = '<' then markupGo (some []) rest
    else if c = '>' then none
    else markupGo none rest
  | some content, c :: rest =>
    if c = '<' then none
    else if c = '>' then (tag? content).bind fun m => (markupGo none rest).map (m :: ·)
    else markupGo (some (content ++ [c])) rest

/-- What the brackets of a text hold, in order, if each belongs to a pair that holds something. -/
def markup? (text : Chars) : Option (List Markup) := markupGo none text

/-- The text has no angle brackets. -/
def IsPlain (text : Chars) : Prop := '<' ∉ text ∧ '>' ∉ text

instance (text : Chars) : Decidable (IsPlain text) := inferInstanceAs (Decidable (_ ∧ _))

variable {a b text content name value : Chars} {ms : List Markup} {m : Markup}

theorem isPlain_nil : IsPlain [] := ⟨List.not_mem_nil, List.not_mem_nil⟩

theorem IsPlain.append (ha : IsPlain a) (hb : IsPlain b) : IsPlain (a ++ b) := by
  simp only [IsPlain, List.mem_append, not_or] at ha hb ⊢
  exact ⟨⟨ha.1, hb.1⟩, ⟨ha.2, hb.2⟩⟩

theorem IsPlain.of_cons {c : Char} (h : IsPlain (c :: text)) :
    c ≠ '<' ∧ c ≠ '>' ∧ IsPlain text := by
  simp only [IsPlain, List.mem_cons, not_or] at h
  exact ⟨Ne.symm h.1.1, Ne.symm h.2.1, h.1.2, h.2.2⟩

/-- A text whose brackets come in pairs does not change how the text after it is read. -/
theorem markupGo_append {inside : Option Chars} (h : markupGo inside a = some ms) (b : Chars) :
    markupGo inside (a ++ b) = (markup? b).map (ms ++ ·) := by
  induction a generalizing inside ms with
  | nil =>
    cases inside with
    | none =>
      cases h
      cases hb : markup? b <;> simpa [markup?] using hb
    | some content => cases h
  | cons c rest ih =>
    rw [List.cons_append]
    cases inside with
    | none =>
      rw [markupGo] at h ⊢
      split_ifs at h ⊢
      · exact ih h
      · exact ih h
    | some content =>
      rw [markupGo] at h ⊢
      split_ifs at h ⊢
      · -- the pair is closed, and what follows is read outside again
        obtain ⟨m, hm, hrest⟩ := Option.bind_eq_some_iff.mp h
        obtain ⟨ms', hms', rfl⟩ := Option.map_eq_some_iff.mp hrest
        rw [hm, Option.bind_some, ih hms', Option.map_map]
        rfl
      · exact ih h

theorem markup?_append (h : markup? a = some ms) (b : Chars) :
    markup? (a ++ b) = (markup? b).map (ms ++ ·) :=
  markupGo_append h b

theorem markup?_of_isPlain (h : IsPlain text) : markup? text = some [] := by
  induction text with
  | nil => rfl
  | cons c rest ih =>
    obtain ⟨hopen, hclose, hrest⟩ := h.of_cons
    rw [markup?, markupGo, if_neg hopen, if_neg hclose]
    exact ih hrest

theorem markupGo_content (h : IsPlain b) (hm : tag? (a ++ b) = some m) :
    markupGo (some a) (b ++ ['>']) = some [m] := by
  induction b generalizing a with
  | nil =>
    rw [List.append_nil] at hm
    simp [markupGo, hm]
  | cons c rest ih =>
    obtain ⟨hopen, hclose, hrest⟩ := h.of_cons
    rw [List.cons_append, markupGo, if_neg hopen, if_neg hclose]
    refine ih hrest ?_
    rw [List.append_assoc, List.singleton_append, hm]

theorem markup?_tag (h : IsPlain content) (hm : tag? content = some m) :
    markup? ('<' :: content ++ ['>']) = some [m] :=
  markupGo_content h hm

/-! ## Names and attributes -/

theorem mem_of_isName (h : isName name = true) {c : Char} (hc : c ∈ name) :
    c.isAlphanum = true ∨ c = '-' := by
  simp only [isName, Bool.and_eq_true, List.all_eq_true, Bool.or_eq_true, decide_eq_true_eq] at h
  exact h.1.2 c hc

/-- What a name cannot hold: no letter, digit or hyphen. -/
theorem not_mem_of_isName (h : isName name = true) {c : Char} (hc : c.isAlphanum = false)
    (hhyphen : c ≠ '-') : c ∉ name := by
  intro hmem
  rcases mem_of_isName h hmem with hal | heq
  · exact absurd hal (by simp [hc])
  · exact hhyphen heq

theorem ne_nil_of_isName (h : isName name = true) : name ≠ [] := by
  rintro rfl
  exact absurd h (by decide)

theorem isPlain_of_isName (h : isName name = true) : IsPlain name :=
  ⟨not_mem_of_isName h (by decide) (by decide), not_mem_of_isName h (by decide) (by decide)⟩

theorem attributesGo_name {read : Chars} (hname : isName (read ++ name) = true) (rest : Chars) :
    attributesGo (.name read) (name ++ '=' :: rest) =
      attributesGo (.assigned (read ++ name)) rest := by
  induction name generalizing read with
  | nil =>
    rw [List.append_nil] at hname
    rw [List.nil_append, attributesGo, if_pos rfl, if_pos hname, List.append_nil]
  | cons c cs ih =>
    have hc : c ∈ read ++ c :: cs := List.mem_append_right read List.mem_cons_self
    have heq : c ≠ '=' := by
      rintro rfl
      exact not_mem_of_isName hname (by decide) (by decide) hc
    have hspace : c ≠ ' ' := by
      rintro rfl
      exact not_mem_of_isName hname (by decide) (by decide) hc
    rw [List.append_cons] at hname
    rw [List.cons_append, attributesGo, if_neg heq, if_neg hspace, ih hname, List.append_assoc,
      List.singleton_append]

theorem attributesGo_value {read : Chars} (hvalue : '"' ∉ value) (rest : Chars) :
    attributesGo (.value name read) (value ++ '"' :: rest) =
      (attributes? rest).map ((name, some (read ++ value)) :: ·) := by
  induction value generalizing read with
  | nil => rw [List.nil_append, attributesGo, if_pos rfl, List.append_nil, attributes?]
  | cons c cs ih =>
    rw [List.mem_cons, not_or] at hvalue
    rw [List.cons_append, attributesGo, if_neg (Ne.symm hvalue.1), ih hvalue.2,
      List.append_assoc, List.singleton_append]

/-- An attribute with a value, as it is written. -/
def attributeText (a : Chars × Chars) : Chars := ' ' :: a.1 ++ '=' :: '"' :: a.2 ++ ['"']

theorem attributes?_attributeText (hname : isName name = true) (hvalue : '"' ∉ value)
    (rest : Chars) :
    attributes? (attributeText (name, value) ++ rest) =
      (attributes? rest).map ((name, some value) :: ·) := by
  have hread : attributesGo (.name []) (name ++ '=' :: ('"' :: value ++ '"' :: rest)) =
      attributesGo (.assigned name) ('"' :: value ++ '"' :: rest) :=
    attributesGo_name (show isName ([] ++ name) = true from hname) _
  have hstart : attributes? (attributeText (name, value) ++ rest) =
      attributesGo (.name []) (name ++ '=' :: ('"' :: value ++ '"' :: rest)) := by
    simp [attributes?, attributeText, attributesGo]
  rw [hstart, hread, List.cons_append, attributesGo, if_pos rfl, attributesGo_value hvalue,
    List.nil_append]

/-! ## Tags -/

/-- An opening tag, as it is written. -/
def openingText (name : Chars) (attributes : List (Chars × Chars)) : Chars :=
  '<' :: (name ++ Text.concatMap attributeText attributes) ++ ['>']

/-- A closing tag, as it is written. -/
def closingText (name : Chars) : Chars := '<' :: ('/' :: name) ++ ['>']

/-- An attribute that can be written between double quotes. -/
def IsWritable (a : Chars × Chars) : Prop := isName a.1 = true ∧ IsPlain a.2 ∧ '"' ∉ a.2

instance (a : Chars × Chars) : Decidable (IsWritable a) := inferInstanceAs (Decidable (_ ∧ _ ∧ _))

theorem attributes?_concatMap {attributes : List (Chars × Chars)}
    (h : ∀ a ∈ attributes, IsWritable a) :
    attributes? (Text.concatMap attributeText attributes) =
      some (attributes.map fun a => (a.1, some a.2)) := by
  induction attributes with
  | nil => rfl
  | cons a rest ih =>
    obtain ⟨hname, -, hquote⟩ := h a List.mem_cons_self
    have hrest := ih fun x hx => h x (List.mem_cons_of_mem a hx)
    have hcons : Text.concatMap attributeText (a :: rest) =
        attributeText (a.1, a.2) ++ Text.concatMap attributeText rest := rfl
    rw [hcons, attributes?_attributeText hname hquote, hrest]
    rfl

theorem isPlain_attributeText (h : IsWritable (name, value)) :
    IsPlain (attributeText (name, value)) := by
  obtain ⟨hname, hvalue, -⟩ := h
  have hplain := isPlain_of_isName hname
  simp only [IsPlain] at hplain hvalue ⊢
  simp [attributeText, hplain, hvalue]

theorem isPlain_concatMap {attributes : List (Chars × Chars)}
    (h : ∀ a ∈ attributes, IsWritable a) :
    IsPlain (Text.concatMap attributeText attributes) := by
  induction attributes with
  | nil => exact isPlain_nil
  | cons a rest ih =>
    exact (isPlain_attributeText (h a List.mem_cons_self)).append
      (ih fun x hx => h x (List.mem_cons_of_mem a hx))

/-- A name, and attributes that are read, make an opening tag. -/
theorem tag?_opening {rest : Chars} {attributes : List Attribute} (hname : isName name = true)
    (hrest : attributes? rest = some attributes) :
    tag? (name ++ rest) = some (.opening name attributes) := by
  obtain ⟨c, cs, hcons⟩ := List.exists_cons_of_ne_nil (ne_nil_of_isName hname)
  have hc : c ∈ name := hcons ▸ List.mem_cons_self
  have hbang : c ≠ '!' := by
    rintro rfl
    exact not_mem_of_isName hname (by decide) (by decide) hc
  have hslash : c ≠ '/' := by
    rintro rfl
    exact not_mem_of_isName hname (by decide) (by decide) hc
  -- the name ends where the attributes start: they start with a space, or there are none
  have hword : (name ++ rest).takeWhile (· != ' ') = name := by
    have hspace : ∀ x ∈ name, (x != ' ') = true := by
      intro x hx
      rw [bne_iff_ne]
      rintro rfl
      exact not_mem_of_isName hname (by decide) (by decide) hx
    have hstop : rest.takeWhile (· != ' ') = [] := by
      cases rest with
      | nil => rfl
      | cons x xs =>
        rw [attributes?, attributesGo] at hrest
        split_ifs at hrest with hx
        rw [hx, List.takeWhile_cons_of_neg (by decide)]
    rw [List.takeWhile_append_of_pos hspace, hstop, List.append_nil]
  -- it is none of the other kinds of markup, which its first character shows
  have hdoctype : name ++ rest ≠ "!DOCTYPE html".toList := by
    rw [hcons]
    intro h
    exact hbang (List.head_eq_of_cons_eq h)
  have hcomment : "!--".toList.isPrefixOf (name ++ rest) = false := by
    rw [hcons]
    simp [List.isPrefixOf, Ne.symm hbang]
  have hhead : (name ++ rest).head? ≠ some '/' := by
    rw [hcons]
    simpa using hslash
  rw [tag?, if_neg hdoctype, hcomment, Bool.false_and, if_neg Bool.false_ne_true, if_neg hhead]
  simp only [hword, if_pos hname, List.drop_left, hrest, Option.map_some]

theorem tag?_closing (hname : isName name = true) :
    tag? ('/' :: name) = some (.closing name) := by
  have hdoctype : '/' :: name ≠ "!DOCTYPE html".toList := by
    intro h
    exact absurd (List.head_eq_of_cons_eq h) (by decide)
  have hcomment : "!--".toList.isPrefixOf ('/' :: name) = false := rfl
  rw [tag?, if_neg hdoctype, hcomment, Bool.false_and, if_neg Bool.false_ne_true]
  simp [hname]

theorem tag?_comment (text : Chars) :
    tag? ("!--" ++ (text ++ "--")) = some (.comment text) := by
  have hdoctype : "!--".toList ++ (text ++ "--".toList) ≠ "!DOCTYPE html".toList := by
    intro h
    have hsecond := congrArg (fun l => l[1]?) h
    exact absurd hsecond (by simp)
  have hprefix : "!--".toList.isPrefixOf ("!--".toList ++ (text ++ "--".toList)) = true := by
    simp
  have hsuffix :
      "--".toList.isSuffixOf (("!--".toList ++ (text ++ "--".toList)).drop 3) = true := by
    rw [List.drop_left' (by decide), List.isSuffixOf_iff_suffix]
    exact List.suffix_append _ _
  rw [tag?, if_neg hdoctype, hprefix, hsuffix, Bool.and_self, if_pos rfl,
    List.drop_left' (by decide)]
  simp

theorem markup?_openingText {attributes : List (Chars × Chars)} (hname : isName name = true)
    (h : ∀ a ∈ attributes, IsWritable a) :
    markup? (openingText name attributes) =
      some [.opening name (attributes.map fun a => (a.1, some a.2))] :=
  markup?_tag ((isPlain_of_isName hname).append (isPlain_concatMap h))
    (tag?_opening hname (attributes?_concatMap h))

theorem markup?_closingText (hname : isName name = true) :
    markup? (closingText name) = some [.closing name] := by
  refine markup?_tag ?_ (tag?_closing hname)
  exact IsPlain.append (a := ['/']) ⟨by decide, by decide⟩ (isPlain_of_isName hname)

/-! ## Escaped text -/

theorem not_mem_escapeMarkupChar (c : Char) :
    '<' ∉ escapeMarkupChar c ∧ '>' ∉ escapeMarkupChar c := by
  rw [escapeMarkupChar]
  split_ifs with hamp hlt hgt
  · decide
  · decide
  · decide
  · exact ⟨by simpa using Ne.symm hlt, by simpa using Ne.symm hgt⟩

theorem not_mem_escapeChar (c : Char) :
    '<' ∉ escapeChar c ∧ '>' ∉ escapeChar c ∧ '"' ∉ escapeChar c := by
  rw [escapeChar]
  split_ifs with hquote hapostrophe
  · decide
  · decide
  · refine ⟨(not_mem_escapeMarkupChar c).1, (not_mem_escapeMarkupChar c).2, ?_⟩
    rw [escapeMarkupChar]
    split_ifs
    · decide
    · decide
    · decide
    · simpa using Ne.symm hquote

theorem isPlain_escapeMarkup (text : Chars) : IsPlain (escapeMarkup text) := by
  induction text with
  | nil => exact isPlain_nil
  | cons c rest ih => exact IsPlain.append (not_mem_escapeMarkupChar c) ih

theorem isPlain_escape (text : Chars) : IsPlain (escape text) := by
  induction text with
  | nil => exact isPlain_nil
  | cons c rest ih =>
    obtain ⟨hopen, hclose, -⟩ := not_mem_escapeChar c
    exact IsPlain.append ⟨hopen, hclose⟩ ih

theorem quote_not_mem_escape (text : Chars) : '"' ∉ escape text := by
  induction text with
  | nil => exact List.not_mem_nil
  | cons c rest ih =>
    rw [escape_cons, List.mem_append, not_or]
    exact ⟨(not_mem_escapeChar c).2.2, ih⟩

/-- Escaped text can be the value of any attribute. -/
theorem isWritable_escape (hname : isName name = true) (text : Chars) :
    IsWritable (name, escape text) :=
  ⟨hname, isPlain_escape text, quote_not_mem_escape text⟩

end ScriptReport.Html

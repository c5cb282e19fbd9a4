/-
  ScriptReport.Proofs.Html.EscapedText

  Escaped text, whatever it says. Escaping goes character by character, which is the same as
  replacing one character after another in the whole text with the ampersand first
  (`escape_eq_replace`). Main statement: an escaped text is read back as the text it was made of,
  and has nothing left that begins or ends markup (`escaped_reads_back`).
-/

import ScriptReport.Proofs.Html.Markup
import ScriptReport.Proofs.Html.Unescape
import ScriptReport.Proofs.Text.Splitting

namespace ScriptReport

namespace Text

/-! ## Replacing one character -/

theorem replace_singleton (c : Char) (new text : Chars) :
    replace [c] new text = concatMap (fun x => if x = c then new else [x]) text := by
  induction text with
  | nil => rfl
  | cons x rest ih =>
    have hcons : concatMap (fun x => if x = c then new else [x]) (x :: rest) =
        (if x = c then new else [x]) ++ concatMap (fun x => if x = c then new else [x]) rest := rfl
    rw [hcons, ← ih, replace, replace, splitOn_singleton_cons]
    split
    · rw [join_cons (splitOn_ne_nil _ _), List.nil_append]
    · rw [join_consFirst, List.singleton_append]

theorem concatMap_concatMap (f g : Char → Chars) (text : Chars) :
    concatMap f (concatMap g text) = concatMap (fun c => concatMap f (g c)) text := by
  simp only [concatMap, ← List.flatMap_def, List.flatMap_assoc]

theorem concatMap_singleton (f : Char → Chars) (c : Char) : concatMap f [c] = f c :=
  List.append_nil _

end Text

namespace Html

/-! ## Escaping replaces one character after another -/

/-- The ampersand goes first: the ones that the other replacements bring in stay as they are. -/
theorem escapeMarkup_eq_replace (text : Chars) :
    escapeMarkup text =
      Text.replace ['>'] "&gt;" (Text.replace ['<'] "&lt;" (Text.replace ['&'] "&amp;" text)) := by
  rw [Text.replace_singleton, Text.replace_singleton, Text.replace_singleton,
    Text.concatMap_concatMap, Text.concatMap_concatMap, escapeMarkup]
  congr 1
  funext c
  rw [escapeMarkupChar]
  split_ifs with hamp hlt hgt
  · rfl
  · subst hlt
    rfl
  · subst hgt
    rfl
  · rw [Text.concatMap_singleton, if_neg hlt, Text.concatMap_singleton, if_neg hgt]

theorem escape_eq_replace (text : Chars) :
    escape text =
      Text.replace ['\''] "&#x27;" (Text.replace ['"'] "&quot;" (escapeMarkup text)) := by
  rw [Text.replace_singleton, Text.replace_singleton, escapeMarkup, Text.concatMap_concatMap,
    Text.concatMap_concatMap, escape]
  congr 1
  funext c
  rw [escapeChar]
  split_ifs with hquote hapostrophe
  · subst hquote
    rfl
  · subst hapostrophe
    rfl
  · -- the references to markup characters have no quotes
    rw [escapeMarkupChar]
    split_ifs
    · rfl
    · rfl
    · rfl
    · rw [Text.concatMap_singleton, if_neg hquote, Text.concatMap_singleton, if_neg hapostrophe]

/-! ## What is left in an escaped text -/

theorem apostrophe_not_mem_escapeChar (c : Char) : '\'' ∉ escapeChar c := by
  rw [escapeChar]
  split_ifs with hquote hapostrophe
  · decide
  · decide
  · rw [escapeMarkupChar]
    split_ifs
    · decide
    · decide
    · decide
    · simpa using Ne.symm hapostrophe

theorem apostrophe_not_mem_escape (text : Chars) : '\'' ∉ escape text := by
  induction text with
  | nil => exact List.not_mem_nil
  | cons c rest ih =>
    rw [escape_cons, List.mem_append, not_or]
    exact ⟨apostrophe_not_mem_escapeChar c, ih⟩

/-- The only number that escaping writes is that of the apostrophe, and it is not decimal. -/
theorem overlongNumber?_escapeChar_append (c : Char) (rest : Chars) :
    overlongNumber? 0 (escapeChar c ++ rest) = overlongNumber? 0 rest := by
  rw [escapeChar]
  split_ifs with hquote hapostrophe
  · have hname : ∀ c ∈ "quot".toList, isNameChar c = true := List.all_eq_true.mp rfl
    exact overlongNumber?_name hname (by decide) (by decide) rest
  · have hnumber : reference? ("#x27;" ++ rest) = some (.hexadecimal "27", 5) := rfl
    have hread : ("&#x27;" : Chars) ++ rest = '&' :: ("#x27;" ++ rest) := rfl
    rw [hread, overlongNumber?, if_pos rfl, hnumber]
    exact overlongNumber?_length "#x27;" rest
  · rcases escapeMarkupChar_cases c with ⟨hamp, hc⟩ | ⟨name, hc, hname, hne, hlen, -⟩
    · rw [hc, List.singleton_append, overlongNumber?, if_neg hamp]
    · rw [hc, List.append_assoc, List.singleton_append, overlongNumber?_name hname hne hlen]

theorem overlongNumber?_escape (text : Chars) : overlongNumber? 0 (escape text) = none := by
  induction text with
  | nil => rfl
  | cons c rest ih => rw [escape_cons, overlongNumber?_escapeChar_append, ih]

/-! ## Escaped text is read back -/

/-- Reading the references of `written` goes through, as no number in it is too long to be read,
    and gives the text. -/
def ReadsBackAs (written text : Chars) : Prop :=
  overlongNumber? 0 written = none ∧ unescape written = text

/-- Every text is read back from both of its escaped forms, references by name and by number that
    stand in the text itself included. With quotes escaped there are no angle brackets and no
    quotes left, and without them no angle brackets. -/
theorem escaped_reads_back (text : Chars) :
    ReadsBackAs (escape text) text ∧
      ('<' ∉ escape text ∧ '>' ∉ escape text ∧ '"' ∉ escape text ∧ '\'' ∉ escape text) ∧
    ReadsBackAs (escapeMarkup text) text ∧ '<' ∉ escapeMarkup text ∧ '>' ∉ escapeMarkup text := by
  obtain ⟨hopen, hclose⟩ := isPlain_escape text
  have hquotes : '"' ∉ escape text ∧ '\'' ∉ escape text :=
    ⟨quote_not_mem_escape text, apostrophe_not_mem_escape text⟩
  have hread : ReadsBackAs (escape text) text := ⟨overlongNumber?_escape text, unescape_escape text⟩
  have hreadMarkup : ReadsBackAs (escapeMarkup text) text :=
    ⟨overlongNumber?_escapeMarkup text, unescape_escapeMarkup text⟩
  exact ⟨hread, ⟨hopen, hclose, hquotes⟩, hreadMarkup, isPlain_escapeMarkup text⟩

example : ReadsBackAs (escape "&amp;&#39;'>") "&amp;&#39;'>" := ⟨by decide, by decide⟩

end Html

end ScriptReport

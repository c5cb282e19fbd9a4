/-
  ScriptReport.Proofs.Html.Tagged

  The markup of a text with what stands behind it. A text that begins with a tag is made up of tags,
  each with the text up to the next one; so the labels of a page can be read, and not only its
  markup. Texts that are read in this way can be put together (`tags?_append`), and their markup is
  the markup of the page (`markup?_of_tags?`).
-/

import ScriptReport.Proofs.Html.Markup
import ScriptReport.Proofs.Text.Occurrence
import ScriptReport.Proofs.Text.Splitting

namespace ScriptReport.Html

/-- Markup, and the text behind it. -/
abbrev Tag := Markup × Chars

/-- What stands between an opening bracket and the next one, as a tag. -/
def tagOf? (piece : Chars) : Option Tag :=
  match Text.cutAt? '>' piece with
  | none => none
  | some (content, behind) =>
    if '>' ∈ behind then none else (tag? content).map fun m => (m, behind)

/-- The tags of a text with nothing in front of them. -/
def tags? (text : Chars) : Option (List Tag) :=
  match Text.splitOn "<" text with
  | [] :: pieces => pieces.mapM tagOf?
  | _ => none

/-- A tag, as it is written. -/
def tagText (content behind : Chars) : Chars := '<' :: (content ++ '>' :: behind)

variable {text content behind piece a b : Chars} {m : Markup} {tags more : List Tag}

theorem tagOf?_eq_some_iff :
    tagOf? piece = some (m, behind) ↔
      '>' ∉ behind ∧ ∃ content, piece = content ++ '>' :: behind ∧ '>' ∉ content ∧
        tag? content = some m := by
  constructor
  · intro h
    rw [tagOf?] at h
    split at h
    · cases h
    · next content behind hcut =>
      split_ifs at h with hclose
      obtain ⟨m, hm, hpair⟩ := Option.map_eq_some_iff.mp h
      obtain ⟨rfl, rfl⟩ := Prod.mk.inj hpair
      obtain ⟨hpiece, hfront⟩ := Text.eq_of_cutAt? hcut
      exact ⟨hclose, content, hpiece, hfront, hm⟩
  · rintro ⟨hclose, content, rfl, hfront, hm⟩
    rw [tagOf?, Text.cutAt?_append_cons hfront]
    dsimp only
    rw [if_neg hclose, hm, Option.map_some]

/-- There is nothing in front of the first tag. -/
theorem tags?_cons {c : Char} :
    tags? (c :: text) = some tags ↔
      c = '<' ∧ (Text.splitOn "<" text).mapM tagOf? = some tags := by
  have hsplit : Text.splitOn "<" (c :: text) =
      if c = '<' then [] :: Text.splitOn "<" text else Text.consFirst c (Text.splitOn "<" text) :=
    Text.splitOn_singleton_cons '<' c text
  rw [tags?, hsplit]
  by_cases hc : c = '<'
  · rw [if_pos hc]
    exact (and_iff_right hc).symm
  · obtain ⟨first, rest, hfirst⟩ := List.exists_cons_of_ne_nil (Text.splitOn_ne_nil "<" text)
    rw [if_neg hc, hfirst]
    simp [Text.consFirst, hc]

theorem tags?_append (ha : tags? a = some tags) (hb : tags? b = some more) :
    tags? (a ++ b) = some (tags ++ more) := by
  cases b with
  | nil =>
    obtain rfl : [] = more := Option.some.inj hb
    rwa [List.append_nil, List.append_nil]
  | cons c b =>
    obtain ⟨rfl, hafter⟩ := tags?_cons.mp hb
    cases a with
    | nil =>
      cases ha
      exact hb
    | cons d a =>
      obtain ⟨rfl, hbefore⟩ := tags?_cons.mp ha
      -- the bracket between the texts is one at which they are cut
      have hpieces : Text.splitOn "<" (a ++ '<' :: b) =
          Text.splitOn "<" a ++ Text.splitOn "<" b := Text.splitOn_append '<' a b
      refine tags?_cons.mpr ⟨rfl, ?_⟩
      rw [List.append_eq, hpieces, List.mapM_append, hbefore, hafter]
      rfl

theorem tags?_tagText (hcontent : IsPlain content) (hm : tag? content = some m)
    (hbehind : IsPlain behind) : tags? (tagText content behind) = some [(m, behind)] := by
  have hopen : '<' ∉ content ++ '>' :: behind := by
    simp only [List.mem_append, List.mem_cons, not_or]
    exact ⟨hcontent.1, by decide, hbehind.1⟩
  have hsplit : Text.splitOn "<" (content ++ '>' :: behind) = [content ++ '>' :: behind] :=
    Text.splitOn_of_not_mem hopen
  have htag : tagOf? (content ++ '>' :: behind) = some (m, behind) :=
    tagOf?_eq_some_iff.mpr ⟨hbehind.2, content, rfl, hcontent.2, hm⟩
  rw [tagText, tags?_cons, hsplit, List.mapM_cons, htag]
  exact ⟨rfl, rfl⟩

/-- An opening tag, and text behind it. -/
theorem tags?_openingText {name : Chars} {attributes : List (Chars × Chars)}
    (hname : isName name = true) (h : ∀ a ∈ attributes, IsWritable a) (hbehind : IsPlain behind) :
    tags? (openingText name attributes ++ behind) =
      some [(.opening name (attributes.map fun a => (a.1, some a.2)), behind)] := by
  have htext : openingText name attributes ++ behind =
      tagText (name ++ Text.concatMap attributeText attributes) behind := by
    simp only [openingText, tagText, List.append_assoc, List.cons_append, List.nil_append]
  rw [htext]
  exact tags?_tagText ((isPlain_of_isName hname).append (isPlain_concatMap h))
    (tag?_opening hname (attributes?_concatMap h)) hbehind

theorem tags?_closingText {name : Chars} (hname : isName name = true) :
    tags? (closingText name) = some [(.closing name, [])] := by
  have htext : closingText name = tagText ('/' :: name) [] := rfl
  have hplain : IsPlain ('/' :: name) :=
    IsPlain.append (a := ['/']) ⟨by decide, by decide⟩ (isPlain_of_isName hname)
  rw [htext]
  exact tags?_tagText hplain (tag?_closing hname) isPlain_nil

/-- The markup of pieces that opening brackets come before. -/
theorem markup?_pieces {pieces : List Chars} (hopen : ∀ piece ∈ pieces, '<' ∉ piece)
    (h : pieces.mapM tagOf? = some tags) :
    markup? (pieces.flatMap ('<' :: ·)) = some (tags.map Prod.fst) := by
  induction pieces generalizing tags with
  | nil =>
    cases h
    rfl
  | cons piece pieces ih =>
    obtain ⟨hpiece, hrest⟩ := List.forall_mem_cons.mp hopen
    simp only [List.mapM_cons, Option.bind_eq_bind, Option.bind_eq_some_iff, Option.pure_def,
      Option.some.injEq] at h
    obtain ⟨⟨m, behind⟩, htag, more, hmore, rfl⟩ := h
    obtain ⟨hclose, content, rfl, hcontent, hm⟩ := tagOf?_eq_some_iff.mp htag
    simp only [List.mem_append, List.mem_cons, not_or] at hpiece
    -- the tag, the text behind it, and the other pieces
    have hread : markup? ('<' :: content ++ ['>']) = some [m] :=
      markup?_tag ⟨hpiece.1, hcontent⟩ hm
    have hplain : markup? behind = some [] := markup?_of_isPlain ⟨hpiece.2.2, hclose⟩
    have htext : (('<' :: (content ++ '>' :: behind)) ++ pieces.flatMap ('<' :: ·)) =
        ('<' :: content ++ ['>']) ++ (behind ++ pieces.flatMap ('<' :: ·)) := by
      simp only [List.cons_append, List.append_assoc, List.nil_append]
    rw [List.flatMap_cons, htext, markup?_append hread, markup?_append hplain, ih hrest hmore]
    rfl

/-- The tags of a text are its markup. -/
theorem markup?_of_tags? (h : tags? text = some tags) :
    markup? text = some (tags.map Prod.fst) := by
  cases text with
  | nil =>
    cases h
    rfl
  | cons c text =>
    obtain ⟨rfl, hpieces⟩ := tags?_cons.mp h
    have htext : '<' :: text = (Text.splitOn "<" text).flatMap ('<' :: ·) := by
      have hjoin : Text.join "<" (Text.splitOn "<" text) = text :=
        Text.join_splitOn (by decide) text
      have heach := Text.separator_append_join (Text.splitOn_ne_nil "<" text) "<"
      rw [hjoin] at heach
      exact heach
    rw [htext]
    exact markup?_pieces (fun _ => Text.not_mem_of_mem_splitOn) hpieces

end ScriptReport.Html

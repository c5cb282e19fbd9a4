/-
  ScriptReport.Proofs.Script.FileBlock

  Blocks that stand for a file: one to include, or a graphic. The tags are looked for in the lower
  case of the block and cut out of the block itself, which is longer by one place less for each `İ`.
  That does no harm at both ends of the block. A closing tag in its middle is found too far behind
  if an `İ` comes before it, and then the path takes a part of the tag in. Main statement:
  `fileItem_eq`.
-/

import ScriptReport.Proofs.Script.Reading
import ScriptReport.Proofs.Text.LowerCase

namespace ScriptReport.Script

/-! ## The two kinds -/

/-- What a block between tags stands for. -/
inductive FileKind where
  | included
  | graphic
  deriving DecidableEq, Repr

/-- The tags of the kind. -/
def FileKind.tags : FileKind → Tags
  | .included => includeTags
  | .graphic => graphicTags

/-- The item of a path. -/
def FileKind.item : FileKind → Chars → Item
  | .included, path => .included path none
  | .graphic, path => .graphic path

/-- A block read as one of the kind: its item, if it has one, and the warnings. -/
def fileItem (kind : FileKind) (lines : List Chars) : Option Item × List Warning :=
  ((delimited kind.tags lines.flatten).1.map kind.item, (delimited kind.tags lines.flatten).2)

/-- A block between tags is read as a file to include, and if it is none as a graphic. -/
theorem taggedItem_eq (lines : List Chars) :
    taggedItem lines =
      if (fileItem .included lines).1.isSome then fileItem .included lines
      else ((fileItem .graphic lines).1,
        (fileItem .included lines).2 ++ (fileItem .graphic lines).2) := by
  unfold taggedItem fileItem FileKind.tags
  rcases delimited includeTags lines.flatten with ⟨_ | path, warnings⟩
  · rcases delimited graphicTags lines.flatten with ⟨_ | path, more⟩ <;> rfl
  · rfl

/-! ## What is between the tags -/

/-- The text is `inner` between the tags, in which capital letters count as small ones. -/
def Tags.Enclose (tags : Tags) (inner text : Chars) : Prop :=
  ∃ before after, text = before ++ inner ++ after ∧
    Text.foldAscii before = tags.opening ∧ Text.foldAscii after = tags.closing

/-- Where the first closing tag starts in a text. -/
def Tags.firstClosing? (tags : Tags) (inner : Chars) : Option Nat :=
  Text.find? tags.closing (Text.foldAscii inner)

/-- The text before the first closing tag in it, or all of it. -/
def Tags.beforeClosing (tags : Tags) (inner : Chars) : Chars :=
  match tags.firstClosing? inner with
  | some i => inner.take i
  | none => inner

/-- The item whose path is the text without blanks around it, if anything is left. -/
def FileKind.pathItem? (kind : FileKind) (text : Chars) : Option Item :=
  if Text.trim text = [] then none else some (kind.item (Text.trim text))

variable {tags : Tags} {kind : FileKind} {inner text : Chars} {i : Nat}

theorem isPattern_opening (kind : FileKind) : Text.IsPattern kind.tags.opening := by
  cases kind <;> exact Text.IsPattern.of_all (by decide) (by decide) (by decide)

theorem isPattern_closing (kind : FileKind) : Text.IsPattern kind.tags.closing := by
  cases kind <;> exact Text.IsPattern.of_all (by decide) (by decide) (by decide)

/-- What stands between tags, if there are tags at both ends. -/
def Tags.inside (tags : Tags) (text : Chars) : Chars :=
  (text.take (text.length - tags.closing.length)).drop tags.opening.length

/-- The test at both ends of a text, on its lower case. -/
def Tags.EndsFound (tags : Tags) (text : Chars) : Prop :=
  tags.opening.length + tags.closing.length ≤ text.length ∧
    tags.opening <+: Text.lower text ∧ tags.closing <:+ Text.lower text

/-- Only one text is between the tags. -/
theorem inside_eq (h : tags.Enclose inner text) : tags.inside text = inner := by
  obtain ⟨before, after, rfl, hbefore, hafter⟩ := h
  have hfront : tags.opening.length = before.length := by
    rw [← hbefore, Text.foldAscii, List.length_map]
  have hback : (before ++ inner ++ after).length - tags.closing.length =
      (before ++ inner).length := by
    rw [← hafter, Text.foldAscii, List.length_map, List.length_append, Nat.add_sub_cancel]
  rw [Tags.inside, hback, List.take_left, hfront, List.drop_left]

theorem endsFound_of_enclose (kind : FileKind) (h : kind.tags.Enclose inner text) :
    kind.tags.EndsFound text := by
  obtain ⟨before, after, rfl, hbefore, hafter⟩ := h
  have hfold : Text.foldAscii (before ++ inner ++ after) =
      kind.tags.opening ++ Text.foldAscii inner ++ kind.tags.closing := by
    rw [← hbefore, ← hafter, Text.foldAscii, List.map_append, List.map_append]
    rfl
  refine ⟨?_, ?_, ?_⟩
  · rw [← hbefore, ← hafter, Text.foldAscii, Text.foldAscii, List.length_map, List.length_map,
      List.length_append, List.length_append]
    omega
  · rw [Text.lower, Text.prefix_lowerFrom_iff (isPattern_opening kind), hfold, List.append_assoc]
    exact List.prefix_append _ _
  · rw [Text.lower, Text.suffix_lowerFrom_iff (isPattern_closing kind), hfold]
    exact List.suffix_append _ _

/-- The test finds nothing but tags, though the lower case can be longer than the text. -/
theorem enclose_of_endsFound (kind : FileKind) (h : kind.tags.EndsFound text) :
    kind.tags.Enclose (kind.tags.inside text) text := by
  obtain ⟨hle, hfront, hback⟩ := h
  rw [Text.lower, Text.prefix_lowerFrom_iff (isPattern_opening kind)] at hfront
  rw [Text.lower, Text.suffix_lowerFrom_iff (isPattern_closing kind)] at hback
  refine ⟨text.take kind.tags.opening.length,
    text.drop (text.length - kind.tags.closing.length), ?_, ?_, ?_⟩
  · have hfirst : (text.take (text.length - kind.tags.closing.length)).take
        kind.tags.opening.length = text.take kind.tags.opening.length := by
      rw [List.take_take, min_eq_left (by omega)]
    rw [Tags.inside, ← hfirst, List.take_append_drop, List.take_append_drop]
  · rw [Text.foldAscii, List.map_take]
    exact (List.prefix_iff_eq_take.mp hfront).symm
  · have hlength : (Text.foldAscii text).length = text.length := List.length_map _
    rw [Text.foldAscii, List.map_drop, ← hlength]
    exact (List.suffix_iff_eq_drop.mp hback).symm

/-! ## Reading a block -/

/-- The text that the path is made of: it ends where the closing tag in the lower case starts. -/
def Tags.cut (tags : Tags) (inner : Chars) : Chars :=
  match tags.firstClosing? inner with
  | some i => inner.take (i + (inner.take i).count 'İ')
  | none => inner

theorem delimited_of_not_endsFound (h : ¬ tags.EndsFound text) :
    delimited tags text = (none, []) := by
  unfold delimited
  by_cases hlength : text.length < tags.opening.length + tags.closing.length
  · exact if_pos hlength
  · have hends : (tags.opening.isPrefixOf (Text.lower text) &&
        tags.closing.isSuffixOf (Text.lower text)) = false := by
      rw [← Bool.not_eq_true, Bool.and_eq_true, List.isPrefixOf_iff_prefix,
        List.isSuffixOf_iff_suffix]
      exact fun hends => h ⟨Nat.le_of_not_lt hlength, hends⟩
    simp only [if_neg hlength, hends]
    rfl

theorem delimited_of_endsFound (hclosing : Text.IsPattern tags.closing) (h : tags.EndsFound text) :
    delimited tags text =
      (if Text.trim (tags.cut (tags.inside text)) = [] then none
        else some (Text.trim (tags.cut (tags.inside text))),
        if (tags.firstClosing? (tags.inside text)).isSome then [.ambiguous text tags.closing]
        else []) := by
  obtain ⟨hle, hends⟩ := h
  have hends : (tags.opening.isPrefixOf (Text.lower text) &&
      tags.closing.isSuffixOf (Text.lower text)) = true := by
    rw [Bool.and_eq_true, List.isPrefixOf_iff_prefix, List.isSuffixOf_iff_suffix]
    exact hends
  have hfind : Text.find? tags.closing (Text.lower (tags.inside text)) =
      (tags.firstClosing? (tags.inside text)).map fun i =>
        i + ((tags.inside text).take i).count 'İ' :=
    Text.find?_lowerFrom hclosing [] (tags.inside text)
  unfold delimited
  simp only [if_neg (Nat.not_lt.mpr hle), hends, Bool.not_true, Bool.false_eq_true, if_false]
  rw [← Tags.inside, hfind, Tags.cut]
  rcases tags.firstClosing? (tags.inside text) with _ | i <;> rfl

/-- What a block between tags is read as. -/
theorem fileItem_of_enclose {lines : List Chars} (h : kind.tags.Enclose inner lines.flatten) :
    fileItem kind lines =
      (kind.pathItem? (kind.tags.cut inner),
        if (kind.tags.firstClosing? inner).isSome then
          [.ambiguous lines.flatten kind.tags.closing] else []) := by
  rw [fileItem, delimited_of_endsFound (isPattern_closing kind) (endsFound_of_enclose kind h),
    inside_eq h, FileKind.pathItem?]
  split <;> rfl

/-! ## Where the path ends -/

theorem trimStart_append {a b : Chars} (ha : Text.isBlank a = false) :
    Text.trimStart (a ++ b) = Text.trimStart a ++ b := by
  have hne : (a.dropWhile Text.isBlankChar).isEmpty = false := by
    rw [List.isEmpty_eq_false_iff, ne_eq, Text.dropWhile_eq_nil_iff, ← Text.isBlank, ha]
    exact Bool.false_ne_true
  rw [Text.trimStart, Text.trimStart, List.dropWhile_append, if_neg (by rw [hne]; decide)]

theorem trimEnd_append (a : Chars) {b : Chars} (hb : Text.isBlank b = false) :
    Text.trimEnd (a ++ b) = a ++ Text.trimEnd b := by
  have hne : (b.reverse.dropWhile Text.isBlankChar).isEmpty = false := by
    rw [List.isEmpty_eq_false_iff, ne_eq, Text.dropWhile_eq_nil_iff, List.all_reverse,
      ← Text.isBlank, hb]
    exact Bool.false_ne_true
  rw [Text.trimEnd, Text.trimEnd, Text.dropEndWhile, Text.dropEndWhile, List.reverse_append,
    List.dropWhile_append, if_neg (by rw [hne]; decide), List.reverse_append, List.reverse_reverse]

/-- More text behind a text leaves more of it when it is trimmed. -/
theorem trim_append_ne {a b : Chars} (ha : Text.isBlank a = false) (hb : Text.isBlank b = false) :
    Text.trim (a ++ b) ≠ Text.trim a := by
  have hrest : Text.trimEnd b ≠ [] := by
    rw [Text.trimEnd, Text.dropEndWhile, ne_eq, List.reverse_eq_nil_iff, Text.dropWhile_eq_nil_iff,
      List.all_reverse, ← Text.isBlank, hb]
    exact Bool.false_ne_true
  have hlonger : 0 < (Text.trimEnd b).length := List.length_pos_iff.mpr hrest
  have hshorter : (Text.trim a).length ≤ (Text.trimStart a).length := by
    have hdrop : ((Text.trimStart a).reverse.dropWhile Text.isBlankChar).length ≤
        (Text.trimStart a).reverse.length := (List.dropWhile_suffix _).length_le
    rw [List.length_reverse] at hdrop
    rwa [Text.trim, Text.trimEnd, Text.dropEndWhile, List.length_reverse]
  intro heq
  have hlength := congrArg List.length heq
  rw [Text.trim, trimStart_append ha, trimEnd_append _ hb, List.length_append] at hlength
  omega

theorem toLower_of_isBlankChar {c : Char} (h : Text.isBlankChar c = true) : c.toLower = c := by
  refine dif_neg fun hupper => ?_
  have hlow : 65 ≤ c.toNat := hupper.1
  have hhigh : c.toNat ≤ 90 := hupper.2
  simp only [Text.isBlankChar, Bool.or_eq_true, Bool.and_eq_true, decide_eq_true_eq,
    beq_iff_eq] at h
  omega

theorem not_isBlankChar_closing (kind : FileKind) :
    kind.tags.closing.any Text.isBlankChar = false := by
  cases kind <;> decide

/-- A closing tag starts with a character that trimming keeps. -/
theorem exists_of_firstClosing? (h : kind.tags.firstClosing? inner = some i) :
    ∃ c rest, inner.drop i = c :: rest ∧ Text.isBlankChar c = false := by
  have hstarts := (Text.find?_eq_some_iff.mp h).1
  rw [Text.foldAscii, ← List.map_drop] at hstarts
  obtain ⟨t, ts, htag⟩ := List.exists_cons_of_ne_nil (isPattern_closing kind).ne_nil
  rw [htag] at hstarts
  cases hrest : inner.drop i with
  | nil =>
    rw [hrest] at hstarts
    exact absurd hstarts.length_le (by simp)
  | cons c rest =>
    rw [hrest, List.map_cons, List.cons_prefix_cons] at hstarts
    refine ⟨c, rest, rfl, ?_⟩
    have ht : Text.isBlankChar t = false :=
      Bool.eq_false_iff.mpr
        (List.any_eq_false.mp (not_isBlankChar_closing kind) t (htag ▸ List.mem_cons_self))
    by_contra hblank
    rw [Bool.not_eq_false] at hblank
    rw [hstarts.1, toLower_of_isBlankChar hblank, hblank] at ht
    cases ht

theorem FileKind.item_injective (kind : FileKind) : Function.Injective kind.item := by
  intro a b h
  cases kind <;> · cases h; rfl

theorem not_isBlank_of_mem {c : Char} (hmem : c ∈ text) (hc : Text.isBlankChar c = false) :
    Text.isBlank text = false := by
  rw [← Bool.not_eq_true, Text.isBlank, List.all_eq_true]
  exact fun hall => absurd (hall c hmem) (by rw [hc]; exact Bool.false_ne_true)

/-- The path is that of the text before the first closing tag unless an `İ` stands in that text. -/
theorem pathItem?_cut_iff (kind : FileKind) (inner : Chars) :
    kind.pathItem? (kind.tags.cut inner) = kind.pathItem? (kind.tags.beforeClosing inner) ↔
      ∀ i, kind.tags.firstClosing? inner = some i → 'İ' ∉ inner.take i := by
  rw [Tags.cut, Tags.beforeClosing]
  cases hfound : kind.tags.firstClosing? inner with
  | none => exact iff_of_true rfl (fun _ h => nomatch h)
  | some i =>
    simp only [Option.some.injEq, forall_eq']
    constructor
    · intro heq hmem
      obtain ⟨c, rest, hrest, hc⟩ := exists_of_firstClosing? hfound
      obtain ⟨n, hn⟩ := Nat.exists_eq_add_of_lt (List.count_pos_iff.mpr hmem)
      have hbefore : Text.isBlank (inner.take i) = false := not_isBlank_of_mem hmem (by decide)
      -- the cut takes the first character of the closing tag in
      have hcut : inner.take (i + (inner.take i).count 'İ') = inner.take i ++ c :: rest.take n := by
        rw [List.take_add, hn, Nat.zero_add, hrest, List.take_succ_cons]
      have hmore : Text.isBlank (c :: rest.take n) = false :=
        not_isBlank_of_mem List.mem_cons_self hc
      have hwhole : Text.isBlank (inner.take i ++ c :: rest.take n) = false :=
        not_isBlank_of_mem (List.mem_append_left _ hmem) (by decide)
      rw [hcut, FileKind.pathItem?, FileKind.pathItem?,
        if_neg (by rw [Text.trim_eq_nil_iff, hwhole]; exact Bool.false_ne_true),
        if_neg (by rw [Text.trim_eq_nil_iff, hbefore]; exact Bool.false_ne_true),
        Option.some.injEq] at heq
      exact trim_append_ne hbefore hmore (kind.item_injective heq)
    · intro hnot
      rw [List.count_eq_zero.mpr hnot, Nat.add_zero]

/-- A block between tags has the item whose path ends before the first closing tag inside, if no
    `İ` comes before that, and a warning if there is such a tag; any other block has neither. -/
theorem fileItem_eq (kind : FileKind) (lines : List Chars) :
    (∀ inner, kind.tags.Enclose inner lines.flatten →
      (fileItem kind lines).2 =
        (if (kind.tags.firstClosing? inner).isSome then
          [.ambiguous lines.flatten kind.tags.closing] else []) ∧
      (fileItem kind lines).1 = kind.pathItem? (kind.tags.cut inner) ∧
      ((fileItem kind lines).1 = kind.pathItem? (kind.tags.beforeClosing inner) ↔
        ∀ i, kind.tags.firstClosing? inner = some i → 'İ' ∉ inner.take i)) ∧
    ((¬ ∃ inner, kind.tags.Enclose inner lines.flatten) → fileItem kind lines = (none, [])) := by
  constructor
  · intro inner henclose
    rw [fileItem_of_enclose henclose]
    exact ⟨rfl, rfl, pathItem?_cut_iff kind inner⟩
  · intro hnone
    have hends : ¬ kind.tags.EndsFound lines.flatten := fun hends =>
      hnone ⟨_, enclose_of_endsFound kind hends⟩
    rw [fileItem, delimited_of_not_endsFound hends]
    rfl

/-- Capital letters in the tags, a second closing tag, and an `İ` behind it. -/
theorem fileItem_twoClosings :
    ["<INCLUDE> a".toList, ".m </Include>İ</include>".toList].flatten =
        "<INCLUDE> a.m </Include>İ</include>".toList ∧
      fileItem .included ["<INCLUDE> a", ".m </Include>İ</include>"] =
        (some (.included "a.m" none),
          [.ambiguous "<INCLUDE> a.m </Include>İ</include>" "</include>"]) := by
  have henclose : FileKind.included.tags.Enclose " a.m </Include>İ"
      ["<INCLUDE> a".toList, ".m </Include>İ</include>".toList].flatten :=
    ⟨"<INCLUDE>", "</include>", by decide, by decide, by decide⟩
  obtain ⟨hwarnings, -, hpath⟩ := (fileItem_eq .included
    ["<INCLUDE> a", ".m </Include>İ</include>"]).1 _ henclose
  refine ⟨by decide, Prod.ext ?_ ?_⟩
  · refine (hpath.mpr ?_).trans (by decide +kernel)
    decide +kernel
  · rw [hwarnings]
    decide +kernel

/-- The dotted capital letter in front of the second closing tag: the path gets a part of it. -/
theorem fileItem_dottedGraphic :
    FileKind.graphic.tags.Enclose "İa>>b" ["<<İa>>b>>".toList].flatten ∧
      FileKind.graphic.pathItem? (FileKind.graphic.tags.beforeClosing "İa>>b") =
        some (.graphic "İa") ∧
      (fileItem .graphic ["<<İa>>b>>"]).1 = some (.graphic "İa>") :=
  ⟨⟨"<<", ">>", by decide, by decide, by decide⟩, by decide +kernel, by decide +kernel⟩

end ScriptReport.Script

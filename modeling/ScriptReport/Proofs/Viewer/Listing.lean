/-
  ScriptReport.Proofs.Viewer.Listing

  The list of scripts as it is read in a browser. Its tags are read into entries, each with the names
  that lead to it, and the directory that is open is kept on the way. A list that can be read is
  nested and has no markup but that of its entries (`nest_of_readEntries`, `length_of_readEntries`).
  A rendered tree of paths reads as one link for each path, behind its directories.
-/

import ScriptReport.Proofs.Html.Nesting
import ScriptReport.Proofs.Html.Tagged
import ScriptReport.Proofs.Html.Unescape
import ScriptReport.Proofs.Viewer.Sidebar

namespace ScriptReport.Viewer

open ScriptReport.Html (Tag Markup escape unescape tags? tagText tag? IsPlain nest)
open ScriptReport.Path (IsPiece)

/-! ## Reading a list -/

/-- An entry of a list of scripts. -/
inductive Entry where
  /-- A directory, by the names that lead to it. -/
  | folder (path : List Chars) (isOpen : Bool)
  /-- A link to a file, by the names that lead to it, and the name that it asks for. -/
  | file (path : List Chars) (target : Chars) (isActive : Bool)
  deriving DecidableEq, Repr

/-- How many tags an entry is made of. -/
def Entry.size : Entry → Nat
  | .folder _ _ => 6
  | .file _ _ _ => 4

/-- The tags in front of what is in a directory. -/
def folderTags (isOpen : Bool) (label : Chars) : List Tag :=
  [(.opening "details" (("class".toList, some "fm-dir".toList) ::
      if isOpen then [("open".toList, none)] else []), []),
   (.opening "summary" [], label), (.closing "summary", []),
   (.opening "div" [("class".toList, some "fm-children".toList)], [])]

/-- The tags behind what is in a directory. -/
def folderEnd : List Tag := [(.closing "div", []), (.closing "details", [])]

/-- The tags of a link to a file. -/
def fileTags (isActive : Bool) (url label : Chars) : List Tag :=
  [(.opening "div"
      [("class".toList, some (if isActive then "fm-file active" else "fm-file").toList)], []),
   (.opening "a" [("href".toList, some url)], label), (.closing "a", []), (.closing "div", [])]

/-- The name of a directory, from its label: a slash is shown behind it. -/
def folderName? (label : Chars) : Option Chars :=
  if (unescape label).getLast? = some '/' then some (unescape label).dropLast else none

/-- The directory that four tags begin: its name, and whether it is open. -/
def folder? (a b c d : Tag) : Option (Chars × Bool) := do
  let name ← folderName? b.2
  let isOpen ← [false, true].find? fun isOpen => [a, b, c, d] = folderTags isOpen b.2
  return (name, isOpen)

/-- The link that four tags are: its label, the name that it asks for, and whether it is active. -/
def file? (a b c d : Tag) : Option (Chars × Chars × Bool) := do
  let url ← b.1.references.head?
  let name ← Text.afterOpening? "/view/" (unescape url)
  let isActive ← [false, true].find? fun isActive => [a, b, c, d] = fileTags isActive url b.2
  return (unescape b.2, Url.decode name, isActive)

/-- The entries that tags make up, where the names of the directories that are open lead to
    `place`. At the end all are closed. -/
def readEntries (place : List Chars) : List Tag → Option (List Entry)
  | [] => if place = [] then some [] else none
  | [_] => none
  | a :: b :: rest =>
    if [a, b] = folderEnd then
      if place = [] then none else readEntries place.dropLast rest
    else
      match rest with
      | c :: d :: rest =>
        match folder? a b c d, file? a b c d with
        | some (name, isOpen), _ =>
          (readEntries (place ++ [name]) rest).map (.folder (place ++ [name]) isOpen :: ·)
        | none, some (name, target, isActive) =>
          (readEntries place rest).map (.file (place ++ [name]) target isActive :: ·)
        | none, none => none
      | _ => none

/-- The entries of a list of scripts, from its text. -/
def entries? (text : Chars) : Option (List Entry) := (tags? text).bind (readEntries [])

/-! ## What can be read -/

variable {place : List Chars} {name label url target : Chars} {isOpen isActive : Bool}
  {a b c d : Tag} {tags rest : List Tag} {entries : List Entry}

theorem eq_of_folderName? (h : folderName? label = some name) : unescape label = name ++ "/" := by
  rw [folderName?] at h
  split_ifs at h with hlast
  cases h
  exact (List.dropLast_append_getLast? '/' hlast).symm

theorem eq_of_folder? (h : folder? a b c d = some (name, isOpen)) :
    ∃ label, unescape label = name ++ "/" ∧ [a, b, c, d] = folderTags isOpen label := by
  simp only [folder?, Option.bind_eq_bind, Option.bind_eq_some_iff, Option.pure_def,
    Option.some.injEq, Prod.mk.injEq] at h
  obtain ⟨read, hname, isOpen, htags, rfl, rfl⟩ := h
  have hfound := List.find?_some htags
  exact ⟨b.2, eq_of_folderName? hname, of_decide_eq_true hfound⟩

theorem eq_of_file? (h : file? a b c d = some (name, target, isActive)) :
    ∃ url label path, unescape url = "/view/" ++ path ∧ Url.decode path = target ∧
      unescape label = name ∧ [a, b, c, d] = fileTags isActive url label := by
  simp only [file?, Option.bind_eq_bind, Option.bind_eq_some_iff, Option.pure_def,
    Option.some.injEq, Prod.mk.injEq] at h
  obtain ⟨url, -, path, hpath, isActive, htags, hname, htarget, rfl⟩ := h
  have hfound := List.find?_some htags
  exact ⟨url, b.2, path, Text.eq_append_of_afterOpening? hpath, htarget, hname,
    of_decide_eq_true hfound⟩

theorem readEntries_of_end (h : [a, b] = folderEnd) :
    readEntries place (a :: b :: rest) =
      if place = [] then none else readEntries place.dropLast rest := by
  rw [readEntries.eq_def]
  dsimp only
  rw [if_pos h]

theorem readEntries_of_folder (hend : [a, b] ≠ folderEnd)
    (h : folder? a b c d = some (name, isOpen)) :
    readEntries place (a :: b :: c :: d :: rest) =
      (readEntries (place ++ [name]) rest).map (.folder (place ++ [name]) isOpen :: ·) := by
  rw [readEntries, if_neg hend, h]

theorem readEntries_of_file (hend : [a, b] ≠ folderEnd) (hfolder : folder? a b c d = none)
    (h : file? a b c d = some (name, target, isActive)) :
    readEntries place (a :: b :: c :: d :: rest) =
      (readEntries place rest).map (.file (place ++ [name]) target isActive :: ·) := by
  rw [readEntries, if_neg hend, hfolder, h]

/-- A list that can be read is at its end, or goes on with the end of a directory, with the
    beginning of one, or with a link. -/
theorem readEntries_induction {motive : List Chars → List Tag → List Entry → Prop}
    (nil : motive [] [] [])
    (leave : ∀ place name tags entries, motive place tags entries →
      motive (place ++ [name]) (folderEnd ++ tags) entries)
    (enter : ∀ place name isOpen label tags entries, unescape label = name ++ "/" →
      motive (place ++ [name]) tags entries →
      motive place (folderTags isOpen label ++ tags) (.folder (place ++ [name]) isOpen :: entries))
    (link : ∀ place isActive url path label tags entries, unescape url = "/view/" ++ path →
      motive place tags entries →
      motive place (fileTags isActive url label ++ tags)
        (.file (place ++ [unescape label]) (Url.decode path) isActive :: entries))
    (h : readEntries place tags = some entries) : motive place tags entries := by
  induction place, tags using readEntries.induct generalizing entries with
  | case1 =>
    cases h
    exact nil
  | case2 place hplace => simp [readEntries, hplace] at h
  | case3 place tag => simp [readEntries] at h
  | case4 a b rest hend =>
    rw [readEntries_of_end hend, if_pos rfl] at h
    cases h
  | case5 place a b rest hend hplace ih =>
    -- the end of a directory, which is the last one of those that are open
    rw [readEntries_of_end hend, if_neg hplace] at h
    obtain ⟨init, last, rfl⟩ := (List.eq_nil_or_concat' place).resolve_left hplace
    rw [List.dropLast_concat] at h ih
    have htags : a :: b :: rest = folderEnd ++ rest := by rw [← hend]; rfl
    rw [htags]
    exact leave _ _ _ _ (ih h)
  | case6 place a b hend c d rest name isOpen hfolder ih =>
    -- the beginning of a directory
    rw [readEntries_of_folder hend hfolder] at h
    obtain ⟨entries, hrest, rfl⟩ := Option.map_eq_some_iff.mp h
    obtain ⟨label, hlabel, hstart⟩ := eq_of_folder? hfolder
    have htags : a :: b :: c :: d :: rest = folderTags isOpen label ++ rest := by rw [← hstart]; rfl
    rw [htags]
    exact enter _ _ _ _ _ _ hlabel (ih hrest)
  | case7 place a b hend c d rest name target isActive hfile hfolder ih =>
    -- a link
    rw [readEntries_of_file hend hfolder hfile] at h
    obtain ⟨entries, hrest, rfl⟩ := Option.map_eq_some_iff.mp h
    obtain ⟨url, label, path, hurl, rfl, rfl, hlink⟩ := eq_of_file? hfile
    have htags : a :: b :: c :: d :: rest = fileTags isActive url label ++ rest := by
      rw [← hlink]; rfl
    rw [htags]
    exact link _ _ _ _ _ _ _ hurl (ih hrest)
  | case8 place a b hend c d rest hfile hfolder =>
    rw [readEntries, if_neg hend] at h
    simp [hfolder, hfile] at h
  | case9 place a b rest hend hshort =>
    rw [readEntries, if_neg hend] at h
    · cases h
    · exact hshort

/-- The elements that are open inside of so many directories, the latest first. -/
def openElements : Nat → List Chars
  | 0 => []
  | n + 1 => "div".toList :: "details".toList :: openElements n

/-- A list that can be read is nested: it closes what it opens, and what the directories around it
    have open. -/
theorem nest_of_readEntries (h : readEntries place tags = some entries) :
    nest (openElements place.length) (tags.map Prod.fst) = some [] := by
  refine readEntries_induction (motive := fun place tags _ =>
    nest (openElements place.length) (tags.map Prod.fst) = some []) rfl ?_ ?_ ?_ h
  · intro place name tags _ ih
    rw [List.length_append]
    exact ih
  · intro place name isOpen label tags _ _ ih
    rw [List.length_append] at ih
    exact ih
  · intro place isActive url path label tags _ _ ih
    exact ih

/-- A list that can be read has the tags of its entries and no others: those that close the
    directories around it come on top. -/
theorem length_of_readEntries (h : readEntries place tags = some entries) :
    tags.length = (entries.map Entry.size).sum + 2 * place.length := by
  refine readEntries_induction (motive := fun place tags entries =>
    tags.length = (entries.map Entry.size).sum + 2 * place.length) rfl ?_ ?_ ?_ h
  · intro place name tags entries ih
    have hend : (folderEnd ++ tags).length = 2 + tags.length := List.length_append
    rw [hend, ih, List.length_append, List.length_singleton]
    omega
  · intro place name isOpen label tags entries _ ih
    have hstart : (folderTags isOpen label ++ tags).length = 4 + tags.length := List.length_append
    rw [List.length_append, List.length_singleton] at ih
    rw [hstart, ih, List.map_cons, List.sum_cons, Entry.size]
    omega
  · intro place isActive url path label tags entries _ ih
    have hlink : (fileTags isActive url label ++ tags).length = 4 + tags.length :=
      List.length_append
    rw [hlink, ih, List.map_cons, List.sum_cons, Entry.size]
    omega

/-- A text that reads as a list is markup that is nested, and it has the tags of its entries and no
    others. -/
theorem markup_of_entries? {text : Chars} (h : entries? text = some entries) :
    ∃ ms, Html.markup? text = some ms ∧ nest [] ms = some [] ∧
      ms.length = (entries.map Entry.size).sum := by
  obtain ⟨tags, htags, hread⟩ := Option.bind_eq_some_iff.mp h
  refine ⟨tags.map Prod.fst, Html.markup?_of_tags? htags, nest_of_readEntries hread, ?_⟩
  rw [List.length_map]
  exact length_of_readEntries hread

/-! ## Reading what is rendered -/

theorem readEntries_folderEnd (place : List Chars) (name : Chars) (rest : List Tag) :
    readEntries (place ++ [name]) (folderEnd ++ rest) = readEntries place rest := by
  have hend : readEntries (place ++ [name]) (folderEnd ++ rest) =
      if place ++ [name] = [] then none else readEntries (place ++ [name]).dropLast rest :=
    readEntries_of_end rfl
  rw [hend, if_neg (List.concat_ne_nil _ _), List.dropLast_concat]

theorem folderName?_escape (name : Chars) : folderName? (escape name ++ "/") = some name := by
  have hshown : unescape (escape name ++ "/") = name ++ ['/'] :=
    Html.unescape_escape_append name "/"
  rw [folderName?, hshown, if_pos List.getLast?_concat, List.dropLast_concat]

theorem folder?_of_folderTags (h : folderTags isOpen label = [a, b, c, d])
    (hname : folderName? label = some name) : folder? a b c d = some (name, isOpen) := by
  have htags : ∀ other, folderTags isOpen label = folderTags other label ↔ isOpen = other := by
    cases isOpen <;> simp [folderTags]
  have hlabel : b.2 = label := by
    cases h
    rfl
  rw [folder?, hlabel, hname, ← h]
  cases isOpen <;> simp [htags]

/-- A link is not the beginning of a directory. -/
theorem folder?_of_fileTags (h : fileTags isActive url label = [a, b, c, d]) :
    folder? a b c d = none := by
  refine Option.eq_none_iff_forall_ne_some.mpr fun ⟨name, isOpen⟩ hfolder => ?_
  obtain ⟨other, -, htags⟩ := eq_of_folder? hfolder
  rw [← h] at htags
  simp [fileTags, folderTags] at htags

theorem file?_of_fileTags {path : Chars} (h : fileTags isActive url label = [a, b, c, d])
    (hurl : unescape url = "/view/" ++ path) :
    file? a b c d = some (unescape label, Url.decode path, isActive) := by
  have htags : ∀ other, fileTags isActive url label = fileTags other url label ↔
      isActive = other := by
    cases isActive <;> simp [fileTags]
  have hlabel : b.2 = label := by
    cases h
    rfl
  have hlink : b.1.references.head? = some url := by
    cases h
    rfl
  rw [file?, hlabel, hlink, ← h]
  simp only [Option.bind_eq_bind, Option.bind_some, hurl, Text.afterOpening?_append]
  cases isActive <;> simp [htags]

/-- The beginning of a directory is read as an entry, and what follows is in the directory. -/
theorem readEntries_folderTags (place : List Chars) (isOpen : Bool) (name : Chars)
    (rest : List Tag) :
    readEntries place (folderTags isOpen (escape name ++ "/") ++ rest) =
      (readEntries (place ++ [name]) rest).map (.folder (place ++ [name]) isOpen :: ·) :=
  readEntries_of_folder (by simp [folderEnd])
    (folder?_of_folderTags rfl (folderName?_escape name))

/-- A link is read as an entry. -/
theorem readEntries_fileTags (place : List Chars) (isActive : Bool) (path name : Chars)
    (rest : List Tag) :
    readEntries place (fileTags isActive ("/view/" ++ Url.encode path) (escape name) ++ rest) =
      (readEntries place rest).map (.file (place ++ [name]) path isActive :: ·) := by
  -- an encoded path has no ampersand, so it is in the page as it is
  have hurl : unescape ("/view/" ++ Url.encode path) = "/view/" ++ Url.encode path := by
    refine Html.unescape_of_not_mem ?_
    have hencoded : '&' ∉ Url.encode path :=
      Url.not_mem_of_isLinkChar (fun _ => Url.isLinkChar_of_mem_encode) (by decide)
    rw [List.mem_append, not_or]
    exact ⟨by decide, hencoded⟩
  have hfile {a b c d : Tag}
      (h : fileTags isActive ("/view/" ++ Url.encode path) (escape name) = [a, b, c, d]) :
      file? a b c d = some (name, path, isActive) := by
    rw [file?_of_fileTags h hurl, Html.unescape_escape, Url.decode_encode]
  exact readEntries_of_file (by simp [folderEnd]) (folder?_of_fileTags rfl) (hfile rfl)

/-! ## Texts that show entries -/

/-- Where the names `place` lead, the text shows the entries in some order, and it closes what it
    opens. -/
def Shows (place : List Chars) (text : Chars) (entries : List Entry) : Prop :=
  ∃ tags shown, tags? text = some tags ∧ shown.Perm entries ∧
    ∀ rest, readEntries place (tags ++ rest) = (readEntries place rest).map (shown ++ ·)

variable {text content : Chars} {shown more : List Entry}

theorem Shows.entries? (h : Shows [] text shown) :
    ∃ entries, Viewer.entries? text = some entries ∧ entries.Perm shown := by
  obtain ⟨tags, entries, htags, hperm, hread⟩ := h
  have hall := hread []
  rw [List.append_nil, readEntries, if_pos rfl, Option.map_some, List.append_nil] at hall
  exact ⟨entries, Option.bind_eq_some_iff.mpr ⟨tags, htags, hall⟩, hperm⟩

theorem shows_nil : Shows place [] [] := by
  refine ⟨[], [], rfl, List.Perm.refl [], fun rest => ?_⟩
  cases hrest : readEntries place rest <;> simp [hrest]

theorem Shows.append (h : Shows place text shown) (hcontent : Shows place content more) :
    Shows place (text ++ content) (shown ++ more) := by
  obtain ⟨tags, first, htags, hfirst, hread⟩ := h
  obtain ⟨others, second, hothers, hsecond, hbehind⟩ := hcontent
  refine ⟨tags ++ others, first ++ second, Html.tags?_append htags hothers, hfirst.append hsecond,
    fun rest => ?_⟩
  rw [List.append_assoc, hread, hbehind, Option.map_map]
  simp only [Function.comp_def, List.append_assoc]

theorem Shows.perm (h : Shows place text shown) (hperm : shown.Perm more) :
    Shows place text more := by
  obtain ⟨tags, first, htags, hfirst, hread⟩ := h
  exact ⟨tags, first, htags, hfirst.trans hperm, hread⟩

/-- Texts one after another show what each of them shows. -/
theorem shows_concatMap {α : Type} {f : α → Chars} {xs : List α} {entries : List (List Entry)}
    (h : List.Forall₂ (fun x entries => Shows place (f x) entries) xs entries) :
    Shows place (Text.concatMap f xs) entries.flatten := by
  induction h with
  | nil => exact shows_nil
  | cons hfirst _ ih => exact hfirst.append ih

/-- The order of the texts is the order of what they show. -/
theorem shows_concatMap_perm {α : Type} {f : α → Chars} {xs ys : List α}
    {entries : List (List Entry)} (hperm : ys.Perm xs)
    (h : List.Forall₂ (fun x entries => Shows place (f x) entries) xs entries) :
    Shows place (Text.concatMap f ys) entries.flatten := by
  obtain ⟨ordered, hordered, hentries⟩ := List.perm_comp_forall₂ hperm h
  exact (shows_concatMap hordered).perm hentries.flatten

/-- A link, as the elements that it is made of. -/
theorem fileLink_eq (directory current name : Chars) :
    fileLink directory current name =
      Html.openingText "div" [("class".toList,
          (if inDirectory directory name = current then "fm-file active" else "fm-file").toList)] ++
        (Html.openingText "a" [("href".toList,
            "/view/" ++ Url.encode (inDirectory directory name))] ++ escape name ++
          (Html.closingText "a" ++ Html.closingText "div")) := by
  unfold fileLink
  dsimp only
  generalize Url.encode (inDirectory directory name) = url
  generalize escape name = label
  simp only [Html.openingText, Html.closingText, Html.attributeText, Text.concatMap, List.map_cons,
    List.map_nil, List.flatten_cons, List.flatten_nil, List.append_assoc, List.cons_append,
    List.nil_append, List.append_nil]
  split_ifs
  · rfl
  · rfl

/-- A directory, as the elements that it is made of. The mark of an open one has no value. -/
theorem folderEntry_eq (isOpen : Bool) (name content : Chars) :
    folderEntry isOpen name content =
      tagText ("details class=\"fm-dir\"" ++ (if isOpen then " open".toList else [])) [] ++
        (Html.openingText "summary" [] ++ (escape name ++ "/") ++
          (Html.closingText "summary" ++
            (Html.openingText "div" [("class".toList, "fm-children".toList)] ++
              (content ++ (Html.closingText "div" ++ Html.closingText "details"))))) := by
  unfold folderEntry
  generalize escape name = label
  simp only [tagText, Html.openingText, Html.closingText, Html.attributeText, Text.concatMap,
    List.map_cons, List.map_nil, List.flatten_cons, List.flatten_nil, List.append_assoc,
    List.cons_append, List.nil_append, List.append_nil]
  rfl

theorem tags?_div {value : Chars} (h : Html.IsWritable ("class".toList, value)) :
    tags? (Html.openingText "div" [("class".toList, value)]) =
      some [(.opening "div" [("class".toList, some value)], [])] := by
  have hread := Html.tags?_openingText (show Html.isName "div" = true by decide)
    (List.forall_mem_singleton.mpr h) Html.isPlain_nil
  rwa [List.append_nil] at hread

/-- A link to a file shows the file, under its own name. -/
theorem shows_fileLink (place : List Chars) (directory current name : Chars) :
    Shows place (fileLink directory current name)
      [.file (place ++ [name]) (inDirectory directory name)
        (decide (inDirectory directory name = current))] := by
  generalize hpath : inDirectory directory name = path
  generalize hactive : decide (path = current) = isActive
  have htext := fileLink_eq directory current name
  have hclass : (if path = current then "fm-file active" else "fm-file").toList =
      (if isActive then "fm-file active" else "fm-file").toList := by
    simp only [← hactive, decide_eq_true_eq]
  rw [hpath, hclass] at htext
  -- the tags one by one, and then together
  have hdiv := tags?_div
    (show Html.IsWritable ("class".toList, (if isActive then "fm-file active" else "fm-file").toList)
      by cases isActive <;> decide)
  have hhref : Html.IsWritable ("href".toList, "/view/" ++ Url.encode path) := by
    have hencoded {c : Char} (hc : Url.isLinkChar c = false) : c ∉ Url.encode path :=
      Url.not_mem_of_isLinkChar (fun _ => Url.isLinkChar_of_mem_encode) hc
    simp only [Html.IsWritable, IsPlain, List.mem_append, not_or]
    exact ⟨by decide, ⟨⟨by decide, hencoded (by decide)⟩, by decide, hencoded (by decide)⟩,
      by decide, hencoded (by decide)⟩
  have hanchor := Html.tags?_openingText (show Html.isName "a" = true by decide)
    (List.forall_mem_singleton.mpr hhref) (Html.isPlain_escape name)
  have hclosing := Html.tags?_append
    (Html.tags?_closingText (show Html.isName "a" = true by decide))
    (Html.tags?_closingText (show Html.isName "div" = true by decide))
  have htags : tags? (fileLink directory current name) =
      some (fileTags isActive ("/view/" ++ Url.encode path) (escape name)) := by
    rw [htext]
    exact Html.tags?_append hdiv (Html.tags?_append hanchor hclosing)
  exact ⟨_, _, htags, List.Perm.refl _, readEntries_fileTags place isActive path name⟩

/-- A directory shows itself, and what is in it below its name. -/
theorem Shows.folderEntry (h : Shows (place ++ [name]) content shown) (isOpen : Bool) :
    Shows place (folderEntry isOpen name content) (.folder (place ++ [name]) isOpen :: shown) := by
  obtain ⟨inside, entries, hinside, hperm, hread⟩ := h
  have hdetails : tags?
      (tagText ("details class=\"fm-dir\"" ++ (if isOpen then " open".toList else [])) []) =
      some [(.opening "details" (("class".toList, some "fm-dir".toList) ::
        if isOpen then [("open".toList, none)] else []), [])] := by
    cases isOpen
    · exact Html.tags?_tagText (by decide) (by decide) Html.isPlain_nil
    · exact Html.tags?_tagText (by decide) (by decide) Html.isPlain_nil
  have hlabel : IsPlain (escape name ++ "/") :=
    (Html.isPlain_escape name).append (show IsPlain "/" by decide)
  have hsummary := Html.tags?_openingText (show Html.isName "summary" = true by decide)
    (List.forall_mem_nil Html.IsWritable) hlabel
  have hchildren := tags?_div
    (show Html.IsWritable ("class".toList, "fm-children".toList) by decide)
  have hclosing := Html.tags?_append
    (Html.tags?_closingText (show Html.isName "div" = true by decide))
    (Html.tags?_closingText (show Html.isName "details" = true by decide))
  have htags : tags? (Viewer.folderEntry isOpen name content) =
      some (folderTags isOpen (escape name ++ "/") ++ (inside ++ folderEnd)) := by
    have hbehind := Html.tags?_append hchildren (Html.tags?_append hinside hclosing)
    have hnamed := Html.tags?_append hsummary
      (Html.tags?_append (Html.tags?_closingText (show Html.isName "summary" = true by decide))
        hbehind)
    have hall := Html.tags?_append hdetails hnamed
    rw [← folderEntry_eq] at hall
    exact hall
  refine ⟨_, .folder (place ++ [name]) isOpen :: entries, htags, hperm.cons _, fun rest => ?_⟩
  -- the end of the directory leads back to where it began
  rw [List.append_assoc, readEntries_folderTags, List.append_assoc, hread, readEntries_folderEnd,
    Option.map_map]
  rfl

end ScriptReport.Viewer

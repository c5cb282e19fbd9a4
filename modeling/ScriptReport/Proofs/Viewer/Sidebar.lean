/-
  ScriptReport.Proofs.Viewer.Sidebar

  The paths in a tree of scripts, and the links that the tree is rendered as. Inserting a path adds
  that path and no other, so the tree of a directory holds just the paths that pass the test; and
  the links of the rendered tree are just those of its paths, whatever names they are labelled with.
  Main statements: `mem_paths_scriptTree`, `mem_hrefs_treeLinks`.
-/

import ScriptReport.Proofs.Files.PathText
import ScriptReport.Proofs.Html.Markup
import ScriptReport.Proofs.Success
import ScriptReport.Proofs.Url.PathLink
import ScriptReport.Viewer.Folder

namespace ScriptReport.Viewer

open ScriptReport.Html (escape isPlain_escape)
open ScriptReport.Path (IsPart IsPiece)

/-! ## Paths of a tree -/

mutual

/-- The paths of the files in a tree. -/
def Folder.paths : Folder → List (List Chars)
  | .mk files folders => files.map ([·]) ++ folders.paths

/-- The paths of the files in named directories. -/
def Folders.paths : Folders → List (List Chars)
  | .nil => []
  | .cons name folder rest => folder.paths.map (name :: ·) ++ rest.paths

end

variable {folder : Folder} {folders : Folders} {parts path : List Chars} {name : Chars}

/-- A change that adds a path to a directory adds it below the name of the directory, whether the
    directory was there or not. -/
theorem paths_change_perm {f : Folder → Folder} {below : List Chars}
    (hf : ∀ folder, (f folder).paths.Perm (below :: folder.paths)) :
    (folders : Folders) → (folders.change name f).paths.Perm ((name :: below) :: folders.paths)
  | .nil => by
    -- the directory is new, and has nothing but the path
    have hadded := (hf Folder.empty).map (name :: ·)
    rw [Folders.change, Folders.paths]
    exact hadded.append_right Folders.nil.paths
  | .cons other folder rest => by
    rw [Folders.change]
    -- the first directory of the name is changed, and none behind it
    split_ifs with hname
    · subst hname
      exact ((hf folder).map (other :: ·)).append_right rest.paths
    · have hrest := (paths_change_perm hf rest).append_left (folder.paths.map (other :: ·))
      exact hrest.trans List.perm_middle

/-- Inserting a path adds the path and no other. -/
theorem paths_insert_perm (hne : parts ≠ []) (folder : Folder) :
    (folder.insert parts).paths.Perm (parts :: folder.paths) := by
  induction parts generalizing folder with
  | nil => exact absurd rfl hne
  | cons part rest ih =>
    obtain ⟨files, folders⟩ := folder
    cases rest with
    | nil =>
      rw [Folder.insert, Folder.paths, List.map_append, List.append_assoc]
      exact List.perm_middle
    | cons next rest =>
      have hbelow : (folders.change part (Folder.insert (next :: rest))).paths.Perm _ :=
        paths_change_perm (ih (List.cons_ne_nil next rest)) folders
      rw [Folder.insert, Folder.paths]
      exact (hbelow.append_left _).trans List.perm_middle

/-- The tree of some paths has these paths, each as often as it is among them. -/
theorem paths_ofPaths_perm {paths : List (List Chars)} (hne : ∀ parts ∈ paths, parts ≠ []) :
    (Folder.ofPaths paths).paths.Perm paths := by
  -- the tree is built from the front, so the induction is over what is in it already
  have hfold : ∀ folder : Folder,
      (paths.foldl (fun folder parts => folder.insert parts) folder).paths.Perm
        (paths ++ folder.paths) := by
    induction paths with
    | nil => exact fun folder => List.Perm.refl _
    | cons parts paths ih =>
      obtain ⟨hparts, hpaths⟩ := List.forall_mem_cons.mp hne
      intro folder
      have hinsert := (paths_insert_perm hparts folder).append_left paths
      exact ((ih hpaths _).trans hinsert).trans List.perm_middle
  have hall := hfold Folder.empty
  rwa [show Folder.empty.paths = [] from rfl, List.append_nil] at hall

theorem mem_paths_ofPaths {paths : List (List Chars)} (hne : ∀ parts ∈ paths, parts ≠ []) :
    path ∈ (Folder.ofPaths paths).paths ↔ path ∈ paths :=
  (paths_ofPaths_perm hne).mem_iff

/-! ## Scripts of a directory -/

theorem mem_keep {α ε : Type} {test : α → Except ε Bool} {xs kept : List α} {x : α}
    (h : keep test xs = .ok kept) : x ∈ kept ↔ x ∈ xs ∧ test x = .ok true := by
  induction xs generalizing kept with
  | nil =>
    rw [keep] at h
    cases h
    simp
  | cons y rest ih =>
    simp only [keep, bind_eq_ok_iff, pure_eq_ok_iff] at h
    obtain ⟨passes, htest, others, hothers, rfl⟩ := h
    have hrest := ih hothers
    cases passes with
    | true =>
      simp only [if_true, List.mem_cons, hrest]
      constructor
      · rintro (rfl | ⟨hmem, hx⟩)
        · exact ⟨.inl rfl, htest⟩
        · exact ⟨.inr hmem, hx⟩
      · rintro ⟨rfl | hmem, hx⟩
        · exact .inl rfl
        · exact .inr ⟨hmem, hx⟩
    | false =>
      simp only [Bool.false_eq_true, if_false, List.mem_cons, hrest]
      constructor
      · rintro ⟨hmem, hx⟩
        exact ⟨.inr hmem, hx⟩
      · rintro ⟨rfl | hmem, hx⟩
        · rw [htest] at hx
          cases hx
        · exact ⟨hmem, hx⟩

theorem mem_below {tree : FileTree} {place : Place} :
    parts ∈ below tree place ↔ parts ≠ [] ∧ ∃ node, (place ++ parts, node) ∈ tree.entries := by
  simp only [below, List.mem_mergeSort, List.mem_filterMap, Bool.and_eq_true,
    List.isPrefixOf_iff_prefix, decide_eq_true_eq]
  constructor
  · rintro ⟨⟨there, node⟩, hentry, hparts⟩
    split_ifs at hparts with h
    obtain ⟨⟨rest, rfl⟩, hplace⟩ := h
    rw [List.drop_left, Option.some.injEq] at hparts
    subst hparts
    refine ⟨?_, node, hentry⟩
    rintro rfl
    exact hplace (List.append_nil place)
  · rintro ⟨hne, node, hentry⟩
    refine ⟨_, hentry, ?_⟩
    rw [if_pos ⟨List.prefix_append _ _, by simpa using hne⟩, List.drop_left]

/-- The tree of a directory holds the paths below the directory that pass the test. -/
theorem mem_paths_scriptTree {disk : Disk} {directory : Path} {suffixes : List Chars}
    (h : scriptTree disk directory suffixes = .ok folder) :
    path ∈ folder.paths ↔ disk.hasDirectory directory = .ok true ∧
      ∃ place, disk.locate true directory = .ok place ∧ path ∈ below disk.tree place ∧
        isScript disk directory suffixes path = .ok true := by
  rw [scriptTree, bind_eq_ok_iff] at h
  obtain ⟨isDirectory, hdirectory, h⟩ := h
  have hempty : path ∉ Folder.empty.paths := List.not_mem_nil
  cases isDirectory with
  | false =>
    cases pure_eq_ok_iff.mp h
    refine ⟨fun hmem => absurd hmem hempty, ?_⟩
    rintro ⟨hhas, -⟩
    rw [hdirectory] at hhas
    cases hhas
  | true =>
    simp only [Bool.not_true, Bool.false_eq_true, if_false] at h
    cases hplace : disk.locate true directory with
    | error cause =>
      rw [hplace] at h
      cases pure_eq_ok_iff.mp h
      refine ⟨fun hmem => absurd hmem hempty, ?_⟩
      rintro ⟨-, place, hthere, -⟩
      cases hthere
    | ok place =>
      rw [hplace] at h
      simp only [bind_eq_ok_iff, pure_eq_ok_iff] at h
      obtain ⟨kept, hkept, rfl⟩ := h
      have hkeep : ∀ parts, parts ∈ kept ↔ _ := fun parts => mem_keep hkept
      have hne : ∀ parts ∈ kept, parts ≠ [] := fun parts hmem =>
        (mem_below.mp ((hkeep parts).mp hmem).1).1
      rw [mem_paths_ofPaths hne, hkeep]
      simp only [hdirectory, Except.ok.injEq, true_and, exists_eq_left']

/-! ## Links in a text -/

/-- What an anchor links to, seen from what stands between its angle bracket and the next one. -/
def href? (piece : Chars) : Option Chars :=
  (Text.afterOpening? "a href=\"" piece).map (·.takeWhile (· ≠ '"'))

/-- What the anchors in a text link to, in order. -/
def hrefs (text : Chars) : List Chars := (Text.splitOn "<" text).tail.filterMap href?

variable {front text : Chars}

@[simp] theorem hrefs_nil : hrefs [] = [] := rfl

theorem hrefs_append_cons (front text : Chars) :
    hrefs (front ++ '<' :: text) = hrefs front ++ hrefs ('<' :: text) := by
  have hpieces (a : Chars) : Text.splitOn ['<'] (a ++ '<' :: text) =
      Text.splitOn ['<'] a ++ Text.splitOn ['<'] text := Text.splitOn_append '<' a text
  have hfront := Text.splitOn_ne_nil ['<'] front
  rw [hrefs, hrefs, hrefs, show ("<" : Chars) = ['<'] from rfl, hpieces,
    List.tail_append_of_ne_nil hfront, List.filterMap_append, ← List.nil_append ('<' :: text),
    hpieces]
  rfl

/-- The text is empty or begins with an element. -/
def IsMarkup (text : Chars) : Prop := text = [] ∨ ∃ rest, text = '<' :: rest

theorem hrefs_append (front : Chars) (h : IsMarkup text) :
    hrefs (front ++ text) = hrefs front ++ hrefs text := by
  rcases h with rfl | ⟨rest, rfl⟩
  · rw [List.append_nil, hrefs_nil, List.append_nil]
  · exact hrefs_append_cons front rest

/-- A tag has the link that it has as a piece. -/
theorem hrefs_tag {piece : Chars} (h : '<' ∉ piece) :
    hrefs ('<' :: piece) = (href? piece).toList := by
  have hpieces : Text.splitOn ['<'] ('<' :: piece) = [] :: Text.splitOn ['<'] piece :=
    Text.splitOn_append '<' [] piece
  rw [hrefs, show ("<" : Chars) = ['<'] from rfl, hpieces, Text.splitOn_of_not_mem h]
  cases hhref : href? piece <;> simp [hhref]

theorem IsMarkup.append (hfront : IsMarkup front) (htext : IsMarkup text) :
    IsMarkup (front ++ text) := by
  rcases hfront with rfl | ⟨rest, rfl⟩
  · exact htext
  · exact .inr ⟨rest ++ text, rfl⟩

theorem hrefs_tag_append {piece : Chars} (h : '<' ∉ piece) (htext : IsMarkup text) :
    hrefs ('<' :: (piece ++ text)) = (href? piece).toList ++ hrefs text := by
  rw [← List.cons_append, hrefs_append _ htext, hrefs_tag h]

/-- An anchor links to what stands between its quotes. -/
theorem href?_anchor {url : Chars} (h : '"' ∉ url) (label : Chars) :
    href? ("a href=\"" ++ (url ++ '"' :: label)) = some url := by
  rw [href?, Text.afterOpening?_append, Option.map_some]
  refine congrArg some (Text.takeWhile_append_of_head? (fun c hc => ?_) fun next hnext => ?_)
  · refine decide_eq_true fun hquote => h ?_
    rwa [← hquote]
  · cases hnext
    rfl

/-- Members one after another have the links of each. -/
theorem isMarkup_concatMap {α : Type} {f : α → Chars} {xs : List α} (hf : ∀ x ∈ xs, IsMarkup (f x)) :
    IsMarkup (Text.concatMap f xs) := by
  induction xs with
  | nil => exact .inl rfl
  | cons x xs ih =>
    obtain ⟨hx, hxs⟩ := List.forall_mem_cons.mp hf
    exact hx.append (ih hxs)

theorem mem_hrefs_concatMap {α : Type} {f : α → Chars} {xs : List α}
    (hf : ∀ x ∈ xs, IsMarkup (f x)) {url : Chars} :
    url ∈ hrefs (Text.concatMap f xs) ↔ ∃ x ∈ xs, url ∈ hrefs (f x) := by
  induction xs with
  | nil => simp [Text.concatMap]
  | cons x xs ih =>
    obtain ⟨-, hxs⟩ := List.forall_mem_cons.mp hf
    have hcons : Text.concatMap f (x :: xs) = f x ++ Text.concatMap f xs := rfl
    rw [hcons, hrefs_append _ (isMarkup_concatMap hxs), List.mem_append, ih hxs,
      List.exists_mem_cons_iff]

/-! ## Links of a tree -/

/-- The link to the script at a path. -/
def linkTo (parts : List Chars) : Chars := "/view/" ++ Url.encode (Text.join "/" parts)

/-- Text that does not begin and does not end with a character is not trimmed of it. -/
theorem trimOf_eq_self {c : Char} (hfront : text.head? ≠ some c) (hback : text.getLast? ≠ some c) :
    Text.trimOf c text = text := by
  have hkept {text : Chars} (h : text.head? ≠ some c) : text.dropWhile (· == c) = text := by
    cases text with
    | nil => rfl
    | cons x rest =>
      refine List.dropWhile_cons_of_neg fun hx => h ?_
      rw [List.head?_cons, eq_of_beq hx]
  rw [Text.trimOf, hkept hfront, Text.dropEndWhile, hkept, List.reverse_reverse]
  rwa [List.head?_reverse]

/-- In a directory whose path is put together from parts, a name is one more part. -/
theorem inDirectory_join {parts : List Chars} (hparts : ∀ part ∈ parts, IsPiece part)
    (hname : IsPiece name) :
    inDirectory (Text.join "/" parts) name = Text.join "/" (parts ++ [name]) := by
  have hall : ∀ part ∈ parts ++ [name], IsPiece part := by
    intro part hmem
    rcases List.mem_append.mp hmem with hmem | hmem
    · exact hparts part hmem
    · rwa [List.mem_singleton.mp hmem]
  have hback (front : Chars) : (front ++ name).getLast? ≠ some '/' := by
    obtain ⟨init, last, rfl⟩ := (List.eq_nil_or_concat' name).resolve_left hname.ne_nil
    rw [← List.append_assoc, List.getLast?_concat]
    intro hlast
    rw [Option.some.inj hlast] at hname
    exact hname.no_slash (List.mem_append_right init List.mem_cons_self)
  cases parts with
  | nil =>
    have hfront : name.head? ≠ some '/' := Path.head?_join_of_isPiece hall
    have hslash : Text.trimOf '/' ('/' :: name) = Text.trimOf '/' name := rfl
    rw [inDirectory, Text.join_nil, List.nil_append, List.nil_append, hslash]
    exact trimOf_eq_self hfront (hback [])
  | cons part rest =>
    have hjoin : Text.join "/" (part :: rest) ++ '/' :: name =
        Text.join "/" (part :: rest ++ [name]) := by
      rw [Text.join_concat (List.cons_ne_nil part rest), List.append_assoc]
      rfl
    have hends := Path.head?_join_of_isPiece hall
    rw [← hjoin] at hends
    rw [inDirectory, ← hjoin]
    refine trimOf_eq_self hends ?_
    rw [List.append_cons]
    exact hback _

/-- A file has one link. -/
theorem hrefs_fileLink (directory current name : Chars) :
    hrefs (fileLink directory current name) =
      ["/view/" ++ Url.encode (inDirectory directory name)] := by
  generalize hpath : Url.encode (inDirectory directory name) = path
  generalize hactive :
    (if inDirectory directory name = current then " active".toList else []) = active
  -- the text from each angle bracket to the next
  have htext : fileLink directory current name =
      '<' :: (("div class=\"fm-file" ++ active ++ "\">") ++
        '<' :: (("a href=\"" ++ (("/view/" ++ path) ++ '"' :: '>' :: escape name)) ++
          '<' :: ("/a>" ++ '<' :: "/div>".toList))) := by
    have hfront : ("<div class=\"fm-file" : Chars) = '<' :: "div class=\"fm-file".toList := rfl
    have hgap : ("\"><a href=\"/view/" : Chars) = "\">" ++ '<' :: ("a href=\"" ++ "/view/") := rfl
    have hquote : ("\">" : Chars) ++ escape name = '"' :: '>' :: escape name := rfl
    have hend : ("</a></div>" : Chars) = '<' :: ("/a>" ++ '<' :: "/div>".toList) := rfl
    unfold fileLink
    simp only [hpath, hactive, hfront, hgap, hend, ← hquote, List.append_assoc, List.cons_append]
  have hplain : '<' ∉ ("div class=\"fm-file" : Chars) ++ active ++ "\">" := by
    subst hactive
    split_ifs <;> decide
  have hencoded {c : Char} (hc : Url.isLinkChar c = false) : c ∉ path :=
    hpath ▸ Url.not_mem_of_isLinkChar (fun _ => Url.isLinkChar_of_mem_encode) hc
  have hanchor : '<' ∉
      ("a href=\"" : Chars) ++ (("/view/" ++ path) ++ '"' :: '>' :: escape name) := by
    have hlabel : '<' ∉ escape name := (isPlain_escape name).1
    simp only [List.mem_append, List.mem_cons, not_or]
    exact ⟨by decide, ⟨by decide, hencoded (by decide)⟩, by decide, by decide, hlabel⟩
  have hquote : '"' ∉ ("/view/" : Chars) ++ path := by
    rw [List.mem_append, not_or]
    exact ⟨by decide, hencoded (by decide)⟩
  have hother : href? (("div class=\"fm-file" : Chars) ++ active ++ "\">") = none := rfl
  rw [htext, hrefs_tag_append hplain (.inr ⟨_, rfl⟩), hrefs_tag_append hanchor (.inr ⟨_, rfl⟩),
    hother, href?_anchor hquote]
  rfl

/-- A directory has the links of its content. -/
theorem hrefs_folderEntry {content : Chars} (isOpen : Bool) (name : Chars)
    (hcontent : IsMarkup content) :
    hrefs (folderEntry isOpen name content) = hrefs content := by
  generalize hopen : (if isOpen then " open".toList else []) = mark
  have htext : folderEntry isOpen name content =
      '<' :: (("details class=\"fm-dir\"" ++ mark ++ ">") ++
        '<' :: (("summary>" ++ escape name ++ "/") ++ '<' :: ("/summary>" ++
          '<' :: ("div class=\"fm-children\">" ++ (content ++
            '<' :: ("/div>" ++ '<' :: "/details>".toList)))))) := by
    have hfront : ("<details class=\"fm-dir\"" : Chars) =
      '<' :: "details class=\"fm-dir\"".toList := rfl
    have hgap : ("><summary>" : Chars) = ">" ++ '<' :: "summary>".toList := rfl
    have hmiddle : ("/</summary><div class=\"fm-children\">" : Chars) =
      "/" ++ '<' :: ("/summary>" ++ '<' :: "div class=\"fm-children\">".toList) := rfl
    have hend : ("</div></details>" : Chars) = '<' :: ("/div>" ++ '<' :: "/details>".toList) := rfl
    unfold folderEntry
    simp only [hopen, hfront, hgap, hmiddle, hend, List.append_assoc, List.cons_append]
  have hopening : '<' ∉ ("details class=\"fm-dir\"" : Chars) ++ mark ++ ">" := by
    subst hopen
    split_ifs <;> decide
  have hsummary : '<' ∉ ("summary>" : Chars) ++ escape name ++ "/" := by
    simp only [List.mem_append, not_or]
    exact ⟨⟨by decide, (isPlain_escape name).1⟩, by decide⟩
  have hclosing : hrefs ('<' :: ("/div>" ++ '<' :: "/details>".toList)) = [] := by decide
  have hmarkup : IsMarkup (content ++ '<' :: ("/div>" ++ '<' :: "/details>".toList)) :=
    hcontent.append (.inr ⟨_, rfl⟩)
  rw [htext, hrefs_tag_append hopening (.inr ⟨_, rfl⟩), hrefs_tag_append hsummary (.inr ⟨_, rfl⟩),
    hrefs_tag_append (by decide) (.inr ⟨_, rfl⟩), hrefs_tag_append (by decide) hmarkup,
    hrefs_append_cons, hclosing, List.append_nil]
  rfl

variable {openDirs : List Chars} {current directory url : Chars}

theorem isMarkup_entry : {folders : Folders} →
    ∀ entry ∈ folders.render openDirs current directory, IsMarkup entry.2
  | .nil, _, h => absurd h List.not_mem_nil
  | .cons _ _ _, entry, h => by
    rw [Folders.render] at h
    rcases List.mem_cons.mp h with rfl | h
    · exact .inr ⟨_, rfl⟩
    · exact isMarkup_entry entry h

theorem mem_hrefs_mk {files : List Chars} (url : Chars) :
    IsMarkup ((Folder.mk files folders).render openDirs current directory) ∧
    (url ∈ hrefs ((Folder.mk files folders).render openDirs current directory) ↔
      (∃ entry ∈ folders.render openDirs current directory, url ∈ hrefs entry.2) ∨
        ∃ name ∈ files, url = "/view/" ++ Url.encode (inDirectory directory name)) := by
  have hdirs : ∀ entry ∈ (folders.render openDirs current directory).mergeSort nameLe,
      IsMarkup entry.2 := fun entry hentry => isMarkup_entry entry (List.mem_mergeSort.mp hentry)
  have hfiles : ∀ name ∈ Text.sort files, IsMarkup (fileLink directory current name) :=
    fun _ _ => .inr ⟨_, rfl⟩
  have hmarkup := isMarkup_concatMap hfiles
  rw [Folder.render]
  refine ⟨(isMarkup_concatMap hdirs).append hmarkup, ?_⟩
  -- sorting changes the order of the links and not which ones there are
  rw [hrefs_append _ hmarkup, List.mem_append, mem_hrefs_concatMap hdirs, mem_hrefs_concatMap hfiles]
  simp only [Text.sort, List.mem_mergeSort, hrefs_fileLink, List.mem_singleton]

theorem isMarkup_render (folder : Folder) : IsMarkup (folder.render openDirs current directory) := by
  obtain ⟨files, folders⟩ := folder
  exact (mem_hrefs_mk []).1

theorem exists_mem_paths_mk {files : List Chars} {p : List Chars → Prop} :
    (∃ parts ∈ (Folder.mk files folders).paths, p parts) ↔
      (∃ parts ∈ folders.paths, p parts) ∨ ∃ name ∈ files, p [name] := by
  simp only [Folder.paths, List.mem_append, List.mem_map, or_and_right, exists_or,
    exists_exists_and_eq_and]
  exact or_comm

theorem exists_mem_paths_cons {rest : Folders} {p : List Chars → Prop} :
    (∃ parts ∈ (Folders.cons name folder rest).paths, p parts) ↔
      (∃ parts ∈ folder.paths, p (name :: parts)) ∨ ∃ parts ∈ rest.paths, p parts := by
  simp only [Folders.paths, List.mem_append, List.mem_map, or_and_right, exists_or,
    exists_exists_and_eq_and]

mutual

/-- The links of a rendered tree are those of its paths, seen from where the tree stands. -/
theorem mem_hrefs_folder : (folder : Folder) → (directory : Chars) →
    (url ∈ hrefs (folder.render openDirs current directory) ↔
      ∃ parts ∈ folder.paths, url = "/view/" ++ Url.encode (parts.foldl inDirectory directory))
  | .mk files folders, directory => by
    rw [(mem_hrefs_mk url).2, mem_hrefs_folders folders directory, exists_mem_paths_mk]
    rfl

/-- The same for named directories. -/
theorem mem_hrefs_folders : (folders : Folders) → (directory : Chars) →
    ((∃ entry ∈ folders.render openDirs current directory, url ∈ hrefs entry.2) ↔
      ∃ parts ∈ folders.paths, url = "/view/" ++ Url.encode (parts.foldl inDirectory directory))
  | .nil, directory => by
    simp only [Folders.render, Folders.paths, List.not_mem_nil, false_and, exists_false]
  | .cons name folder rest, directory => by
    have hfolder := mem_hrefs_folder folder (inDirectory directory name)
    have hrest := mem_hrefs_folders rest directory
    rw [Folders.render, List.exists_mem_cons_iff, hrefs_folderEntry _ _ (isMarkup_render folder),
      hfolder, hrest, exists_mem_paths_cons]
    rfl

end

/-- From the top, the parts of a path are put together with slashes. -/
theorem foldl_inDirectory (front : List Chars) {parts : List Chars}
    (hparts : ∀ part ∈ front ++ parts, IsPiece part) :
    parts.foldl inDirectory (Text.join "/" front) = Text.join "/" (front ++ parts) := by
  induction parts generalizing front with
  | nil => rw [List.foldl_nil, List.append_nil]
  | cons part rest ih =>
    have hfront : ∀ other ∈ front, IsPiece other := fun other hmem =>
      hparts other (List.mem_append_left _ hmem)
    have hpart := hparts part (List.mem_append_right _ List.mem_cons_self)
    rw [List.append_cons] at hparts ⊢
    rw [List.foldl_cons, inDirectory_join hfront hpart, ih _ hparts]

/-- The links of a rendered tree are those of its paths, whatever script is shown. -/
theorem mem_hrefs_treeLinks (hparts : ∀ parts ∈ folder.paths, ∀ part ∈ parts, IsPart part)
    (current url : Chars) :
    url ∈ hrefs (treeLinks folder current) ↔ ∃ parts ∈ folder.paths, url = linkTo parts := by
  rw [treeLinks, mem_hrefs_folder]
  refine exists_congr fun parts => and_congr_right fun hmem => ?_
  have hjoin : parts.foldl inDirectory [] = Text.join "/" parts :=
    foldl_inDirectory [] fun part hpart => (hparts parts hmem part hpart).isPiece
  rw [hjoin]
  exact Iff.rfl

end ScriptReport.Viewer

/-
  ScriptReport.Proofs.Viewer.TreeListing

  What the rendered tree of some paths reads as: one link for each path, and one entry for each
  directory on the way to a path. Rendering goes down the tree with the text of the directory, and
  the reader with its names; the two agree since names hold no slash. Main statement:
  `isListOf_treeLinks`.
-/

import ScriptReport.Proofs.Viewer.Listing
import Mathlib.Data.List.Perm.Basic

namespace ScriptReport.Viewer

open ScriptReport.Html (markup? nest)
open ScriptReport.Path (IsPiece)

/-! ## Directories on the way -/

/-- The directory is on the way to the path, below the top. -/
def IsAncestor (directory path : List Chars) : Prop :=
  directory ≠ [] ∧ directory <+: path ∧ directory ≠ path

instance (directory path : List Chars) : Decidable (IsAncestor directory path) :=
  inferInstanceAs (Decidable (_ ∧ _ ∧ _))

/-- The names can be names of entries of a directory. -/
abbrev ArePieces (parts : List Chars) : Prop := ∀ part ∈ parts, IsPiece part

variable {directory path current place parts : List Chars} {name part : Chars}

theorem arePieces_concat (hplace : ArePieces place) (hname : IsPiece name) :
    ArePieces (place ++ [name]) := by
  intro part hmem
  rcases List.mem_append.mp hmem with hmem | hmem
  · exact hplace part hmem
  · rwa [List.mem_singleton.mp hmem]

theorem not_isAncestor_singleton : ¬ IsAncestor directory [part] := by
  rintro ⟨hne, hbegins, hproper⟩
  have hlength := List.length_pos_iff.mpr hne
  exact hproper (hbegins.eq_of_length_le hlength)

theorem isAncestor_cons_cons {next : Chars} {rest : List Chars} :
    IsAncestor directory (part :: next :: rest) ↔
      directory = [part] ∨ ∃ inner, IsAncestor inner (next :: rest) ∧ directory = part :: inner := by
  constructor
  · rintro ⟨hne, hbegins, hproper⟩
    obtain ⟨first, inner, rfl⟩ := List.exists_cons_of_ne_nil hne
    obtain ⟨rfl, hinner⟩ := List.cons_prefix_cons.mp hbegins
    by_cases hnil : inner = []
    · exact .inl (by rw [hnil])
    · exact .inr ⟨inner, ⟨hnil, hinner, fun heq => hproper (heq ▸ rfl)⟩, rfl⟩
  · rintro (rfl | ⟨inner, ⟨-, hinner, hproper⟩, rfl⟩)
    · exact ⟨List.cons_ne_nil _ _, ⟨next :: rest, rfl⟩, by simp⟩
    · refine ⟨List.cons_ne_nil _ _, List.cons_prefix_cons.mpr ⟨rfl, hinner⟩, fun heq => ?_⟩
      exact hproper (List.cons.inj heq).2

/-- The directories that are open are those on the way to the path that is shown. -/
theorem mem_ancestors_join (hdirectory : ArePieces directory) (hcurrent : ArePieces current) :
    Text.join "/" directory ∈ ancestors (Text.join "/" current) ↔
      IsAncestor directory current := by
  have hlast (n : Nat) :
      current.dropLast.take n = current.take (min n (current.length - 1)) := by
    rw [List.dropLast_eq_take, List.take_take]
  simp only [ancestors, Path.pieces_of_join hcurrent, List.mem_map, List.mem_range,
    List.length_dropLast, hlast]
  constructor
  · -- names without slashes can be told from what they are joined to
    rintro ⟨n, hn, hjoin⟩
    have htake : current.take (min (n + 1) (current.length - 1)) = directory :=
      Path.join_injective (fun part hmem => hcurrent part (List.mem_of_mem_take hmem)) hdirectory
        hjoin
    have hlength : directory.length = n + 1 := by
      rw [← htake, List.length_take]
      omega
    refine ⟨List.length_pos_iff.mp (by omega), htake ▸ List.take_prefix _ _, ?_⟩
    rintro rfl
    omega
  · rintro ⟨hne, hbegins, hproper⟩
    have hpos := List.length_pos_iff.mpr hne
    have hshort : directory.length < current.length :=
      Nat.lt_of_le_of_ne hbegins.length_le fun heq => hproper (hbegins.eq_of_length heq)
    refine ⟨directory.length - 1, by omega, congrArg _ ?_⟩
    have hmin : min (directory.length - 1 + 1) (current.length - 1) = directory.length := by omega
    rw [hmin]
    exact (List.prefix_iff_eq_take.mp hbegins).symm

/-! ## Directories of a tree -/

mutual

/-- The directories in a tree. -/
def Folder.directories : Folder → List (List Chars)
  | .mk _ folders => folders.directories

/-- Named directories, each with the directories in it. -/
def Folders.directories : Folders → List (List Chars)
  | .nil => []
  | .cons name folder rest =>
    [name] :: (folder.directories.map (name :: ·) ++ rest.directories)

end

variable {folder : Folder} {folders : Folders}

theorem mem_directories_cons {rest : Folders} :
    directory ∈ (Folders.cons name folder rest).directories ↔
      directory = [name] ∨ (∃ inner ∈ folder.directories, directory = name :: inner) ∨
        directory ∈ rest.directories := by
  simp only [Folders.directories, List.mem_cons, List.mem_append, List.mem_map, eq_comm]

/-- With a directory, the one that it is in is there. -/
theorem singleton_mem_directories : {folders : Folders} →
    (name :: directory) ∈ folders.directories → [name] ∈ folders.directories
  | .nil, h => absurd h List.not_mem_nil
  | .cons other folder rest, h => by
    rw [mem_directories_cons] at h ⊢
    rcases h with h | ⟨inner, -, h⟩ | h
    · exact .inl (by rw [(List.cons.inj h).1])
    · exact .inl (by rw [(List.cons.inj h).1])
    · exact .inr (.inr (singleton_mem_directories h))

/-- A change in a directory that adds some directories adds them below its name, and the
    directory itself. -/
theorem mem_directories_change {f : Folder → Folder} {p : List Chars → Prop}
    (hf : ∀ folder inner, inner ∈ (f folder).directories ↔ inner ∈ folder.directories ∨ p inner) :
    (folders : Folders) → ∀ directory,
      directory ∈ (folders.change name f).directories ↔ directory ∈ folders.directories ∨
        directory = [name] ∨ ∃ inner, p inner ∧ directory = name :: inner
  | .nil, directory => by
    have hempty : Folder.empty.directories = [] := rfl
    have hnil : Folders.nil.directories = [] := rfl
    rw [Folders.change, mem_directories_cons]
    simp only [hf, hempty, hnil, List.not_mem_nil, false_or, or_false]
  | .cons other folder rest, directory => by
    rw [Folders.change]
    split_ifs with hname
    · subst hname
      simp only [mem_directories_cons, hf, or_and_right, exists_or]
      grind only
    · rw [mem_directories_cons, mem_directories_cons, mem_directories_change hf rest directory]
      grind only

theorem mem_directories_insert (folder : Folder) (directory : List Chars) :
    directory ∈ (folder.insert parts).directories ↔
      directory ∈ folder.directories ∨ IsAncestor directory parts := by
  induction parts generalizing folder directory with
  | nil =>
    have hnone : ¬ IsAncestor directory [] := fun h => h.1 (List.prefix_nil.mp h.2.1)
    rw [Folder.insert, or_iff_left hnone]
  | cons part rest ih =>
    obtain ⟨files, folders⟩ := folder
    cases rest with
    | nil => exact (or_iff_left not_isAncestor_singleton).symm
    | cons next rest =>
      rw [isAncestor_cons_cons]
      exact mem_directories_change ih folders directory

theorem ne_nil_of_mem_directories : {folders : Folders} →
    directory ∈ folders.directories → directory ≠ []
  | .nil, h => absurd h List.not_mem_nil
  | .cons name folder rest, h => by
    rcases mem_directories_cons.mp h with rfl | ⟨inner, -, rfl⟩ | h
    · exact List.cons_ne_nil name []
    · exact List.cons_ne_nil name inner
    · exact ne_nil_of_mem_directories h

/-- Directories are there once if no two of a directory have one name. -/
theorem nodup_directories_cons {rest : Folders} :
    (Folders.cons name folder rest).directories.Nodup ↔
      [name] ∉ rest.directories ∧ folder.directories.Nodup ∧ rest.directories.Nodup := by
  obtain ⟨files, folders⟩ := folder
  have hself : [name] ∉ folders.directories.map (name :: ·) := by
    intro h
    obtain ⟨inner, hinner, heq⟩ := List.mem_map.mp h
    exact ne_nil_of_mem_directories hinner (List.cons.inj heq).2
  have hmap : (folders.directories.map (name :: ·)).Nodup ↔ folders.directories.Nodup :=
    List.nodup_map_iff (List.cons_injective)
  -- the directory itself, those in it and those behind it have to be apart
  rw [Folders.directories, Folder.directories, List.nodup_cons, List.mem_append, not_or,
    List.nodup_append, hmap]
  constructor
  · rintro ⟨⟨-, hrest⟩, hfolder, hothers, -⟩
    exact ⟨hrest, hfolder, hothers⟩
  · rintro ⟨hrest, hfolder, hothers⟩
    refine ⟨⟨hself, hrest⟩, hfolder, hothers, ?_⟩
    rintro directory hinner _ hother rfl
    obtain ⟨inner, -, rfl⟩ := List.mem_map.mp hinner
    exact hrest (singleton_mem_directories hother)

/-- Directories stay there once, if a change keeps them so in each directory. -/
theorem nodup_directories_change {f : Folder → Folder} {p : List Chars → Prop}
    (hf : ∀ folder inner, inner ∈ (f folder).directories ↔ inner ∈ folder.directories ∨ p inner)
    (hkept : ∀ folder : Folder, folder.directories.Nodup → (f folder).directories.Nodup) :
    {folders : Folders} → folders.directories.Nodup → (folders.change name f).directories.Nodup
  | .nil, h => by
    rw [Folders.change, nodup_directories_cons]
    exact ⟨List.not_mem_nil, hkept _ List.nodup_nil, h⟩
  | .cons other folder rest, h => by
    obtain ⟨hother, hfolder, hrest⟩ := nodup_directories_cons.mp h
    rw [Folders.change]
    split_ifs with hname
    · exact nodup_directories_cons.mpr ⟨hother, hkept folder hfolder, hrest⟩
    · refine nodup_directories_cons.mpr ⟨?_, hfolder, nodup_directories_change hf hkept hrest⟩
      -- the other name is not the one that is added
      rw [mem_directories_change hf]
      rintro (hmem | heq | ⟨inner, -, heq⟩)
      · exact hother hmem
      · exact hname (List.cons.inj heq).1
      · exact hname (List.cons.inj heq).1

theorem nodup_directories_insert (h : folder.directories.Nodup) :
    (folder.insert parts).directories.Nodup := by
  induction parts generalizing folder with
  | nil => exact h
  | cons part rest ih =>
    obtain ⟨files, folders⟩ := folder
    cases rest with
    | nil => exact h
    | cons next rest => exact nodup_directories_change mem_directories_insert (fun _ => ih) h

/-- The tree of some paths has each directory on the way to one of them, once. -/
theorem directories_ofPaths (paths : List (List Chars)) :
    (Folder.ofPaths paths).directories.Nodup ∧
      ∀ directory, directory ∈ (Folder.ofPaths paths).directories ↔
        ∃ path ∈ paths, IsAncestor directory path := by
  -- the tree is built from the front, so the induction is over what is in it already
  have hfold : ∀ folder : Folder, folder.directories.Nodup →
      (paths.foldl (fun folder parts => folder.insert parts) folder).directories.Nodup ∧
      ∀ directory, directory ∈
          (paths.foldl (fun folder parts => folder.insert parts) folder).directories ↔
        directory ∈ folder.directories ∨ ∃ path ∈ paths, IsAncestor directory path := by
    induction paths with
    | nil =>
      intro folder h
      exact ⟨h, fun directory => by simp⟩
    | cons parts paths ih =>
      intro folder h
      obtain ⟨hnodup, hmem⟩ := ih (folder.insert parts) (nodup_directories_insert h)
      refine ⟨hnodup, fun directory => ?_⟩
      rw [List.foldl_cons, hmem, mem_directories_insert, List.exists_mem_cons_iff, or_assoc]
  have hempty : Folder.empty.directories = [] := rfl
  obtain ⟨hnodup, hmem⟩ := hfold Folder.empty List.nodup_nil
  refine ⟨hnodup, fun directory => ?_⟩
  rw [Folder.ofPaths, hmem, hempty]
  simp only [List.not_mem_nil, false_or]

/-! ## Entries of a tree -/

/-- The entry of a directory, for the path that is shown. -/
def Entry.ofDirectory (current directory : List Chars) : Entry :=
  .folder directory (decide (IsAncestor directory current))

/-- The entry of a file, for the path that is shown. -/
def Entry.ofPath (current path : List Chars) : Entry :=
  .file path (Text.join "/" path) (decide (path = current))

/-- The entries of a tree that stands where the names `place` lead. -/
def entriesAt (current place : List Chars) (directories paths : List (List Chars)) : List Entry :=
  directories.map (fun directory => .ofDirectory current (place ++ directory)) ++
    paths.map (fun path => .ofPath current (place ++ path))

/-- A file in a tree is shown with its path. -/
theorem shows_file (hcurrent : ArePieces current) (hplace : ArePieces place)
    (hname : IsPiece name) :
    Shows place (fileLink (Text.join "/" place) (Text.join "/" current) name)
      [.ofPath current (place ++ [name])] := by
  have hpath := inDirectory_join hplace hname
  have hactive : Text.join "/" (place ++ [name]) = Text.join "/" current ↔
      place ++ [name] = current :=
    ⟨Path.join_injective (arePieces_concat hplace hname) hcurrent, congrArg _⟩
  have hshows := shows_fileLink place (Text.join "/" place) (Text.join "/" current) name
  rw [hpath, decide_eq_decide.mpr hactive] at hshows
  exact hshows

theorem entriesAt_mk_perm (files : List Chars) (folders : Folders) :
    (entriesAt current place folders.directories folders.paths ++
        files.map fun name => Entry.ofPath current (place ++ [name])).Perm
      (entriesAt current place (Folder.mk files folders).directories
        (Folder.mk files folders).paths) := by
  have hfiles : (files.map ([·])).map (fun path => Entry.ofPath current (place ++ path)) =
      files.map fun name => .ofPath current (place ++ [name]) := by
    rw [List.map_map]
    rfl
  rw [Folder.directories, Folder.paths, entriesAt, entriesAt, List.map_append, hfiles,
    List.append_assoc]
  exact List.perm_append_comm.append_left _

theorem entriesAt_cons_perm (name : Chars) (folder : Folder) (rest : Folders) :
    (.ofDirectory current (place ++ [name]) ::
        (entriesAt current (place ++ [name]) folder.directories folder.paths ++
          entriesAt current place rest.directories rest.paths)).Perm
      (entriesAt current place (Folders.cons name folder rest).directories
        (Folders.cons name folder rest).paths) := by
  simp only [Folders.directories, Folders.paths, entriesAt, List.map_cons, List.map_append,
    List.map_map, Function.comp_def, List.cons_append, List.append_assoc]
  exact ((List.perm_append_comm_assoc _ _ _).append_left _).cons _

/-- All names in a tree can be names of entries of a directory. -/
def Folder.HasPieces (folder : Folder) : Prop :=
  ∀ parts ∈ folder.directories ++ folder.paths, ArePieces parts

/-- All names in named directories can be names of entries of a directory. -/
def Folders.HasPieces (folders : Folders) : Prop :=
  ∀ parts ∈ folders.directories ++ folders.paths, ArePieces parts

theorem hasPieces_mk {files : List Chars} (h : (Folder.mk files folders).HasPieces) :
    (∀ name ∈ files, IsPiece name) ∧ folders.HasPieces := by
  simp only [Folder.HasPieces, Folder.directories, Folder.paths, List.mem_append] at h
  constructor
  · intro name hmem
    exact h [name] (.inr (.inl (List.mem_map_of_mem hmem))) name List.mem_cons_self
  · intro parts hmem
    rw [List.mem_append] at hmem
    exact h parts (hmem.imp_right .inr)

theorem hasPieces_cons {rest : Folders} (h : (Folders.cons name folder rest).HasPieces) :
    IsPiece name ∧ folder.HasPieces ∧ rest.HasPieces := by
  simp only [Folders.HasPieces, Folders.directories, Folders.paths, List.mem_append,
    List.mem_cons] at h
  refine ⟨h [name] (.inl (.inl rfl)) name List.mem_cons_self, ?_, ?_⟩
  · intro parts hmem part hpart
    refine h (name :: parts) ?_ part (List.mem_cons_of_mem name hpart)
    rcases List.mem_append.mp hmem with hmem | hmem
    · exact .inl (.inr (.inl (List.mem_map_of_mem hmem)))
    · exact .inr (.inl (List.mem_map_of_mem hmem))
  · intro parts hmem
    refine h parts ?_
    rcases List.mem_append.mp hmem with hmem | hmem
    · exact .inl (.inr (.inr hmem))
    · exact .inr (.inr hmem)

mutual

/-- A rendered tree shows its directories and its files. -/
theorem shows_folder (hcurrent : ArePieces current) :
    (folder : Folder) → (place : List Chars) → ArePieces place → folder.HasPieces →
    Shows place
      (folder.render (ancestors (Text.join "/" current)) (Text.join "/" current)
        (Text.join "/" place))
      (entriesAt current place folder.directories folder.paths)
  | .mk files folders, place, hplace, hpieces => by
    obtain ⟨hnames, hfolders⟩ := hasPieces_mk hpieces
    obtain ⟨shown, hshown, hperm⟩ := shows_folders hcurrent folders place hplace hfolders
    have hfiles : List.Forall₂
        (fun name entries => Shows place
          (fileLink (Text.join "/" place) (Text.join "/" current) name) entries)
        files (files.map fun name => [.ofPath current (place ++ [name])]) := by
      rw [List.forall₂_map_right_iff, List.forall₂_same]
      exact fun name hmem => shows_file hcurrent hplace (hnames name hmem)
    -- sorting changes the order of the entries, and not which ones there are
    have hfirst := shows_concatMap_perm (List.mergeSort_perm _ nameLe) hshown
    have hsecond := shows_concatMap_perm (List.mergeSort_perm files Text.le) hfiles
    rw [← List.flatMap_def, ← List.map_eq_flatMap] at hsecond
    rw [Folder.render]
    -- paths in directories come first, and those of the files behind them
    exact (hfirst.append hsecond).perm
      ((hperm.append_right _).trans (entriesAt_mk_perm files folders))

/-- The same for named directories: each one shows itself and what is in it. -/
theorem shows_folders (hcurrent : ArePieces current) :
    (folders : Folders) → (place : List Chars) → ArePieces place → folders.HasPieces →
    ∃ shown, List.Forall₂ (fun entry entries => Shows place entry.2 entries)
        (folders.render (ancestors (Text.join "/" current)) (Text.join "/" current)
          (Text.join "/" place)) shown ∧
      shown.flatten.Perm (entriesAt current place folders.directories folders.paths)
  | .nil, place, _, _ => ⟨[], .nil, .nil⟩
  | .cons name folder rest, place, hplace, hpieces => by
    obtain ⟨hname, hinside, hothers⟩ := hasPieces_cons hpieces
    have hbelow := arePieces_concat hplace hname
    obtain ⟨shown, hshown, hperm⟩ := shows_folders hcurrent rest place hplace hothers
    have hfolder := shows_folder hcurrent folder (place ++ [name]) hbelow hinside
    have hopen : (ancestors (Text.join "/" current)).contains (Text.join "/" (place ++ [name])) =
        decide (IsAncestor (place ++ [name]) current) := by
      rw [List.contains_eq_mem]
      exact decide_eq_decide.mpr (mem_ancestors_join hbelow hcurrent)
    have hentry := hfolder.folderEntry (decide (IsAncestor (place ++ [name]) current))
    -- the text of the directory below is its names joined
    rw [Folders.render, inDirectory_join hplace hname, hopen]
    refine ⟨_, .cons hentry hshown, ?_⟩
    rw [List.flatten_cons, List.cons_append]
    exact ((hperm.append_left _).cons _).trans (entriesAt_cons_perm name folder rest)

end

/-! ## The list of some paths -/

/-- The text reads as the list of the paths, where `current` is shown. It has one link for each path,
    with the path as the name that the link asks for, and one entry for each directory on the way to
    a path. The link to the path that is shown is active, and the directories on the way to it are
    open. -/
structure IsListOf (current : List Chars) (paths : List (List Chars)) (text : Chars)
    (entries : List Entry) (directories : List (List Chars)) : Prop where
  read : entries? text = some entries
  perm : entries.Perm
    (directories.map (fun directory => .folder directory (decide (IsAncestor directory current))) ++
      paths.map (fun path => .file path (Text.join "/" path) (decide (path = current))))
  nodup : directories.Nodup
  mem_directories : ∀ directory,
    directory ∈ directories ↔ ∃ path ∈ paths, IsAncestor directory path
  /-- There is no markup but that of the entries, whatever their names are, and it is nested. -/
  nested : ∃ ms, markup? text = some ms ∧ nest [] ms = some [] ∧
    ms.length = (entries.map Entry.size).sum

/-- The tree of some paths, rendered for the path that is shown, reads as the list of the paths. -/
theorem isListOf_treeLinks {paths : List (List Chars)} {current : List Chars}
    (hne : ∀ path ∈ paths, path ≠ []) (hpaths : ∀ path ∈ paths, ArePieces path)
    (hcurrent : ArePieces current) :
    ∃ entries directories, IsListOf current paths
      (treeLinks (Folder.ofPaths paths) (Text.join "/" current)) entries directories := by
  obtain ⟨hnodup, hmem⟩ := directories_ofPaths paths
  have hperm := paths_ofPaths_perm hne
  -- a directory on the way to a path has its names from the path
  have hpieces : (Folder.ofPaths paths).HasPieces := by
    intro parts hparts
    rcases List.mem_append.mp hparts with hdirectory | hpath
    · obtain ⟨path, hpath, hancestor⟩ := (hmem parts).mp hdirectory
      exact fun part hpart => hpaths path hpath part (hancestor.2.1.subset hpart)
    · exact hpaths parts (hperm.mem_iff.mp hpath)
  have hshows := shows_folder hcurrent (Folder.ofPaths paths) [] (List.forall_mem_nil _) hpieces
  obtain ⟨entries, hentries, hall⟩ := hshows.entries?
  refine ⟨entries, (Folder.ofPaths paths).directories, hentries, ?_, hnodup, hmem,
    markup_of_entries? hentries⟩
  exact hall.trans ((hperm.map _).append_left _)

/-- Paths with names that are written in two ways, and a file that is called like a directory. -/
def oddPaths : List (List Chars) :=
  [["a b".toList, "x\"&<.m".toList], ["a b".toList, "c'".toList, "é%.m".toList],
   ["a b".toList, "z.m".toList], ["a b".toList]]

theorem isListOf_treeLinks_of_oddPaths :
    oddPaths.Nodup ∧ (∀ path ∈ oddPaths, path ≠ []) ∧ (∀ path ∈ oddPaths, ArePieces path) ∧
      ArePieces ["a b".toList, "c'".toList, "é%.m".toList] ∧
      ∃ entries directories, IsListOf ["a b".toList, "c'".toList, "é%.m".toList] oddPaths
        (treeLinks (Folder.ofPaths oddPaths)
          (Text.join "/" ["a b".toList, "c'".toList, "é%.m".toList])) entries directories := by
  have hne : ∀ path ∈ oddPaths, path ≠ [] := by decide
  have hpaths : ∀ path ∈ oddPaths, ArePieces path := by decide
  have hcurrent : ArePieces ["a b".toList, "c'".toList, "é%.m".toList] := by decide
  exact ⟨by decide, hne, hpaths, hcurrent, isListOf_treeLinks hne hpaths hcurrent⟩

end ScriptReport.Viewer

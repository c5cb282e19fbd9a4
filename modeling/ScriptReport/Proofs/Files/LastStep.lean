/-
  ScriptReport.Proofs.Files.LastStep

  The last step of a path. A path that ends with a name leads to the entry of that name in the
  directory that the rest leads to, unless the entry is a link (`LeadsTo.last_step`); and a path
  that leads to a file ends with a name (`LeadsTo.isName_of_file`).
-/

import ScriptReport.Proofs.Files.Descent
import ScriptReport.Proofs.Files.PathText

namespace ScriptReport

/-! ## Walks -/

namespace FileTree

variable {tree : FileTree} {n : Nat} {here there goal : Place} {part name : Chars}
  {front : List Chars} {init : Place} {content : Text.Octets}

/-- A step is made from a directory. -/
theorem directory_of_moved (h : tree.stepAt here part = .moved there) :
    tree.get? here = some .directory := by
  rw [stepAt] at h
  split at h
  · cases h
  · cases h
  · cases h
  · assumption

/-- What a place that stands lies below is a directory. -/
theorem Stands.directory_of_concat (h : Stands tree (init ++ [name])) :
    tree.get? init = some .directory := by
  have hinit : Stands tree init := by
    have hdrop := h.dropLast
    rwa [List.dropLast_concat] at hdrop
  have harrives := h.arrives
  rw [hinit.follow_append_eq, follow_cons] at harrives
  cases hstep : tree.stepAt init name with
  | refused cause =>
    rw [hstep] at harrives
    cases harrives
  | moved there => exact directory_of_moved hstep
  | link target => simp [hstep] at harrives

/-- A walk that ends with a name leads to the entry of that name in the directory that it comes to
    before, unless a link has that name there. -/
theorem Leads.last_step (h : Leads tree n here (front ++ [part]) goal) (hname : isName part = true) :
    ∃ m directory, Leads tree m here front directory ∧
      (goal = directory ++ [part] ∨
        ∃ target, tree.get? (directory ++ [part]) = some (.link target)) := by
  obtain ⟨m, _, directory, hfront, hlast⟩ := h.split front
  refine ⟨m, directory, hfront, ?_⟩
  cases hlast with
  | moved step others =>
    cases others
    exact .inl ((isStep_of_eq step).eq_of_isName hname).1
  | link step => exact .inr ⟨_, (isStep_of_eq step).entry_of_link.2⟩

/-- A walk that leads to a file ends with a name. -/
theorem Leads.isName_of_file (h : Leads tree n here (front ++ [part]) goal)
    (hhere : Stands tree here) (hfile : tree.get? goal = some (.file content)) :
    isName part = true := by
  obtain ⟨_, _, between, hfront, hlast⟩ := h.split front
  have hbetween := hhere.leads hfront
  cases hlast with
  | link step => exact (isStep_of_eq step).entry_of_link.1
  | moved step others =>
    cases others
    cases isStep_of_eq step with
    | down hname => exact hname
    | stays =>
      -- the walk would end at the directory in which it is
      rw [directory_of_moved step] at hfile
      cases hfile
    | up =>
      -- one part up is a directory, too
      rcases List.eq_nil_or_concat' between with rfl | ⟨init, name, rfl⟩
      · cases hfile
      · rw [List.dropLast_concat, hbetween.directory_of_concat] at hfile
        cases hfile

end FileTree

/-! ## Paths -/

namespace Disk

variable {disk : Disk} {path : Path} {place : Place} {name : Chars} {content : Text.Octets}

/-- The path leads to the place, with every link followed. -/
def LeadsTo (disk : Disk) (path : Path) (place : Place) : Prop :=
  ∃ n, FileTree.Leads disk.tree n (if path.isAbsolute then [] else disk.cwd) path.parts place

/-- Where the system finds what a path names, the path leads. -/
theorem leadsTo_of_locate (h : disk.locate true path = .ok place) : disk.LeadsTo path place :=
  exists_leads_of_locate h

/-- An entry of the directory that the path lies in has the name of the path, and is a link. -/
def HasLinkAt (disk : Disk) (path : Path) : Prop :=
  ∃ directory target, disk.LeadsTo path.parent directory ∧
    disk.tree.get? (directory ++ [path.name]) = some (.link target)

theorem exists_parts_concat (h : path.parts ≠ []) :
    path.parts = path.parent.parts ++ [path.name] := by
  obtain ⟨init, last, hparts⟩ := (List.eq_nil_or_concat' path.parts).resolve_left h
  rw [Path.parent, Path.name, hparts, List.dropLast_concat, List.getLast?_concat]
  rfl

theorem LeadsTo.last_step (h : disk.LeadsTo path place) (hparts : path.parts ≠ [])
    (hname : FileTree.isName path.name = true) :
    (∃ directory, disk.LeadsTo path.parent directory ∧ place = directory ++ [path.name]) ∨
      disk.HasLinkAt path := by
  obtain ⟨n, hleads⟩ := h
  rw [exists_parts_concat hparts] at hleads
  obtain ⟨m, directory, hfront, hplace | ⟨target, hlink⟩⟩ := hleads.last_step hname
  · exact .inl ⟨directory, ⟨m, hfront⟩, hplace⟩
  · exact .inr ⟨directory, target, ⟨m, hfront⟩, hlink⟩

/-- An absolute path that leads to a file ends with a name. -/
theorem LeadsTo.isName_of_file (h : disk.LeadsTo path place) (habsolute : path.isAbsolute = true)
    (hfile : disk.tree.get? place = some (.file content)) :
    path.parts ≠ [] ∧ FileTree.isName path.name = true := by
  obtain ⟨n, hleads⟩ := h
  rw [habsolute] at hleads
  have hparts : path.parts ≠ [] := by
    intro hnil
    -- the path of the root leads to the root
    rw [hnil] at hleads
    cases hleads
    cases hfile
  rw [exists_parts_concat hparts] at hleads
  exact ⟨hparts, hleads.isName_of_file (FileTree.stands_nil disk.tree) hfile⟩

end Disk

end ScriptReport

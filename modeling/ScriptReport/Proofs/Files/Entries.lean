/-
  ScriptReport.Proofs.Files.Entries

  The entries that a path goes by. Where something stands at a path, every name of the path is the
  name of an entry; and the last name is that of the place, unless it is the name of a link.
-/

import ScriptReport.Proofs.Files.Resolution

namespace ScriptReport

/-! ## Entries on the way -/

namespace FileTree

variable {tree : FileTree} {n : Nat} {here goal : Place} {part : Chars}
  {parts front : List Chars}

/-- A walk that leads to something starts at something. -/
theorem Leads.isSome_start (h : Leads tree n here parts goal) (hgoal : (tree.get? goal).isSome) :
    (tree.get? here).isSome := by
  cases h with
  | nil => exact hgoal
  | moved step _ =>
    cases hnode : tree.get? here with
    | none => rw [stepAt, hnode] at step; cases step
    | some node => rfl
  | link step _ _ =>
    cases hnode : tree.get? here with
    | none => rw [stepAt, hnode] at step; cases step
    | some node => rfl

/-- A walk that leads to something has an entry for each name on the way. -/
theorem Leads.exists_entry (h : Leads tree n here parts goal) (hgoal : (tree.get? goal).isSome)
    (hmem : part ∈ parts) (hname : isName part = true) :
    ∃ place, (tree.get? (place ++ [part])).isSome := by
  induction h with
  | nil here => exact absurd hmem List.not_mem_nil
  | @moved _ here there goal first rest step others ih =>
    rcases List.mem_cons.mp hmem with rfl | hrest
    · obtain ⟨rfl, -⟩ := (isStep_of_eq step).eq_of_isName hname
      exact ⟨here, others.isSome_start hgoal⟩
    · exact ih hgoal hrest
  | @link _ _ here between goal first target rest step inside others _ ih =>
    rcases List.mem_cons.mp hmem with rfl | hrest
    · obtain ⟨-, hlink⟩ := (isStep_of_eq step).entry_of_link
      exact ⟨here, by rw [hlink]; rfl⟩
    · exact ih hgoal hrest

theorem mem_entries {place : Place} {node : Node} (hne : place ≠ [])
    (h : tree.get? place = some node) : (place, node) ∈ tree.entries := by
  rw [get?, if_neg hne] at h
  exact mem_of_findEntry h

theorem mem_entries_of_get? {place : Place} (hne : place ≠ []) (h : (tree.get? place).isSome) :
    ∃ node, (place, node) ∈ tree.entries := by
  obtain ⟨node, hnode⟩ := Option.isSome_iff_exists.mp h
  exact ⟨node, mem_entries hne hnode⟩

end FileTree

/-! ## Names on a disk -/

namespace Disk

/-- An entry of the disk has the name. -/
def HasName (disk : Disk) (name : Chars) : Prop :=
  ∃ entry ∈ disk.tree.entries, entry.1.getLast? = some name

variable {disk : Disk} {path : Path} {place : Place} {name : Chars}

theorem hasName_of_get? (h : (disk.tree.get? (place ++ [name])).isSome) : disk.HasName name := by
  obtain ⟨node, hentry⟩ := FileTree.mem_entries_of_get? (by simp) h
  exact ⟨_, hentry, List.getLast?_concat⟩

theorem exists_place_of_hasEntry (h : disk.hasEntry path = .ok true) :
    ∃ place node, disk.locate true path = .ok place ∧ disk.tree.get? place = some node := by
  rw [hasEntry, look?] at h
  cases hlook : disk.look path with
  | ok node =>
    obtain ⟨place, hplace⟩ := place_of_look hlook
    exact ⟨place, node, hplace⟩
  | error fault =>
    rw [hlook] at h
    split at h
    · next hok => cases hok
    all_goals cases h

/-- Where something stands at a path, each name of the path is the name of an entry. -/
theorem hasName_of_hasEntry (h : disk.hasEntry path = .ok true) (hmem : name ∈ path.parts)
    (hname : FileTree.isName name = true) : disk.HasName name := by
  obtain ⟨goal, node, hlocate, hgoal⟩ := exists_place_of_hasEntry h
  rw [locate] at hlocate
  split at hlocate
  · cases hlocate
  · obtain ⟨n, hleads⟩ := FileTree.exists_leads_of_follow hlocate
    obtain ⟨place, hplace⟩ := hleads.exists_entry (by rw [hgoal]; rfl) hmem hname
    exact hasName_of_get? hplace

end Disk

end ScriptReport

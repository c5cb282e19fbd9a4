/-
  ScriptReport.Proofs.Files.Writing

  What writing does to the places of a disk. Making directories puts directories at places that were
  free and leaves all others as they are; a file that is written changes one place more. So a place
  that a process does not write keeps what stands at it (`get?_foldl_createEmpty`), and no link comes
  from a process (`link_of_foldl_createEmpty`).
-/

import ScriptReport.Proofs.Success
import ScriptReport.World

namespace ScriptReport

namespace Disk

variable {disk disk' disk'' : Disk} {path : Path} {place : Place} {content : Text.Octets}
  {target : Chars}

/-! ## Directories -/

/-- The second disk has directories at places that are free on the first, and is else the same. -/
def AddsDirectories (disk disk' : Disk) : Prop :=
  ∀ place, disk'.tree.get? place = disk.tree.get? place ∨
    disk.tree.get? place = none ∧ disk'.tree.get? place = some .directory

theorem AddsDirectories.refl (disk : Disk) : AddsDirectories disk disk := fun _ => .inl rfl

theorem AddsDirectories.trans (h : AddsDirectories disk disk') (h' : AddsDirectories disk' disk'') :
    AddsDirectories disk disk'' := by
  intro place
  rcases h place with heq | ⟨hfree, hmade⟩
  · rcases h' place with heq' | ⟨hfree, hmade⟩
    · exact .inl (heq'.trans heq)
    · exact .inr ⟨heq ▸ hfree, hmade⟩
  · rcases h' place with heq' | ⟨hfree', -⟩
    · exact .inr ⟨hfree, heq'.trans hmade⟩
    · rw [hmade] at hfree'
      cases hfree'

/-- A new directory is put at a free place. -/
theorem addsDirectories_of_makeDirectory (h : disk.makeDirectory path = .ok disk') :
    AddsDirectories disk disk' := by
  rw [makeDirectory, bind_eq_ok_iff] at h
  obtain ⟨_, -, h⟩ := h
  split at h
  · cases h
  · next made _ =>
    split at h
    · cases h
    · next hfree =>
      cases h
      have hne : made ≠ [] := by
        rintro rfl
        cases hfree
      intro place
      rw [FileTree.get?_set _ hne]
      split_ifs with hplace
      · exact .inr ⟨hplace ▸ hfree, rfl⟩
      · exact .inl rfl

theorem addsDirectories_of_ensureDirectory (h : disk.ensureDirectory path = .ok disk') :
    AddsDirectories disk disk' := by
  rw [ensureDirectory] at h
  split at h
  · next hmade =>
    cases h
    exact addsDirectories_of_makeDirectory hmade
  · cases h
  · cases h
  · obtain ⟨found, -, h⟩ := bind_eq_ok_iff.mp h
    split at h
    · cases h
      exact .refl disk
    · cases h

theorem addsDirectories_ensureDirectories (disk : Disk) (path : Path) (depth : Nat) :
    AddsDirectories disk (disk.ensureDirectories path depth).1 := by
  induction depth generalizing disk path with
  | zero =>
    rw [ensureDirectories]
    split
    · next hmade => exact addsDirectories_of_ensureDirectory hmade
    · exact .refl disk
  | succ depth ih =>
    rw [ensureDirectories]
    split
    · next hmade => exact addsDirectories_of_ensureDirectory hmade
    · -- the directory above is made first
      have habove := ih disk path.parent
      split
      · next heq =>
        rw [heq] at habove
        exact habove
      · next heq =>
        rw [heq] at habove
        split
        · next hmade => exact habove.trans (addsDirectories_of_ensureDirectory hmade)
        · exact habove
    · exact .refl disk

theorem addsDirectories_makeDirectories (disk : Disk) (path : Path) :
    AddsDirectories disk (disk.makeDirectories path).1 :=
  addsDirectories_ensureDirectories disk path _

/-! ## Files -/

/-- A file that is written changes the place that its path leads to. -/
theorem place_of_write (h : disk.write path content = .ok disk') :
    ∃ place, disk.locate true path = .ok place ∧ place ≠ [] ∧
      disk' = { disk with tree := disk.tree.set place (.file content) } := by
  rw [write, bind_eq_ok_iff] at h
  obtain ⟨_, -, h⟩ := h
  split at h
  · cases h
  · next place hplace =>
    split at h
    · cases h
    · next hnot =>
      cases h
      refine ⟨place, hplace, ?_, rfl⟩
      rintro rfl
      exact hnot rfl

end Disk

namespace World

variable {disk : Disk} {path : Path} {paths : List Path} {place : Place} {target : Chars}

/-! ## Files left behind -/

/-- Leaving an empty file behind makes or rewrites the place: as a directory on the way to the file,
    or as the file. -/
def Touches (disk : Disk) (path : Path) (place : Place) : Prop :=
  let ready := (disk.makeDirectories path.parent).1
  (disk.tree.get? place = none ∧ ready.tree.get? place = some .directory) ∨
    (ready.write path []).isOk = true ∧ ready.locate true path = .ok place

/-- The places that are made or rewritten when files are left behind one after another. -/
def Writes (disk : Disk) : List Path → Place → Prop
  | [], _ => False
  | path :: rest, place => Touches disk path place ∨ Writes (createEmpty disk path) rest place

theorem createEmpty_of_ok {written : Disk}
    (h : (disk.makeDirectories path.parent).1.write path [] = .ok written) :
    createEmpty disk path = written := by
  simp only [createEmpty, h]

theorem createEmpty_of_error {fault : FileFault}
    (h : (disk.makeDirectories path.parent).1.write path [] = .error fault) :
    createEmpty disk path = (disk.makeDirectories path.parent).1 := by
  simp only [createEmpty, h]

/-- A place that is not touched keeps what stands at it. -/
theorem get?_createEmpty (h : ¬ Touches disk path place) :
    (createEmpty disk path).tree.get? place = disk.tree.get? place := by
  rw [Touches, not_or] at h
  have hready : (disk.makeDirectories path.parent).1.tree.get? place = disk.tree.get? place :=
    (disk.addsDirectories_makeDirectories path.parent place).resolve_right h.1
  cases hwrite : (disk.makeDirectories path.parent).1.write path [] with
  | error fault => rw [createEmpty_of_error hwrite, hready]
  | ok written =>
    obtain ⟨there, hlocate, hne, rfl⟩ := Disk.place_of_write hwrite
    have hother : place ≠ there := by
      rintro rfl
      exact h.2 ⟨by rw [hwrite]; rfl, hlocate⟩
    rw [createEmpty_of_ok hwrite, FileTree.get?_set _ hne, if_neg hother, hready]

theorem get?_foldl_createEmpty (h : ¬ Writes disk paths place) :
    (paths.foldl createEmpty disk).tree.get? place = disk.tree.get? place := by
  induction paths generalizing disk with
  | nil => rfl
  | cons path rest ih =>
    rw [Writes, not_or] at h
    rw [List.foldl_cons, ih h.2, get?_createEmpty h.1]

end World

end ScriptReport

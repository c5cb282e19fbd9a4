/-
  ScriptReport.Proofs.Files.KeptWays

  Paths after a change of the files. As long as directories stay directories and links stay what they
  are, a path that leads to a place goes on leading there (`follow_of_keepsWays`). Making directories
  and writing a file change the files in this way only, so what is written at a path is what is read
  there (`read_of_write`), and a file is still read after directories have been made.
-/

import ScriptReport.Proofs.Files.Descent
import ScriptReport.Proofs.Files.Writing

namespace ScriptReport

namespace FileTree

variable {tree tree' : FileTree} {last : Bool} {links : Nat} {here there place : Place}
  {part : Chars} {parts : List Chars} {step : Step}

/-! ## Trees with the same ways -/

/-- The directories of the first tree are directories of the second, and both have the same links. -/
structure KeepsWays (tree tree' : FileTree) : Prop where
  directory : ∀ place, tree.get? place = some .directory → tree'.get? place = some .directory
  link : ∀ place target,
    tree'.get? place = some (.link target) ↔ tree.get? place = some (.link target)

/-- A step that is not refused is made in both trees. -/
theorem stepAt_of_keepsWays (h : KeepsWays tree tree') (hstep : tree.stepAt here part = step)
    (hmade : ∀ cause, step ≠ .refused cause) : tree'.stepAt here part = step := by
  subst hstep
  -- a step is only made from a directory, and that is one in the other tree, too
  have hhere : tree.get? here = some .directory := by
    rw [stepAt] at hmade
    split at hmade
    · exact absurd rfl (hmade _)
    · exact absurd rfl (hmade _)
    · exact absurd rfl (hmade _)
    · assumption
  rw [stepAt, stepAt, hhere, h.directory here hhere]
  simp only
  split_ifs with hstays hup hlong
  · rfl
  · rfl
  · rfl
  · -- the entry of that name is the same link in both trees, or none
    cases hentry : tree.get? (here ++ [part]) with
    | some node =>
      cases node with
      | link target => rw [(h.link _ target).mpr hentry]
      | file content =>
        split
        · next target hlink => cases hentry.symm.trans ((h.link _ target).mp hlink)
        · rfl
      | directory => rw [h.directory _ hentry]
    | none =>
      split
      · next target hlink => cases hentry.symm.trans ((h.link _ target).mp hlink)
      · rfl

/-- Where the system arrives in the first tree, it arrives in the second. -/
theorem follow_of_keepsWays (h : KeepsWays tree tree')
    (hfollow : tree.follow last links here parts = .ok there) :
    tree'.follow last links here parts = .ok there := by
  -- links run out before parts do: a link puts the parts of its target in front of the others
  induction links using Nat.strongRecOn generalizing here parts with
  | ind links ihLinks =>
    induction parts generalizing here with
    | nil =>
      rw [follow_nil] at hfollow ⊢
      exact hfollow
    | cons part rest ih =>
      rw [follow_cons] at hfollow ⊢
      cases hstep : tree.stepAt here part with
      | refused cause =>
        rw [hstep] at hfollow
        cases hfollow
      | moved next =>
        rw [stepAt_of_keepsWays h hstep (by nofun)]
        rw [hstep] at hfollow
        exact ih hfollow
      | link target =>
        rw [stepAt_of_keepsWays h hstep (by nofun)]
        rw [hstep] at hfollow
        simp only at hfollow ⊢
        split_ifs at hfollow ⊢
        · exact hfollow
        · cases links with
          | zero => cases hfollow
          | succ links => exact ihLinks links (Nat.lt_succ_self links) hfollow

/-- A place that stands is no link. -/
theorem Stands.ne_link (h : Stands tree place) (target : Chars) :
    tree.get? place ≠ some (.link target) := by
  intro hlink
  have hlook : tree.lookAt place = .ok place := by
    rw [lookAt, h.follow false maxLinks]
    simp [hlink]
  exact h.isFinal.lookAt_ne_link hlook hlink

end FileTree

open FileTree (KeepsWays Stands)

namespace Disk

variable {disk disk' : Disk} {last : Bool} {path : Path} {place : Place} {content : Text.Octets}

/-! ## Disks -/

theorem locate_of_keepsWays (h : KeepsWays disk.tree disk'.tree) (hcwd : disk'.cwd = disk.cwd)
    (hlocate : disk.locate last path = .ok place) : disk'.locate last path = .ok place := by
  rw [locate] at hlocate ⊢
  rw [hcwd]
  split_ifs at hlocate ⊢
  · exact FileTree.follow_of_keepsWays h hlocate
  · exact FileTree.follow_of_keepsWays h hlocate

theorem checkNull_of_read (h : disk.read path = .ok content) : checkNull path = .ok () := by
  rw [read, bind_eq_ok_iff] at h
  obtain ⟨node, hlook, -⟩ := h
  rw [look, bind_eq_ok_iff] at hlook
  obtain ⟨_, hcheck, -⟩ := hlook
  exact hcheck

/-- The file at the place that a path leads to is read by the path. -/
theorem read_of_locate (hnull : checkNull path = .ok ()) (hlocate : disk.locate true path = .ok place)
    (hfile : disk.tree.get? place = some (.file content)) : disk.read path = .ok content := by
  have hlook : disk.look path = .ok (.file content) := by
    rw [look, hnull]
    simp only [bind, Except.bind, hlocate, hfile]
  exact read_of_look hlook

/-! ## Directories -/

theorem AddsDirectories.keepsWays (h : AddsDirectories disk disk') :
    KeepsWays disk.tree disk'.tree where
  directory := by
    intro place hplace
    rcases h place with heq | ⟨hfree, -⟩
    · rw [heq, hplace]
    · rw [hfree] at hplace
      cases hplace
  link := by
    intro place target
    rcases h place with heq | ⟨hfree, hmade⟩
    · rw [heq]
    · rw [hfree, hmade]
      constructor <;> nofun

/-- No file comes or goes where directories are added. -/
theorem AddsDirectories.get?_file_iff (h : AddsDirectories disk disk') :
    disk'.tree.get? place = some (.file content) ↔ disk.tree.get? place = some (.file content) := by
  rcases h place with heq | ⟨hfree, hmade⟩
  · rw [heq]
  · rw [hfree, hmade]
    constructor <;> nofun

theorem cwd_of_makeDirectory (h : disk.makeDirectory path = .ok disk') : disk'.cwd = disk.cwd := by
  rw [makeDirectory, bind_eq_ok_iff] at h
  obtain ⟨_, -, h⟩ := h
  split at h
  · cases h
  · split at h
    · cases h
    · cases h
      rfl

theorem cwd_of_ensureDirectory (h : disk.ensureDirectory path = .ok disk') :
    disk'.cwd = disk.cwd := by
  rw [ensureDirectory] at h
  split at h
  · next hmade =>
    cases h
    exact cwd_of_makeDirectory hmade
  · cases h
  · cases h
  · obtain ⟨found, -, h⟩ := bind_eq_ok_iff.mp h
    split at h
    · cases h
      rfl
    · cases h

theorem cwd_ensureDirectories (disk : Disk) (path : Path) (depth : Nat) :
    (disk.ensureDirectories path depth).1.cwd = disk.cwd := by
  induction depth generalizing disk path with
  | zero =>
    rw [ensureDirectories]
    split
    · next hmade => exact cwd_of_ensureDirectory hmade
    · rfl
  | succ depth ih =>
    rw [ensureDirectories]
    split
    · next hmade => exact cwd_of_ensureDirectory hmade
    · -- the directories above are made first, and then this one once more
      have habove := ih disk path.parent
      split
      · next heq =>
        rw [heq] at habove
        exact habove
      · next heq =>
        rw [heq] at habove
        split
        · next hmade => exact (cwd_of_ensureDirectory hmade).trans habove
        · exact habove
    · rfl

theorem cwd_makeDirectories (disk : Disk) (path : Path) :
    (disk.makeDirectories path).1.cwd = disk.cwd := cwd_ensureDirectories disk path _

/-- Making directories adds directories, and leaves the working directory as it is. -/
theorem addsDirectories_of_makeDirectories {stopped : Option FileFault}
    (h : disk.makeDirectories path = (disk', stopped)) :
    AddsDirectories disk disk' ∧ disk'.cwd = disk.cwd := by
  have hadds := disk.addsDirectories_makeDirectories path
  have hcwd := disk.cwd_makeDirectories path
  rw [h] at hadds hcwd
  exact ⟨hadds, hcwd⟩

/-- What is read at a path is still read there when directories have been added. -/
theorem AddsDirectories.read_eq (h : AddsDirectories disk disk') (hcwd : disk'.cwd = disk.cwd)
    (hread : disk.read path = .ok content) : disk'.read path = .ok content := by
  obtain ⟨place, hlocate, hfile⟩ := place_of_read hread
  exact read_of_locate (checkNull_of_read hread) (locate_of_keepsWays h.keepsWays hcwd hlocate)
    (h.get?_file_iff.mpr hfile)

/-! ## Files -/

theorem checkNull_of_write (h : disk.write path content = .ok disk') : checkNull path = .ok () := by
  rw [write, bind_eq_ok_iff] at h
  obtain ⟨_, hcheck, -⟩ := h
  exact hcheck

/-- A file is written to the place that the path leads to, unless a directory stands there. -/
theorem write_of_locate (hnull : checkNull path = .ok ())
    (hlocate : disk.locate true path = .ok place) (hfree : disk.tree.get? place ≠ some .directory)
    (content : Text.Octets) :
    disk.write path content = .ok { disk with tree := disk.tree.set place (.file content) } := by
  rw [write, hnull]
  simp only [bind, Except.bind, hlocate]

/-- What stands where a file is written is no directory. -/
theorem ne_directory_of_write (h : disk.write path content = .ok disk')
    (hlocate : disk.locate true path = .ok place) : disk.tree.get? place ≠ some .directory := by
  intro hdirectory
  rw [write, checkNull_of_write h] at h
  simp only [bind, Except.bind, hlocate, hdirectory] at h
  cases h

/-- Writing a file changes neither a directory nor a link. -/
theorem keepsWays_of_write (hcwd : Stands disk.tree disk.cwd)
    (h : disk.write path content = .ok disk') : KeepsWays disk.tree disk'.tree := by
  have hdirectory (there : Place) : disk.locate true path = .ok there → _ :=
    ne_directory_of_write h
  obtain ⟨place, hlocate, hne, rfl⟩ := place_of_write h
  obtain ⟨n, hleads⟩ := exists_leads_of_locate hlocate
  have hplace := (stands_start hcwd path).leads hleads
  constructor
  · -- no directory stands where the file is written
    intro other hother
    rw [FileTree.get?_set _ hne, if_neg]
    · exact hother
    · rintro rfl
      exact hdirectory _ hlocate hother
  · intro other target
    rw [FileTree.get?_set _ hne]
    split_ifs with heq
    · -- at the place itself there was no link, and now there is a file
      subst heq
      exact ⟨nofun, fun hlink => absurd hlink (hplace.ne_link target)⟩
    · exact Iff.rfl

/-- What is written at a path is read there. -/
theorem read_of_write (hcwd : Stands disk.tree disk.cwd) (h : disk.write path content = .ok disk') :
    disk'.read path = .ok content := by
  have hkeeps := keepsWays_of_write hcwd h
  have hnull := checkNull_of_write h
  obtain ⟨place, hlocate, hne, rfl⟩ := place_of_write h
  refine read_of_locate hnull (locate_of_keepsWays hkeeps rfl hlocate) ?_
  rw [FileTree.get?_set _ hne, if_pos rfl]

end Disk

end ScriptReport

/-
  ScriptReport.Proofs.Files.Resolution

  Final paths of a disk. Spelling out a path either fails, for a null character or for links without
  an end, or gives the path of a place; what is read at that path stands at that place, unless the
  walk was stopped by a link that leads back to itself. Where the system arrives by the path as it
  was given, the final path leads too (`eq_of_locate`).
-/

import ScriptReport.Proofs.Files.Agreement
import ScriptReport.Proofs.Success

namespace ScriptReport

open FileTree (IsFinal Stands)

namespace Disk

variable {disk : Disk} {strict : Bool} {path final : Path} {place : Place} {node : Node}
  {fault : FileFault} {content : Text.Octets}

/-! ## Looking -/

theorem place_of_look (h : disk.look path = .ok node) :
    ∃ place, disk.locate true path = .ok place ∧ disk.tree.get? place = some node := by
  rw [look, bind_eq_ok_iff] at h
  obtain ⟨_, -, h⟩ := h
  split at h
  · cases h
  · next place hplace =>
    split at h
    · next hnode =>
      cases h
      exact ⟨place, hplace, hnode⟩
    · cases h

theorem fault_of_look (h : disk.look path = .error fault) :
    fault = .nullByte ∨ ∃ cause, fault = .system cause path.text := by
  rw [look, checkNull] at h
  split_ifs at h
  · exact .inl (Except.error.inj h).symm
  · simp only [bind, Except.bind] at h
    split at h
    · exact .inr ⟨_, (Except.error.inj h).symm⟩
    · split at h
      · cases h
      · exact .inr ⟨_, (Except.error.inj h).symm⟩

/-- What is read at a path is the content of the file that the path leads to. -/
theorem place_of_read (h : disk.read path = .ok content) :
    ∃ place, disk.locate true path = .ok place ∧ disk.tree.get? place = some (.file content) := by
  rw [read, bind_eq_ok_iff] at h
  obtain ⟨node, hlook, h⟩ := h
  obtain ⟨place, hplace, hnode⟩ := place_of_look hlook
  cases node with
  | file content' =>
    cases h
    exact ⟨place, hplace, hnode⟩
  | link target => cases h
  | directory => cases h

/-- Reading fails where looking does, and where no file stands. -/
theorem fault_of_read (h : disk.read path = .error fault) :
    disk.look path = .error fault ∨ ∃ cause, fault = .system cause path.text := by
  rw [read] at h
  cases hlook : disk.look path with
  | error fault' =>
    rw [hlook] at h
    cases h
    exact .inl rfl
  | ok node =>
    rw [hlook] at h
    cases node with
    | file content => cases h
    | link target => exact .inr ⟨_, (Except.error.inj h).symm⟩
    | directory => exact .inr ⟨_, (Except.error.inj h).symm⟩

/-! ## When a path is spelled out -/

/-- The walk over the path is stopped by a link that leads back to itself. -/
def IsStuck (disk : Disk) (path : Path) : Prop :=
  ∃ spot left, disk.walk false path = .ok (.stuck spot left)

theorem walk_of_resolve (h : disk.resolve strict path = .ok final) :
    ∃ arrival, disk.walk strict path = .ok arrival ∧ final = arrival.path disk.cwd := by
  rw [resolve, bind_eq_ok_iff] at h
  obtain ⟨arrival, hwalk, h⟩ := h
  refine ⟨arrival, hwalk, ?_⟩
  simp only at h
  split_ifs at h
  · exact (Except.ok.inj h).symm
  · split at h
    · cases h
    · cases h
    · exact (Except.ok.inj h).symm

theorem isAbsolute_append (p q : Path) :
    (p.append q).isAbsolute = (p.isAbsolute || q.isAbsolute) := by
  rw [Path.append]
  split_ifs with hq
  · rw [hq, Bool.or_true]
  · rw [Bool.eq_false_iff.mpr hq, Bool.or_false]
    rfl

/-- A path that is spelled out starts at a root. -/
theorem isAbsolute_of_resolve (h : disk.resolve strict path = .ok final) :
    final.isAbsolute = true := by
  obtain ⟨arrival, -, rfl⟩ := walk_of_resolve h
  cases arrival with
  | final spot => rfl
  | stuck spot left =>
    -- what is left keeps the root of the working directory, or has its own
    exact (isAbsolute_append disk.cwd.path _).trans (Bool.true_or _)

/-- At a final path only the system refuses to look. -/
theorem look_of_resolve (h : disk.resolve false path = .ok final) :
    disk.look final ≠ .error .nullByte := by
  rw [resolve, bind_eq_ok_iff] at h
  obtain ⟨arrival, -, h⟩ := h
  simp only [Bool.false_eq_true, if_false] at h
  split at h
  · cases h
  · cases h
  · next hother =>
    cases h
    exact hother

/-- The walk that does not insist on entries is only refused for a null character. -/
theorem nullByte_of_resolveFrom {tree : FileTree} {seen : FileTree.Seen} {here : FileTree.Spot}
    {cwd : Place} {pending : List FileTree.Pending}
    (h : tree.resolveFrom false seen here cwd pending = .error fault) : fault = .nullByte := by
  fun_induction FileTree.resolveFrom tree false seen here cwd pending with
  | case1 => cases h
  | case2 _ _ _ _ ih => exact ih h
  | case3 _ _ _ _ _ ih => exact ih h
  | case4 _ _ _ _ ih => exact ih h
  | case5 => exact (Except.error.inj h).symm
  | case6 _ _ _ _ _ _ _ _ _ hstrict => cases hstrict
  | case7 _ _ _ _ _ _ _ _ _ _ ih => exact ih h
  | case8 _ _ _ _ _ _ _ _ _ _ _ _ _ _ ih => exact ih h
  | case9 _ _ _ _ _ _ _ _ _ _ _ _ hstrict => cases hstrict
  | case10 => cases h
  | case11 _ _ _ _ _ _ _ _ _ _ _ _ ih => exact ih h
  | case12 _ _ _ _ _ _ _ _ _ _ ih => exact ih h

/-- There is no final path for a null character and for links without an end. -/
theorem fault_of_resolve (h : disk.resolve false path = .error fault) :
    fault = .nullByte ∨ ∃ text, fault = .linkLoop text := by
  rw [resolve] at h
  cases hwalk : disk.walk false path with
  | error fault' =>
    rw [hwalk] at h
    cases h
    exact .inl (nullByte_of_resolveFrom hwalk)
  | ok arrival =>
    rw [hwalk] at h
    simp only [bind, Except.bind, Bool.false_eq_true, if_false] at h
    split at h
    · exact .inr ⟨_, (Except.error.inj h).symm⟩
    · exact .inl (Except.error.inj h).symm
    · cases h

/-! ## Final places -/

/-- A path that is spelled out without being stopped by a link leads to a final place. -/
theorem isFinal_of_resolve (hcwd : IsFinal disk.tree disk.cwd) (hstuck : ¬ disk.IsStuck path)
    (h : disk.resolve false path = .ok final) :
    ∃ place : Place, final = place.path ∧ IsFinal disk.tree place := by
  obtain ⟨arrival, hwalk, rfl⟩ := walk_of_resolve h
  cases arrival with
  | stuck spot left => exact absurd ⟨spot, left, hwalk⟩ hstuck
  | final spot =>
    refine ⟨spot.place disk.cwd, rfl, FileTree.isFinal_of_resolveFrom ?_
      (fun _ _ hmem => absurd hmem List.not_mem_nil) hwalk⟩
    unfold FileTree.Spot.place
    split_ifs
    · exact FileTree.isFinal_nil disk.tree
    · exact hcwd

/-- Where the system arrives by a path, its final path leads. -/
theorem eq_of_locate (hcwd : Stands disk.tree disk.cwd) (h : disk.resolve strict path = .ok final)
    (hlocate : disk.locate true path = .ok place) : final = place.path := by
  obtain ⟨arrival, hwalk, rfl⟩ := walk_of_resolve h
  have hfollow : disk.tree.follow true FileTree.maxLinks
      (FileTree.Spot.place disk.cwd ⟨path.isAbsolute, []⟩) path.parts = .ok place := by
    rw [locate] at hlocate
    split at hlocate
    · cases hlocate
    · exact hlocate
  have hstart : Stands disk.tree (FileTree.Spot.place disk.cwd ⟨path.isAbsolute, []⟩) := by
    unfold FileTree.Spot.place
    split_ifs
    · exact FileTree.stands_nil disk.tree
    · exact hcwd
  obtain ⟨spot, rfl, hspot⟩ := FileTree.exists_final_of_follow hstart hfollow hwalk
  rw [FileTree.Arrival.path, hspot]

/-- What is found at a final place by its path stands there. -/
theorem eq_of_locate_path (h : IsFinal disk.tree place) {there : Place} {last : Bool}
    (hlocate : disk.locate last place.path = .ok there) : there = place := by
  rw [locate] at hlocate
  split at hlocate
  · cases hlocate
  · exact h.eq_of_follow hlocate

/-- Over a final place the walk that spells out a path goes down name by name. -/
theorem arrival_of_isFinal {tree : FileTree} {seen : FileTree.Seen} {cwd front rest : Place}
    {arrival : FileTree.Arrival} (h : IsFinal tree (front ++ rest))
    (hwalk : tree.resolveFrom strict seen ⟨true, front⟩ cwd (rest.map .part) = .ok arrival) :
    arrival = .final ⟨true, front ++ rest⟩ := by
  induction rest generalizing front with
  | nil =>
    rw [List.map_nil, FileTree.resolveFrom] at hwalk
    rw [List.append_nil, Except.ok.inj hwalk]
  | cons name rest ih =>
    have hname := h.names name (List.mem_append_right front List.mem_cons_self)
    rw [List.append_cons] at h ⊢
    refine ih h (FileTree.resolveFrom_name hname (fun there target hlook => ?_) hwalk)
    rw [FileTree.place_down hname] at hlook
    exact (h.of_prefix (List.prefix_append _ rest)).lookAt_ne_link hlook

/-- The path of a final place is final. -/
theorem resolve_path (h : IsFinal disk.tree place)
    (hresolve : disk.resolve strict place.path = .ok final) : final = place.path := by
  obtain ⟨arrival, hwalk, rfl⟩ := walk_of_resolve hresolve
  rw [arrival_of_isFinal (List.nil_append place ▸ h) hwalk]
  rfl

end Disk

end ScriptReport

/-
  ScriptReport.Proofs.Files.Descent

  Final paths that exist. Where something stands at the end of a whole walk, its path can be spelled
  out, and the final path leads there (`resolve_of_leads`). So a path that the system follows from a
  directory is resolved to the same place from the final path of the directory
  (`exists_isBelow`), however that directory was named. This needs that names and targets hold
  no null characters, as is the case for every tree of a system.
-/

import ScriptReport.Proofs.Files.Entries
import ScriptReport.Proofs.Text.Splitting

namespace ScriptReport

open FileTree (Leads Stands)

/-! ## Sound trees -/

namespace FileTree

/-- A tree that a system can hold. -/
structure IsSound (tree : FileTree) : Prop where
  names : ∀ entry ∈ tree.entries, ∀ name ∈ entry.1, name ≠ [] ∧ '/' ∉ name ∧ '\x00' ∉ name
  targets : ∀ entry ∈ tree.entries, ∀ target, entry.2 = .link target → '\x00' ∉ target

variable {tree : FileTree} {place : Place} {target : Chars}

/-- Where something stands, the names are those of entries. -/
theorem IsSound.names_of_get? (h : tree.IsSound) {node : Node}
    (hnode : tree.get? place = some node) :
    ∀ name ∈ place, name ≠ [] ∧ '/' ∉ name ∧ '\x00' ∉ name := by
  intro name hname
  exact h.names _ (mem_entries (List.ne_nil_of_mem hname) hnode) name hname

/-- No part of the target of a link holds a null character. -/
theorem IsSound.not_mem_targetParts (h : tree.IsSound)
    (hlink : tree.get? place = some (.link target)) :
    ∀ part ∈ targetParts target, '\x00' ∉ part := by
  have hne : place ≠ [] := by
    rintro rfl
    cases hlink
  intro part hpart hnull
  refine h.targets _ (mem_entries hne hlink) target rfl ?_
  have hall : '\x00' ∈ (targetParts target).flatten := List.mem_flatten_of_mem hpart hnull
  rw [targetParts, show ("/" : Chars) = ['/'] from rfl, Text.flatten_splitOn] at hall
  exact List.mem_of_mem_filter hall

/-- A place that stands is where the system's walk to it ends, however many links it may follow. -/
theorem Stands.follow (h : Stands tree place) (last : Bool) (links : Nat) :
    tree.follow last links [] place = .ok place := by
  have hwalk := h.follow_append_eq last links []
  rwa [List.append_nil, follow_nil] at hwalk

theorem Stands.exists_leads (h : Stands tree place) : ∃ n, Leads tree n [] place place :=
  exists_leads_of_follow h.arrives

/-- Without null characters, the walk that does not insist on entries is not refused. -/
theorem exists_arrival (h : tree.IsSound) (seen : Seen) (here : Spot) (cwd : Place)
    {pending : List Pending} (hpending : ∀ name, .part name ∈ pending → '\x00' ∉ name) :
    ∃ arrival, tree.resolveFrom false seen here cwd pending = .ok arrival := by
  fun_induction resolveFrom tree false seen here cwd pending with
  | case1 seen here => exact ⟨_, rfl⟩
  | case2 seen here key rest ih => exact ih fun name hname => hpending name (.tail _ hname)
  | case3 seen here name rest _ ih => exact ih fun name hname => hpending name (.tail _ hname)
  | case4 seen here rest _ ih => exact ih fun name hname => hpending name (.tail _ hname)
  | case5 seen here name rest _ _ hnull =>
    exact absurd (List.contains_iff_mem.mp hnull) (hpending name List.mem_cons_self)
  | case6 _ _ _ _ _ _ _ _ _ hstrict => cases hstrict
  | case7 seen here name rest _ _ _ _ _ _ ih =>
    exact ih fun name hname => hpending name (.tail _ hname)
  | case8 seen here name rest _ _ _ there _ target _ _ spot _ ih =>
    exact ih fun name hname => hpending name (.tail _ hname)
  | case9 _ _ _ _ _ _ _ _ _ _ _ _ hstrict => cases hstrict
  | case10 => exact ⟨_, rfl⟩
  | case11 seen here name rest _ _ _ there _ target hlink _ ih =>
    -- the parts of the target come in front of the others
    refine ih fun part hpart => ?_
    rcases List.mem_append.mp hpart with hpart | hpart
    · obtain ⟨_, hmem, heq⟩ := List.mem_map.mp hpart
      cases heq
      exact h.not_mem_targetParts hlink part hmem
    · cases hpart with
      | tail _ hrest => exact hpending part (.tail _ hrest)
  | case12 seen here name rest _ _ _ _ _ _ ih =>
    exact ih fun name hname => hpending name (.tail _ hname)

end FileTree

namespace Disk

variable {disk : Disk} {path : Path} {goal : Place} {node : Node} {n : Nat}

/-! ## Places on a disk -/

/-- The text of the path to the place is not too long for the system. -/
def IsInReach (place : Place) : Prop :=
  (Text.Utf8.encode place.path.text).length ≤ maxPathOctets

instance (place : Place) : Decidable (IsInReach place) := inferInstanceAs (Decidable (_ ≤ _))

theorem checkNull_path (hsound : disk.tree.IsSound) (hnode : disk.tree.get? goal = some node) :
    checkNull goal.path = .ok () := by
  have hnone : ¬ goal.path.parts.any (·.contains '\x00') = true := by
    simp only [List.any_eq_true, List.contains_iff_mem, not_exists, not_and]
    exact fun name hname => (hsound.names_of_get? hnode name hname).2.2
  rw [checkNull, if_neg hnone]

theorem locate_path (hstands : Stands disk.tree goal) (hreach : IsInReach goal) :
    disk.locate true goal.path = .ok goal := by
  rw [locate, if_neg (Nat.not_lt.mpr hreach)]
  exact hstands.follow true FileTree.maxLinks

theorem look_path (hsound : disk.tree.IsSound) (hstands : Stands disk.tree goal)
    (hreach : IsInReach goal) (hnode : disk.tree.get? goal = some node) :
    disk.look goal.path = .ok node := by
  rw [look, checkNull_path hsound hnode]
  simp only [bind, Except.bind, locate_path hstands hreach, hnode]

/-- Looking at the path of a place fails at most for its length. -/
theorem look_path_or (hsound : disk.tree.IsSound) (hstands : Stands disk.tree goal)
    (hnode : disk.tree.get? goal = some node) :
    disk.look goal.path = .ok node ∨
      disk.look goal.path = .error (.system .nameTooLong goal.path.text) := by
  by_cases hreach : IsInReach goal
  · exact .inl (look_path hsound hstands hreach hnode)
  · right
    rw [IsInReach, Nat.not_le] at hreach
    rw [look, checkNull_path hsound hnode]
    simp only [bind, Except.bind, locate, if_pos hreach]

/-! ## Final paths -/

/-- The walk over a path starts at a place that stands. -/
theorem stands_start (hcwd : Stands disk.tree disk.cwd) (path : Path) :
    Stands disk.tree (if path.isAbsolute then [] else disk.cwd) := by
  split_ifs
  · exact FileTree.stands_nil disk.tree
  · exact hcwd

/-- Where a whole walk along a path leads, the path is resolved. -/
theorem resolve_of_leads (hsound : disk.tree.IsSound) (hcwd : Stands disk.tree disk.cwd)
    (hnull : ∀ part ∈ path.parts, '\x00' ∉ part)
    (hleads : Leads disk.tree n (if path.isAbsolute then [] else disk.cwd) path.parts goal)
    (hnode : disk.tree.get? goal = some node) : disk.resolve false path = .ok goal.path := by
  have hstart : Stands disk.tree (FileTree.Spot.place disk.cwd ⟨path.isAbsolute, []⟩) :=
    stands_start hcwd path
  have hpending : ∀ name, .part name ∈ path.parts.map FileTree.Pending.part → '\x00' ∉ name := by
    intro name hmem
    obtain ⟨_, hpart, heq⟩ := List.mem_map.mp hmem
    cases heq
    exact hnull name hpart
  have hplace : FileTree.Spot.place disk.cwd ⟨path.isAbsolute, []⟩ =
      if path.isAbsolute then [] else disk.cwd := rfl
  obtain ⟨arrival, hwalk⟩ :=
    FileTree.exists_arrival hsound [] ⟨path.isAbsolute, []⟩ disk.cwd hpending
  obtain ⟨spot, rfl, hspot⟩ := FileTree.exists_final_of_leads hstart (hplace ▸ hleads) hwalk
  have hfinal : disk.walk false path = .ok (.final spot) := hwalk
  have hgoal : Stands disk.tree goal := hstart.leads (hplace ▸ hleads)
  rw [resolve, hfinal]
  simp only [bind, Except.bind, FileTree.Arrival.path, hspot, Bool.false_eq_true, if_false]
  -- the place is looked at once more, but at most its length can be in the way
  rcases look_path_or hsound hgoal hnode with hlook | hlook <;> rw [hlook]

theorem no_null_of_look (h : disk.look path = .ok node) : ∀ part ∈ path.parts, '\x00' ∉ part := by
  rw [look, bind_eq_ok_iff] at h
  obtain ⟨_, hcheck, -⟩ := h
  rw [checkNull] at hcheck
  split_ifs at hcheck with hnull
  intro part hpart hmem
  exact hnull (List.any_eq_true.mpr ⟨part, hpart, List.contains_iff_mem.mpr hmem⟩)

/-- Where the system arrives, a whole walk leads. -/
theorem exists_leads_of_locate (h : disk.locate true path = .ok goal) :
    ∃ n, Leads disk.tree n (if path.isAbsolute then [] else disk.cwd) path.parts goal := by
  rw [locate] at h
  split at h
  · cases h
  · exact FileTree.exists_leads_of_follow h

/-- By the parts, the system is led from a directory down to an entry, and so it is from the final path
    of the directory. -/
structure IsBelow (disk : Disk) (directory : Path) (parts : List Chars) (node : Node)
    (floor goal : Place) : Prop where
  /-- The system finds the directory at `floor`, and this is its final path. -/
  floor_eq : disk.locate true directory = .ok floor
  resolve_floor : disk.resolve false directory = .ok floor.path
  resolve_final : disk.resolve false floor.path = .ok floor.path
  stands_floor : Stands disk.tree floor
  /-- The system finds the entry at `goal`, and from the final path of the directory too. -/
  goal_eq : disk.locate true { directory with parts := directory.parts ++ parts } = .ok goal
  resolve_goal : disk.resolve false (floor.path.append ⟨.relative, parts⟩) = .ok goal.path
  stands_goal : Stands disk.tree goal
  node_eq : disk.tree.get? goal = some node

/-- A path that the system follows from a directory is resolved to the same place from the final path
    of the directory. -/
theorem exists_isBelow (hsound : disk.tree.IsSound) (hcwd : Stands disk.tree disk.cwd)
    {directory : Path} {parts : List Chars} {base : Node} (hbase : disk.look directory = .ok base)
    (hentry : disk.look { directory with parts := directory.parts ++ parts } = .ok node) :
    ∃ floor goal, disk.IsBelow directory parts node floor goal := by
  obtain ⟨floor, hfloor, hfloorNode⟩ := place_of_look hbase
  obtain ⟨goal, hgoal, hnode⟩ := place_of_look hentry
  obtain ⟨_, hdown⟩ := exists_leads_of_locate hfloor
  obtain ⟨_, hall⟩ := exists_leads_of_locate hgoal
  -- the walk to the entry passes through the directory, and goes on from there by the same parts
  obtain ⟨_, _, between, hfront, hrest⟩ := hall.split directory.parts
  obtain ⟨-, rfl⟩ := hfront.deterministic hdown
  have hstands : Stands disk.tree between := (stands_start hcwd directory).leads hdown
  obtain ⟨_, hfromRoot⟩ := hstands.exists_leads
  obtain ⟨_, hpath⟩ := hfromRoot.append hrest
  have hparts := no_null_of_look hentry
  have hnames : ∀ part ∈ between, '\x00' ∉ part := fun part hpart =>
    (hsound.names_of_get? hfloorNode part hpart).2.2
  refine ⟨between, goal, hfloor, ?_, ?_, hstands, hgoal, ?_, hstands.leads hrest, hnode⟩
  · exact resolve_of_leads hsound hcwd (no_null_of_look hbase) hdown hfloorNode
  · exact resolve_of_leads hsound hcwd hnames hfromRoot hfloorNode
  · have happend : between.path.append ⟨.relative, parts⟩ = ⟨.slash, between ++ parts⟩ := rfl
    rw [happend]
    refine resolve_of_leads hsound hcwd (fun part hpart => ?_) hpath hnode
    rcases List.mem_append.mp hpart with hpart | hpart
    · exact hnames part hpart
    · exact hparts part (List.mem_append_right _ hpart)

/-! ## Kinds of entries -/

theorem look?_eq_some_iff : disk.look? path = .ok (some node) ↔ disk.look path = .ok node := by
  rw [look?]
  cases disk.look path with
  | ok found => simp
  | error fault =>
    refine ⟨fun h => ?_, fun h => by cases h⟩
    split at h
    · next hok => cases hok
    all_goals cases h

theorem hasDirectory_eq_true_iff :
    disk.hasDirectory path = .ok true ↔ disk.look path = .ok .directory := by
  rw [← look?_eq_some_iff, hasDirectory]
  cases disk.look? path with
  | error fault => simp [Except.map]
  | ok found => simp [Except.map]

theorem hasFile_eq_true_iff :
    disk.hasFile path = .ok true ↔ ∃ content, disk.look path = .ok (.file content) := by
  simp only [← look?_eq_some_iff, hasFile]
  cases disk.look? path with
  | error fault => simp [Except.map]
  | ok found =>
    cases found with
    | none => simp [Except.map]
    | some node => cases node <;> simp [Except.map]

theorem read_of_look {content : Text.Octets} (h : disk.look path = .ok (.file content)) :
    disk.read path = .ok content := by
  rw [read, h]
  rfl

end Disk

end ScriptReport

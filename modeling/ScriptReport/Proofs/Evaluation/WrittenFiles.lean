/-
  ScriptReport.Proofs.Evaluation.WrittenFiles

  Which files change while code is run. A call of the interpreter makes directories and runs a
  process; a run gives up its context at the end, which removes the context file. So a file that is
  another one behind a run has been written by the process of one of its calls, or it is the
  context file: main statement `keepsFile_of_evaluate`.
-/

import ScriptReport.Proofs.Evaluation.LeftOver
import ScriptReport.Proofs.Files.KeptWays

namespace ScriptReport

/-! ## Files that stay -/

theorem FileTree.get?_erase {tree : FileTree} {place other : Place} (h : other ≠ place) :
    (tree.erase place).get? other = tree.get? other := by
  have hfind (entries : List (Place × Node)) :
      findEntry other (entries.filter fun entry => entry.1 ≠ place) = findEntry other entries := by
    induction entries with
    | nil => rfl
    | cons entry rest ih =>
      by_cases hentry : entry.1 = place
      · -- the entry that is taken out is not the one that is looked for
        rw [List.filter_cons_of_neg (by simp [hentry]), ih, findEntry, if_neg]
        rw [hentry]
        exact Ne.symm h
      · rw [List.filter_cons_of_pos (by simpa using hentry), findEntry, findEntry, ih]
  rw [get?, get?, erase, hfind]

namespace Disk

variable {disk disk' disk'' : Disk} {path : Path} {place other : Place}

/-- The same file stands at the place on both disks, or none on either. -/
def KeepsFile (disk disk' : Disk) (place : Place) : Prop :=
  ∀ content, disk'.tree.get? place = some (.file content) ↔
    disk.tree.get? place = some (.file content)

theorem keepsFile_of_eq (h : disk'.tree.get? place = disk.tree.get? place) :
    KeepsFile disk disk' place := fun content => by rw [h]

theorem KeepsFile.trans (h : KeepsFile disk disk' place) (h' : KeepsFile disk' disk'' place) :
    KeepsFile disk disk'' place := fun content => (h' content).trans (h content)

theorem AddsDirectories.keepsFile (h : AddsDirectories disk disk') (place : Place) :
    KeepsFile disk disk' place := fun _ => h.get?_file_iff

/-- Removing an entry changes the place that the path leads to. -/
theorem get?_of_remove (h : disk.remove path = .ok disk') (hplace : disk.locate false path ≠ .ok place) :
    disk'.tree.get? place = disk.tree.get? place := by
  rw [remove, bind_eq_ok_iff] at h
  obtain ⟨_, -, h⟩ := h
  split at h
  · cases h
  · next removed hlocate =>
    split at h
    · cases h
    · cases h
      refine FileTree.get?_erase ?_
      rintro rfl
      exact hplace hlocate
    · cases h

end Disk

namespace Evaluation

open ScriptReport.Script

/-! ## States along a run -/

section States

variable {σ κ : Type} (e : Evaluator σ κ)

/-- The state behind segments is that behind their calls. -/
theorem state_runSegments (catchError : Bool) (limit : Option Int) (position : Nat)
    (segments : List Segment) (context : κ) (s : σ) :
    (runSegments e catchError limit segments context s).state =
      (callsFor e catchError (tasksFrom position segments) context s).2 := by
  induction segments generalizing position context s with
  | nil => rfl
  | cons segment rest ih =>
    cases segment with
    | header h => exact ih (position + 1) context s
    | code c =>
      rcases hcall : e.callFor (.segment position c) context s with ⟨call, s'⟩
      rw [runSegments_captured hcall, tasksFrom]
      by_cases hfatal : call.isFatal catchError = true
      · rw [if_pos hfatal, callsFor_of_fatal hcall hfatal]
      · rw [if_neg hfatal]
        rw [Bool.not_eq_true] at hfatal
        rw [callsFor_of_goes_on hcall hfatal]
        exact ih (position + 1) _ s'

theorem state_progress (o : Options) (doc : Document) (context : κ) (s : σ) :
    (progress e o doc context s).state = (callsFor e o.catchError (tasks o doc) context s).2 := by
  by_cases hblank : Text.isBlank o.codeToEvaluate = true
  · rw [progress_of_blank hblank, tasks_of_blank hblank]
    exact state_runSegments e o.catchError o.maxOutputLines 0 doc.body context s
  · rcases hcall : e.callFor (.prelude o.codeToEvaluate) context s with ⟨call, s'⟩
    rw [progress_of_not_blank hblank hcall, tasks_of_not_blank hblank]
    by_cases hfatal : call.isFatal o.catchError = true
    · rw [if_pos hfatal, callsFor_of_fatal hcall hfatal]
    · rw [if_neg hfatal]
      rw [Bool.not_eq_true] at hfatal
      rw [callsFor_of_goes_on hcall hfatal]
      exact state_runSegments e o.catchError o.maxOutputLines 0 doc.body _ s'

/-- The calls of a document lead from the state it starts in to the one before its context is given
    up. -/
theorem answered_callsOf (o : Options) (doc : Document) (s : σ) :
    Answered e (e.start s).2 (e.callsOf o doc s)
      (progress e o doc (e.start s).1 (e.start s).2).state := by
  rw [state_progress]
  exact answered_callsFor e o.catchError (tasks o doc) (e.start s).1 (e.start s).2

end States

namespace Interpreter

variable {i : Interpreter} {code : Chars} {context : Option Path} {bench bench' : Bench}
  {answer : Except Fault (Outcome (Option Path))} {calls : List (Call (Option Path))}
  {place : Place} {w ready : World} {o : Options} {doc : Document}

/-! ## One call -/

/-- The process of a call makes or rewrites the place. -/
def CallWrites (i : Interpreter) (code : Chars) (context : Option Path) (bench : Bench)
    (place : Place) : Prop :=
  ∃ ready after reply, i.prepare (contextOr context bench.2).2 = (ready, none) ∧
    ready.start (i.command ++ [scriptName])
      (i.script (bench.1 + 1) code (contextOr context bench.2).1) = (reply, after) ∧
    reply.cannotStart = false ∧ World.Writes ready.disk reply.creates place

theorem disk_contextOr (context : Option Path) (w : World) :
    (contextOr context w).2.disk = w.disk := by
  cases context <;> rfl

theorem addsDirectories_of_prepare {fault : Option FileFault} (h : i.prepare w = (ready, fault)) :
    w.disk.AddsDirectories ready.disk := by
  rw [prepare] at h
  cases hdirectory : i.figureDir with
  | none =>
    rw [hdirectory] at h
    cases h
    exact .refl w.disk
  | some directory =>
    rw [hdirectory] at h
    cases h
    exact w.disk.addsDirectories_makeDirectories directory

/-- A process that is started leaves all files as they are but those that it writes. -/
theorem keepsFile_of_start {command : List Chars} {script : Chars} {reply : ProcessReply}
    {after : World} (h : ready.start command script = (reply, after))
    (hplace : ¬ (reply.cannotStart = false ∧ World.Writes ready.disk reply.creates place)) :
    ready.disk.KeepsFile after.disk place := by
  cases hstarted : reply.cannotStart with
  | true =>
    -- nothing has been run
    unfold World.start at h
    cases h
    exact Disk.keepsFile_of_eq (by simp only [hstarted, if_true])
  | false =>
    have hkept : ¬ World.Writes ready.disk reply.creates place := fun hwrites =>
      hplace ⟨hstarted, hwrites⟩
    apply Disk.keepsFile_of_eq
    rw [disk_of_start h hstarted]
    exact World.get?_foldl_createEmpty hkept

/-- A call leaves all files as they are but those that its process writes. -/
theorem keepsFile_of_call (h : i.evaluator.call code context bench = (answer, bench'))
    (hplace : ¬ i.CallWrites code context bench place) :
    bench.2.disk.KeepsFile bench'.2.disk place := by
  obtain ⟨n, w⟩ := bench
  have hready {ready : World} {fault : Option FileFault}
      (hprepared : i.prepare (contextOr context w).2 = (ready, fault)) :
      w.disk.KeepsFile ready.disk place := by
    have hadds := addsDirectories_of_prepare hprepared
    rw [disk_contextOr] at hadds
    exact hadds.keepsFile place
  cases isCall_of_call h with
  | blank => exact Disk.keepsFile_of_eq (by rw [disk_contextOr])
  | noDirectory _ prepared => exact hready prepared
  | started _ prepared process =>
    refine (hready prepared).trans (keepsFile_of_start process ?_)
    rintro ⟨hstarted, hwrites⟩
    exact hplace ⟨_, _, _, prepared, process, hstarted, hwrites⟩

/-! ## Runs -/

/-- A run has a call whose process makes or rewrites the place. -/
def RunWrites (i : Interpreter) (start : Bench) (calls : List (Call (Option Path)))
    (place : Place) : Prop :=
  ∃ front call back before, calls = front ++ call :: back ∧
    Answered i.evaluator start front before ∧
    i.CallWrites call.task.code call.context before place

theorem keepsFile_of_answered (h : Answered i.evaluator bench calls bench')
    (hplace : ¬ i.RunWrites bench calls place) : bench.2.disk.KeepsFile bench'.2.disk place := by
  induction h with
  | nil => exact Disk.keepsFile_of_eq rfl
  | @cons s between stop call rest answer others ih =>
    -- what the first call leaves as it is, the others find so
    have hfirst : s.2.disk.KeepsFile between.2.disk place := by
      refine keepsFile_of_call answer fun hwrites => ?_
      exact hplace ⟨[], call, rest, s, rfl, .nil s, hwrites⟩
    refine hfirst.trans (ih ?_)
    rintro ⟨front, later, back, before, rfl, hfront, hwrites⟩
    exact hplace ⟨call :: front, later, back, before, rfl, .cons answer hfront, hwrites⟩

/-- Giving up a context changes only the place of the context file. -/
theorem keepsFile_of_discard {gone : Except Fault Unit}
    (h : discard context bench = (gone, bench'))
    (hplace : ∀ path ∈ context, bench.2.disk.locate false path ≠ .ok place) :
    bench.2.disk.KeepsFile bench'.2.disk place := by
  obtain ⟨n, w⟩ := bench
  rw [discard.eq_def] at h
  cases context with
  | none =>
    cases h
    exact Disk.keepsFile_of_eq rfl
  | some path =>
    simp only at h
    split at h
    · cases h
      exact Disk.keepsFile_of_eq rfl
    · cases h
      exact Disk.keepsFile_of_eq rfl
    · -- the file is there, and is removed if it can be
      split at h
      · next hremove =>
        cases h
        exact Disk.keepsFile_of_eq (Disk.get?_of_remove hremove (hplace path rfl))
      · cases h
        exact Disk.keepsFile_of_eq rfl

theorem keepsFile_of_giveUp
    (hplace : ∀ path ∈ context, bench.2.disk.locate false path ≠ .ok place) :
    bench.2.disk.KeepsFile (i.evaluator.giveUp context bench).2.2.disk place := by
  rcases hdiscard : discard context bench with ⟨gone, bench'⟩
  have hkept := keepsFile_of_discard hdiscard hplace
  unfold Evaluator.giveUp evaluator
  simp only [hdiscard]
  cases gone with
  | ok => exact hkept
  | error fault => exact hkept

/-- How a file comes to be another one behind the code of a document: the process of one of the calls
    makes or rewrites it, or it is the context file, which is removed at the end. -/
inductive Alters (i : Interpreter) (o : Options) (doc : Document) (bench : Bench) (place : Place) :
    Prop where
  | written (h : i.RunWrites (i.evaluator.start bench).2 (i.evaluator.callsOf o doc bench) place)
  | context {stop : Bench} {path : Path}
      (reached : Answered i.evaluator (i.evaluator.start bench).2 (i.evaluator.callsOf o doc bench)
        stop)
      (h : stop.2.disk.locate false path = .ok place)

/-- All other files are behind the code of a document what they were before. -/
theorem keepsFile_of_evaluate (hplace : ¬ i.Alters o doc bench place) :
    bench.2.disk.KeepsFile (evaluate i.evaluator o doc bench).2.2.2.disk place := by
  have hrun := answered_callsOf i.evaluator o doc bench
  rw [evaluate_eq]
  -- the context is made, the calls follow, and the context is given up
  have hstart : bench.2.disk.KeepsFile (i.evaluator.start bench).2.2.disk place :=
    Disk.keepsFile_of_eq rfl
  have hcalls := keepsFile_of_answered hrun fun hwrites => hplace (.written hwrites)
  refine (hstart.trans hcalls).trans (keepsFile_of_giveUp fun path _ hlocate => ?_)
  exact hplace (.context hrun hlocate)

end Interpreter

end Evaluation

end ScriptReport

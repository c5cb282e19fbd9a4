/-
  ScriptReport.Proofs.Evaluation.FigureRun

  The numbers of figures along a run of the interpreter. A call takes the next number before anything
  can fail in it, exactly if it has code to run; what it lists is the figures of that number. So
  along any run the number is that of the calls that ran code (`numbersFigures_of_answered`), and
  since a script is read into segments that are not blank, a segment of a document has the number of
  its position. Main statement: `figures_numbered`.
-/

import Mathlib
import ScriptReport.Proofs.Evaluation.FigureList
import ScriptReport.Proofs.Evaluation.Positions

namespace ScriptReport.Evaluation

open ScriptReport.Script

/-- The call has code to run. -/
def Call.runsCode {κ : Type} (call : Call κ) : Bool := !Text.isBlank call.task.code

namespace Interpreter

variable {i : Interpreter}

/-! ## One call -/

/-- Everything a call can do. Blank code is passed over; else the call takes the next number, and then
    stops without a figure directory, or runs a process. -/
inductive IsCall (i : Interpreter) (code : Chars) (context : Option Path) (n : Nat) (w : World) :
    Except Fault (Outcome (Option Path)) → Bench → Prop where
  | blank (h : Text.isBlank code = true) :
      IsCall i code context n w (.ok { context := some (contextOr context w).1 })
        (n, (contextOr context w).2)
  | noDirectory {ready : World} {fault : FileFault} (h : Text.isBlank code = false)
      (prepared : i.prepare (contextOr context w).2 = (ready, some fault)) :
      IsCall i code context n w (.error (.file fault)) (n + 1, ready)
  | started {ready after : World} {reply : ProcessReply} (h : Text.isBlank code = false)
      (prepared : i.prepare (contextOr context w).2 = (ready, none))
      (process : ready.start (i.command ++ [scriptName])
        (i.script (n + 1) code (contextOr context w).1) = (reply, after)) :
      IsCall i code context n w
        (i.finish (n + 1) (contextOr context w).1 reply after.disk) (n + 1, after)

variable {code : Chars} {context : Option Path} {n n' : Nat} {w w' : World} {bench : Bench}
  {answer : Except Fault (Outcome (Option Path))} {outcome : Outcome (Option Path)}

theorem isCall_of_call (h : i.evaluator.call code context (n, w) = (answer, bench)) :
    IsCall i code context n w answer bench := by
  have hcall : i.evaluator.call code context (n, w) = i.call code context (n, w) := rfl
  rw [hcall, call] at h
  rcases hcontext : contextOr context w with ⟨path, w₀⟩
  simp only [hcontext] at h
  have hpath : (contextOr context w).1 = path := by rw [hcontext]
  have hworld : (contextOr context w).2 = w₀ := by rw [hcontext]
  cases hblank : Text.isBlank code with
  | true =>
    rw [if_pos hblank] at h
    cases h
    rw [← hpath, ← hworld]
    exact .blank hblank
  | false =>
    rw [if_neg (by rw [hblank]; exact Bool.false_ne_true)] at h
    rcases hprepare : i.prepare w₀ with ⟨ready, none | fault⟩
    · rw [hprepare] at h
      rcases hstart : ready.start (i.command ++ [scriptName]) (i.script (n + 1) code path) with
        ⟨reply, after⟩
      simp only [hstart] at h
      cases h
      rw [← hpath]
      exact .started hblank (by rw [hworld, hprepare]) (by rw [hpath, hstart])
    · rw [hprepare] at h
      cases h
      exact .noDirectory hblank (by rw [hworld, hprepare])

/-- A process that is run to an answer has succeeded, and what the call lists is what is found
    behind it. -/
theorem figures_of_finish {counter : Nat} {path : Path} {reply : ProcessReply} {disk : Disk}
    (hdirectory : i.figureDir.isSome = true) (h : i.finish counter path reply disk = .ok outcome) :
    reply.cannotStart = false ∧ i.figures disk counter = .ok outcome.graphics := by
  rw [finish, if_pos hdirectory] at h
  split at h
  · split at h <;> cases h
  next hstarted =>
  split at h
  · cases h
  split at h
  · cases h
  split at h
  · next graphics hgraphics =>
    cases h
    exact ⟨Bool.eq_false_iff.mpr hstarted, hgraphics⟩
  · cases h

/-- The number that a call takes does not depend on how it goes. -/
theorem number_of_call (h : i.evaluator.call code context (n, w) = (answer, bench)) :
    bench.1 = n + if !Text.isBlank code then 1 else 0 := by
  cases isCall_of_call h with
  | blank hblank => rw [hblank]; rfl
  | noDirectory hblank => rw [hblank]; rfl
  | started hblank => rw [hblank]; rfl

/-- A call without code lists nothing. -/
theorem graphics_of_blank (h : i.evaluator.call code context (n, w) = (.ok outcome, bench))
    (hblank : Text.isBlank code = true) : outcome.graphics = [] := by
  generalize hanswer : Except.ok outcome = answer at h
  cases isCall_of_call h with
  | blank =>
    cases hanswer
    rfl
  | noDirectory => cases hanswer
  | started hcode =>
    rw [hblank] at hcode
    cases hcode

/-- A successful call with code has run a process, and lists the figures of its number that stand on
    the disk behind it. -/
theorem started_of_ok (hdirectory : i.figureDir.isSome = true)
    (h : i.evaluator.call code context (n, w) = (.ok outcome, bench))
    (hcode : Text.isBlank code = false) :
    ∃ ready after reply count, i.prepare (contextOr context w).2 = (ready, none) ∧
      ready.start (i.command ++ [scriptName]) (i.script (n + 1) code (contextOr context w).1) =
        (reply, after) ∧
      reply.cannotStart = false ∧ bench = (n + 1, after) ∧
      AreFigures i after.disk (n + 1) count ∧
      outcome.graphics = i.figureNames after.disk.cwd (n + 1) count := by
  generalize hanswer : Except.ok outcome = answer at h
  cases isCall_of_call h with
  | blank hblank =>
    rw [hcode] at hblank
    cases hblank
  | noDirectory => cases hanswer
  | started _ prepared process =>
    obtain ⟨hstarted, hlisted⟩ := figures_of_finish hdirectory hanswer.symm
    obtain ⟨count, hfigures, hnames⟩ := figures_eq_ok_iff.mp hlisted
    exact ⟨_, _, _, count, prepared, process, hstarted, rfl, hfigures, hnames⟩

/-! ## Runs of calls -/

variable {calls : List (Call (Option Path))} {start stop : Bench}

/-- Along a run the number is that of the calls with code, failed ones included. -/
theorem number_of_answered (h : Answered i.evaluator start calls stop) :
    stop.1 = start.1 + calls.countP Call.runsCode := by
  induction h with
  | nil s => rfl
  | @cons s between stop call rest answer others ih =>
    have hfirst : between.1 = s.1 + if call.runsCode then 1 else 0 := number_of_call answer
    rw [ih, hfirst, List.countP_cons]
    omega

/-- The names are those of the figures of a number that stand on the disk right behind the call at a
    position of a run. -/
def ListedBehind (i : Interpreter) (start : Bench) (calls : List (Call (Option Path)))
    (position number : Nat) (names : List Chars) : Prop :=
  ∃ n w count, Answered i.evaluator start (calls.take (position + 1)) (n, w) ∧
    AreFigures i w.disk number count ∧ names = i.figureNames w.disk.cwd number count

/-- What a run numbers its figures by: `Answered` from `start` with these calls. -/
structure NumbersFigures (i : Interpreter) (start : Bench) (calls : List (Call (Option Path)))
    (stop : Bench) : Prop where
  number : stop.1 = start.1 + calls.countP Call.runsCode
  /-- A call with code lists the figures that have the number of calls with code up to it. -/
  listed : ∀ (position : Nat) (call : Call (Option Path)) (outcome : Outcome (Option Path)),
    calls[position]? = some call → call.answer = .ok outcome → call.runsCode = true →
    ListedBehind i start calls position
      (start.1 + (calls.take (position + 1)).countP Call.runsCode) outcome.graphics
  /-- A call without code lists nothing. -/
  blank : ∀ (position : Nat) (call : Call (Option Path)) (outcome : Outcome (Option Path)),
    calls[position]? = some call → call.answer = .ok outcome → call.runsCode = false →
    outcome.graphics = []
  /-- Lists of different calls have no name in common, unless the names are those of parts behind
      the numbered ones. -/
  apart : ∀ (j k : Nat) (call call' : Call (Option Path)) (outcome outcome' : Outcome (Option Path)),
    j < k → calls[j]? = some call → calls[k]? = some call' →
    call.answer = .ok outcome → call'.answer = .ok outcome' →
    (List.Disjoint outcome.graphics outcome'.graphics ↔
      i.tail = [] ∨ outcome.graphics = [] ∨ outcome'.graphics = [])

theorem listedBehind_of_answered (hdirectory : i.figureDir.isSome = true)
    (h : Answered i.evaluator start calls stop) {position : Nat} {call : Call (Option Path)}
    (hcall : calls[position]? = some call) (hanswer : call.answer = .ok outcome)
    (hcode : call.runsCode = true) :
    ListedBehind i start calls position
      (start.1 + (calls.take (position + 1)).countP Call.runsCode) outcome.graphics := by
  obtain ⟨before, behind, -, hstep, htake, -⟩ := h.call_at hcall
  rw [hanswer] at hstep
  have hnot : Text.isBlank call.task.code = false := by
    simpa [Call.runsCode] using hcode
  obtain ⟨_, after, _, count, -, -, -, rfl, hfigures, hnames⟩ := started_of_ok hdirectory hstep hnot
  have hnumber : before.1 + 1 =
      start.1 + (calls.take (position + 1)).countP Call.runsCode := number_of_answered htake
  rw [hnumber] at hfigures hnames
  exact ⟨before.1 + 1, after, count, htake, hfigures, hnames⟩

theorem graphics_of_not_runsCode (h : Answered i.evaluator start calls stop) {position : Nat}
    {call : Call (Option Path)} (hcall : calls[position]? = some call)
    (hanswer : call.answer = .ok outcome) (hblank : call.runsCode = false) :
    outcome.graphics = [] := by
  obtain ⟨before, behind, -, hstep, -, -⟩ := h.call_at hcall
  rw [hanswer] at hstep
  exact graphics_of_blank hstep (by simpa [Call.runsCode] using hblank)

/-- A call with code raises the number of calls with code. -/
theorem countP_take_lt {j k : Nat} {call : Call (Option Path)} (hjk : j < k)
    (hcall : calls[k]? = some call) (hcode : call.runsCode = true) :
    (calls.take (j + 1)).countP Call.runsCode < (calls.take (k + 1)).countP Call.runsCode := by
  have hle : (calls.take (j + 1)).countP Call.runsCode ≤ (calls.take k).countP Call.runsCode :=
    (List.take_sublist_take_left hjk).countP_le
  rw [List.take_add_one (i := k), hcall, List.countP_append, Option.toList_some,
    List.countP_singleton, if_pos hcode]
  omega

theorem disjoint_of_answered (hdirectory : i.figureDir.isSome = true)
    (h : Answered i.evaluator start calls stop) {j k : Nat} {call call' : Call (Option Path)}
    {outcome' : Outcome (Option Path)} (hjk : j < k) (hcall : calls[j]? = some call)
    (hcall' : calls[k]? = some call') (hanswer : call.answer = .ok outcome)
    (hanswer' : call'.answer = .ok outcome') :
    List.Disjoint outcome.graphics outcome'.graphics ↔
      i.tail = [] ∨ outcome.graphics = [] ∨ outcome'.graphics = [] := by
  cases hcode : call.runsCode with
  | false =>
    have hnil := graphics_of_not_runsCode h hcall hanswer hcode
    simp [hnil]
  | true =>
    cases hcode' : call'.runsCode with
    | false =>
      have hnil := graphics_of_not_runsCode h hcall' hanswer' hcode'
      simp [hnil]
    | true =>
      -- both have code, so the later call has a greater number
      obtain ⟨_, w, m, -, -, hnames⟩ := listedBehind_of_answered hdirectory h hcall hanswer hcode
      obtain ⟨_, w', n, -, -, hnames'⟩ :=
        listedBehind_of_answered hdirectory h hcall' hanswer' hcode'
      have hlt := countP_take_lt hjk hcall' hcode'
      rw [hnames, hnames', disjoint_figureNames_iff (by omega), figureNames_eq_nil_iff,
        figureNames_eq_nil_iff]

theorem numbersFigures_of_answered (hdirectory : i.figureDir.isSome = true)
    (h : Answered i.evaluator start calls stop) : NumbersFigures i start calls stop where
  number := number_of_answered h
  listed := fun _ _ _ hcall hanswer hcode => listedBehind_of_answered hdirectory h hcall hanswer hcode
  blank := fun _ _ _ hcall hanswer hblank => graphics_of_not_runsCode h hcall hanswer hblank
  apart := fun _ _ _ _ _ _ hjk hcall hcall' hanswer hanswer' =>
    disjoint_of_answered hdirectory h hjk hcall hcall' hanswer hanswer'

end Interpreter

/-! ## Runs of scripts -/

namespace Interpreter

variable {i : Interpreter} {comments : List Chars} {sourceName : Chars} {lines : List Chars}
  {o : Options} {s : Bench}

/-- All code that a script has to run is not blank. -/
theorem not_isBlank_of_mem_tasks {task : Task}
    (h : task ∈ tasks o (Script.read comments sourceName lines).1) :
    Text.isBlank task.code = false := by
  rcases List.mem_append.mp h with hprelude | hsegment
  · split at hprelude
    · cases hprelude
    · next hblank =>
      rw [List.mem_singleton.mp hprelude]
      exact Bool.eq_false_iff.mpr hblank
  · obtain ⟨⟨position, c⟩, hmem, rfl⟩ := List.mem_map.mp hsegment
    have hbody : .code c ∈ (Script.read comments sourceName lines).1.body := by
      unfold Document.codeSegments at hmem
      obtain ⟨⟨segment, k⟩, hsegment, hcode⟩ := List.mem_filterMap.mp hmem
      cases segment with
      | header h => cases hcode
      | code found =>
        cases hcode
        exact List.fst_mem_of_mem_zipIdx hsegment
    exact not_isBlank_of_read hbody

/-- All calls for a script run code. -/
theorem runsCode_of_mem_callsOf {call : Call (Option Path)}
    (h : call ∈ i.evaluator.callsOf o (Script.read comments sourceName lines).1 s) :
    call.runsCode = true := by
  have htask : call.task ∈ tasks o (Script.read comments sourceName lines).1 :=
    (callsFor_in_order _ _ _ _ _).subset (List.mem_map_of_mem h)
  rw [Call.runsCode, not_isBlank_of_mem_tasks htask]
  rfl

theorem countP_take_callsOf {position : Nat} {call : Call (Option Path)}
    (h : (i.evaluator.callsOf o (Script.read comments sourceName lines).1 s)[position]? =
      some call) :
    ((i.evaluator.callsOf o (Script.read comments sourceName lines).1 s).take (position + 1)).countP
      Call.runsCode = position + 1 := by
  have hposition := (List.getElem?_eq_some_iff.mp h).1
  rw [List.countP_eq_length.mpr fun call hcall => runsCode_of_mem_callsOf (List.mem_of_mem_take hcall),
    List.length_take]
  omega

/-- The result of a segment of code either is an error without figures, or lists the figures that are
    numbered by the segment's place among the calls. Places of segments count from zero. -/
def IsNumbered (i : Interpreter) (o : Options) (doc : Document) (start : Bench) (place : Nat)
    (r : ExecutionResult) : Prop :=
  if r.error.isSome then r.graphics = []
  else
    ListedBehind i (i.evaluator.start start).2 (i.evaluator.callsOf o doc start)
      (preludeCount o + place) (preludeCount o + place + 1) r.graphics

theorem isNumbered_of_evaluate (hdirectory : i.figureDir.isSome = true) {w : World} {k : Nat}
    {r : ExecutionResult}
    (h : (evaluate i.evaluator o (Script.read comments sourceName lines).1 (0, w)).1.results[k]? =
      some (some r)) :
    IsNumbered i o (Script.read comments sourceName lines).1 (0, w) k r := by
  obtain ⟨call, hcall, hgoes, rfl⟩ := exists_call_of_evaluate (read_bare sourceName lines) h
  rw [IsNumbered, graphics_truncated, error_truncated]
  rcases captured_cases hgoes with ⟨outcome, hanswer, herror, hgraphics⟩ | ⟨_, herror, hgraphics⟩
  · have hrun : Answered i.evaluator (i.evaluator.start (0, w)).2
        (i.evaluator.callsOf o (Script.read comments sourceName lines).1 (0, w)) _ :=
      answered_callsFor _ _ _ _ _
    have hlisted := listedBehind_of_answered hdirectory hrun hcall hanswer
      (runsCode_of_mem_callsOf (List.mem_of_getElem? hcall))
    rw [countP_take_callsOf hcall] at hlisted
    -- naming a context file takes no number
    have hstart : (i.evaluator.start (0, w)).2.1 = 0 := rfl
    rw [hstart, Nat.zero_add] at hlisted
    rw [herror, hgraphics]
    exact hlisted
  · rw [herror, hgraphics]
    rfl

/-- How figures are numbered, with a figure directory: along any run of calls, and in the results of
    any script, the k-th segment of which has number k, or k + 1 behind code that is run first. The
    names are those of the numbered parts unless an image format with a slash adds further parts. -/
theorem figures_numbered (hdirectory : i.figureDir.isSome = true) (w : World) :
    (∀ calls stop, Answered i.evaluator (0, w) calls stop → NumbersFigures i (0, w) calls stop) ∧
    (i.tail = [] → ∀ cwd number count, i.figureNames cwd number count =
      (List.range count).map fun k => i.label number (k + 1)) ∧
    ('/' ∉ i.figurePrefix → '/' ∉ extension i.imageFormat →
      i.tail = [] ∧ ∀ number k, i.label number k = i.figureName number (Text.padded 2 k)) ∧
    ∀ comments sourceName lines o k r,
      (evaluate i.evaluator o (Script.read comments sourceName lines).1 (0, w)).1.results[k]? =
          some (some r) →
        IsNumbered i o (Script.read comments sourceName lines).1 (0, w) k r := by
  refine ⟨fun calls stop => numbersFigures_of_answered hdirectory, fun htail cwd number count => ?_,
    fun hfront hextension => ?_, fun _ _ _ _ _ _ => isNumbered_of_evaluate hdirectory⟩
  · rw [figureNames_eq, htail]
    rfl
  · exact ⟨tail_eq_nil hextension, fun number k => label_eq_figureName hfront hextension number k⟩

/-- Figures go to a directory of the root. -/
def printer : Interpreter where
  command := ["octave"]
  figureDir := some (Path.ofText "figs")

/-- The first process fails, and the second leaves a figure. -/
def failsFirst : World where
  disk := { tree := ⟨[]⟩, cwd := [], home := "/" }
  replies := [{ status := 1, errors := "error: boom" },
    { creates := [Path.ofText "figs/figure_02_01.png"] }]

/-- A script with two segments of code. -/
def twoSections : List Chars := ["%%", "a", "%%", "b"]

set_option maxRecDepth 2000 in
/-- The second segment's figure has number two, though the first segment failed. -/
theorem figures_numbered_of_failsFirst :
    (evaluate printer.evaluator {} (Script.read ["%"] "s.m" twoSections).1
        (0, failsFirst)).1.results = [
      some { outputLines := ["error: boom", "\tin:", "", "a"], error := some "boom" },
      some { graphics := ["figure_02_01.png"] }] ∧
    IsNumbered printer {} (Script.read ["%"] "s.m" twoSections).1 (0, failsFirst) 1
      { graphics := ["figure_02_01.png"] } := by
  have hresults : (evaluate printer.evaluator {} (Script.read ["%"] "s.m" twoSections).1
      (0, failsFirst)).1.results = [
        some { outputLines := ["error: boom", "\tin:", "", "a"], error := some "boom" },
        some { graphics := ["figure_02_01.png"] }] := by cbv
  refine ⟨hresults, (figures_numbered (by decide) failsFirst).2.2.2 _ _ _ _ _ _ ?_⟩
  rw [hresults]
  rfl

/-- The format has a slash, and so the figures are files in directories that have the numbers. -/
def slashFigures : Interpreter where
  command := ["octave"]
  figureDir := some (Path.ofText "figs")
  imageFormat := "svg/big"

/-- Each of two calls leaves a figure. -/
def twoFigures : World where
  disk := { tree := ⟨[]⟩, cwd := [], home := "/" }
  replies := [{ creates := [Path.ofText "figs/figure_01_01.svg/big"] },
    { creates := [Path.ofText "figs/figure_02_01.svg/big"] }]

set_option maxRecDepth 2000 in
/-- Both calls list their figures by the same name. -/
theorem figures_of_slashFigures :
    let first := slashFigures.call "a" (some (Path.ofText "c.mat")) (0, twoFigures)
    let second := slashFigures.call "b" (some (Path.ofText "c.mat")) first.2
    first.1.toOption.map Outcome.graphics = some (["big"] : List Chars) ∧
      second.1.toOption.map Outcome.graphics = some (["big"] : List Chars) := by
  cbv

end Interpreter

end ScriptReport.Evaluation

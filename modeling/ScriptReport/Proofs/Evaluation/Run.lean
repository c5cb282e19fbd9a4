/-
  ScriptReport.Proofs.Evaluation.Run

  What running the code of a document amounts to: calls of the evaluator from left to right, first
  for the code before the segments, then for each segment of code. A run stops behind the first call
  that is fatal, and otherwise goes through to the end. Main statement: `evaluate_isRun`, which says
  which calls are made and in which contexts, what the segments get from them, how the run ends, and
  that the last context is given up once.

  What one segment does to a run is said once, in `runSegments_captured`; everything about runs
  follows from it by induction on the segments.
-/

import ScriptReport.Evaluation.Scripted
import Mathlib.Data.List.Infix

namespace ScriptReport.Evaluation

open ScriptReport.Script

/-! ## Calls -/

/-- What code is run for. -/
inductive Task where
  /-- The code before the first segment. -/
  | prelude (code : Chars)
  /-- The segment of code at a position of the body. -/
  | segment (position : Nat) (c : CodeSegment)
  deriving DecidableEq, Repr

/-- The code of a task. -/
def Task.code : Task → Chars
  | .prelude code => code
  | .segment _ c => c.code

/-- A call of an evaluator, and what came back. -/
structure Call (κ : Type) where
  task : Task
  context : κ
  answer : Except Fault (Outcome κ)

variable {σ κ : Type}

namespace Call

/-- The call as the evaluator sees it. -/
def request (call : Call κ) : Request κ := .run call.task.code call.context

/-- No further call is made: only errors of segments can be caught. -/
def isFatal (catchError : Bool) (call : Call κ) : Bool :=
  match call.answer, call.task with
  | .ok _, _ => false
  | .error (.evaluation _ _), .segment _ _ => !catchError
  | .error _, _ => true

/-- The context that a call comes back with, if it succeeds. -/
def returned? (call : Call κ) : Option κ :=
  match call.answer with
  | .ok outcome => some outcome.context
  | .error _ => none

/-- The fault of a call that fails. -/
def fault? (call : Call κ) : Option Fault :=
  match call.answer with
  | .ok _ => none
  | .error fault => some fault

end Call

/-- The first lines, as many as the limit allows. -/
def cut (limit : Option Int) (lines : List Chars) : List Chars :=
  match limit with
  | none => lines
  | some n => lines.take n.toNat

/-- What a segment gets from its call: the output, or else the output before the error, the error
    and the code. -/
def Call.result (limit : Option Int) (call : Call κ) : ExecutionResult :=
  match call.answer with
  | .ok outcome => { outputLines := cut limit outcome.outputLines, graphics := outcome.graphics }
  | .error (.evaluation message lines) => {
      outputLines := cut limit (lines ++
        Text.splitOn "\n" ("error: " ++ message ++ "\n\tin:\n\n" ++ call.task.code))
      error := some message }
  | .error _ => {}

/-- The context that the latest success has left, or else the first one. -/
def latestContext (first : κ) (calls : List (Call κ)) : κ :=
  (calls.reverse.findSome? Call.returned?).getD first

/-- The evaluator gives these answers, one after another. -/
inductive Answered (e : Evaluator σ κ) : σ → List (Call κ) → σ → Prop where
  | nil (s : σ) : Answered e s [] s
  | cons {s s' s'' : σ} {call : Call κ} {rest : List (Call κ)}
      (answer : e.call call.task.code call.context s = (call.answer, s'))
      (others : Answered e s' rest s'') : Answered e s (call :: rest) s''

/-! ## Runs -/

/-- The context to start from. -/
def Evaluator.start (e : Evaluator σ κ) (s : σ) : κ × σ :=
  match e.newContext with
  | some make => make s
  | none => (e.noContext, s)

/-- Giving up a context: the fault of that, and the state. -/
def Evaluator.giveUp (e : Evaluator σ κ) (context : κ) (s : σ) : Option Fault × σ :=
  match e.discard with
  | none => (none, s)
  | some discard =>
    match discard context s with
    | (.ok (), s) => (none, s)
    | (.error fault, s) => (some fault, s)

/-- The tasks of segments, the first of which has the given position. -/
def tasksFrom (position : Nat) : List Segment → List Task
  | [] => []
  | .header _ :: rest => tasksFrom (position + 1) rest
  | .code c :: rest => .segment position c :: tasksFrom (position + 1) rest

/-- All there is to run: the code before the segments, unless it is blank, and the code of each
    segment. -/
def tasks (o : Options) (doc : Document) : List Task :=
  (if Text.isBlank o.codeToEvaluate then [] else [.prelude o.codeToEvaluate]) ++
    doc.codeSegments.map fun (position, c) => .segment position c

/-- The call for a task, and the state behind it. -/
def Evaluator.callFor (e : Evaluator σ κ) (task : Task) (context : κ) (s : σ) : Call κ × σ :=
  let (answer, s) := e.call task.code context s
  (⟨task, context, answer⟩, s)

/-- The calls for the tasks from left to right, up to a fatal one, and the state behind them. -/
def callsFor (e : Evaluator σ κ) (catchError : Bool) :
    List Task → κ → σ → List (Call κ) × σ
  | [], _, s => ([], s)
  | task :: rest, context, s =>
    let (call, s) := e.callFor task context s
    if call.isFatal catchError then ([call], s)
    else
      let (others, s) := callsFor e catchError rest (call.returned?.getD context) s
      (call :: others, s)

/-- What it is to run the code of a document with these calls, `between` being the state behind the
    last of them: `later` is the document afterwards, `fault` what the run ends with. -/
structure IsRun (e : Evaluator σ κ) (o : Options) (doc : Document) (s : σ) (calls : List (Call κ))
    (between : σ) (later : Document) (fault : Option Fault) (s' : σ) : Prop where
  answered : Answered e (e.start s).2 calls between
  in_order : calls.map Call.task <+: tasks o doc
  /-- No call follows a fatal one. -/
  fatal_last : ∀ before call after, calls = before ++ call :: after →
    call.isFatal o.catchError = true → after = []
  complete : (∀ call ∈ calls, call.isFatal o.catchError = false) →
    calls.map Call.task = tasks o doc
  context_eq : ∀ before call after, calls = before ++ call :: after →
    call.context = latestContext (e.start s).1 before
  /-- A segment that the run gets through has the result of its call. -/
  done : ∀ call ∈ calls, ∀ position c, call.task = .segment position c →
    call.isFatal o.catchError = false →
    later.body[position]? = some (.code { c with result := some (call.result o.maxOutputLines) })
  /-- All other segments are as before. -/
  not_done : ∀ position segment, doc.body[position]? = some segment →
    (∀ call ∈ calls, ∀ c, call.task = .segment position c → call.isFatal o.catchError = true) →
    later.body[position]? = some segment
  length_eq : later.body.length = doc.body.length
  rest_eq : later = { doc with body := later.body }
  /-- The last context is given up, and only then the state is that of the end. -/
  given_up : s' = (e.giveUp (latestContext (e.start s).1 calls) between).2
  fault_iff : (e.giveUp (latestContext (e.start s).1 calls) between).1 = none →
    ∀ f, fault = some f ↔
      ∃ call ∈ calls, call.isFatal o.catchError = true ∧ call.answer = .error f
  fault_of_giveUp : ∀ f, (e.giveUp (latestContext (e.start s).1 calls) between).1 = some f →
    fault = some f

/-! ## The calls of a run -/

variable {e : Evaluator σ κ} {catchError : Bool} {limit : Option Int} {task : Task} {context : κ}
  {s s' : σ} {call : Call κ}

theorem call_of_callFor (h : e.callFor task context s = (call, s')) :
    call.task = task ∧ call.context = context ∧
      e.call task.code context s = (call.answer, s') := by
  unfold Evaluator.callFor at h
  cases h
  exact ⟨rfl, rfl, rfl⟩

/-- A fatal call is the last one. -/
theorem callsFor_of_fatal (h : e.callFor task context s = (call, s'))
    (hfatal : call.isFatal catchError = true) (rest : List Task) :
    callsFor e catchError (task :: rest) context s = ([call], s') := by
  rw [callsFor, h]
  exact if_pos hfatal

/-- Behind any other call the rest is done in the context that it leaves. -/
theorem callsFor_of_goes_on (h : e.callFor task context s = (call, s'))
    (hgoes : call.isFatal catchError = false) (rest : List Task) :
    callsFor e catchError (task :: rest) context s =
      (call :: (callsFor e catchError rest (call.returned?.getD context) s').1,
        (callsFor e catchError rest (call.returned?.getD context) s').2) := by
  rw [callsFor, h]
  exact if_neg (Bool.not_eq_true _ ▸ hgoes)

theorem latestContext_cons (first : κ) (call : Call κ) (rest : List (Call κ)) :
    latestContext first (call :: rest) = latestContext (call.returned?.getD first) rest := by
  unfold latestContext
  rw [List.reverse_cons, List.findSome?_append]
  cases rest.reverse.findSome? Call.returned? with
  | some context => rfl
  | none => cases h : call.returned? <;> simp [h]

/-- A fatal call has failed. -/
theorem Call.returned?_of_isFatal (h : call.isFatal catchError = true) :
    call.returned? = none := by
  unfold Call.isFatal at h
  unfold Call.returned?
  cases hanswer : call.answer with
  | ok outcome => simp [hanswer] at h
  | error fault => rfl

/-- What holds of the calls for no tasks, of a fatal call, and of another call in front of calls
    that it holds of, holds of the calls for any tasks. -/
@[elab_as_elim]
theorem callsFor_induction (e : Evaluator σ κ) (catchError : Bool)
    {motive : List Task → κ → σ → List (Call κ) × σ → Prop}
    (nil : ∀ context s, motive [] context s ([], s))
    (fatal : ∀ call rest s s', e.call call.task.code call.context s = (call.answer, s') →
      call.isFatal catchError = true → motive (call.task :: rest) call.context s ([call], s'))
    (goes_on : ∀ call rest s s' others, e.call call.task.code call.context s = (call.answer, s') →
      call.isFatal catchError = false →
      motive rest (call.returned?.getD call.context) s' others →
      motive (call.task :: rest) call.context s (call :: others.1, others.2))
    (tasks : List Task) (context : κ) (s : σ) :
    motive tasks context s (callsFor e catchError tasks context s) := by
  induction tasks generalizing context s with
  | nil => exact nil context s
  | cons task rest ih =>
    rcases hcall : e.callFor task context s with ⟨call, s'⟩
    obtain ⟨rfl, rfl, hanswer⟩ := call_of_callFor hcall
    by_cases hfatal : call.isFatal catchError = true
    · rw [callsFor_of_fatal hcall hfatal]
      exact fatal call rest s s' hanswer hfatal
    · rw [Bool.not_eq_true] at hfatal
      rw [callsFor_of_goes_on hcall hfatal]
      exact goes_on call rest s s' _ hanswer hfatal (ih _ _)

theorem answered_callsFor (e : Evaluator σ κ) (catchError : Bool) (tasks : List Task) (context : κ)
    (s : σ) :
    Answered e s (callsFor e catchError tasks context s).1
      (callsFor e catchError tasks context s).2 := by
  induction tasks, context, s using callsFor_induction e catchError with
  | nil context s => exact .nil s
  | fatal call rest s s' hanswer _ => exact .cons hanswer (.nil s')
  | goes_on call rest s s' others hanswer _ ih => exact .cons hanswer ih

theorem callsFor_in_order (e : Evaluator σ κ) (catchError : Bool) (tasks : List Task) (context : κ)
    (s : σ) : (callsFor e catchError tasks context s).1.map Call.task <+: tasks := by
  induction tasks, context, s using callsFor_induction e catchError with
  | nil => exact List.nil_prefix
  | fatal call rest => exact List.prefix_append [call.task] rest
  | goes_on call rest s s' others _ _ ih => exact (List.prefix_cons_inj call.task).mpr ih

/-- Without a fatal call all tasks are done. -/
theorem callsFor_complete (e : Evaluator σ κ) (catchError : Bool) (tasks : List Task) (context : κ)
    (s : σ) :
    (∀ call ∈ (callsFor e catchError tasks context s).1, call.isFatal catchError = false) →
      (callsFor e catchError tasks context s).1.map Call.task = tasks := by
  induction tasks, context, s using callsFor_induction e catchError with
  | nil => exact fun _ => rfl
  | fatal call rest s s' _ hfatal =>
    intro h
    rw [h call List.mem_cons_self] at hfatal
    cases hfatal
  | goes_on call rest s s' others _ _ ih =>
    intro h
    exact congrArg (call.task :: ·) (ih fun x hx => h x (List.mem_cons_of_mem call hx))

/-- Where a call stands: in the context that the calls before it have left, and last if it is
    fatal. -/
theorem callsFor_split (e : Evaluator σ κ) (catchError : Bool) (tasks : List Task)
    (context : κ) (s : σ) :
    ∀ before call after, (callsFor e catchError tasks context s).1 = before ++ call :: after →
      call.context = latestContext context before ∧
        (call.isFatal catchError = true → after = []) := by
  induction tasks, context, s using callsFor_induction e catchError with
  | nil =>
    intro before call after h
    cases before <;> cases h
  | fatal first rest =>
    intro before call after h
    cases before with
    | nil =>
      obtain ⟨rfl, rfl⟩ := List.cons.inj h
      exact ⟨rfl, fun _ => rfl⟩
    | cons x xs => exact absurd (List.cons.inj h).2.symm (by simp)
  | goes_on first rest s s' others _ hgoes ih =>
    intro before call after h
    cases before with
    | nil =>
      -- the call is the first one, and what comes after it has been reached: it is not fatal
      obtain ⟨rfl, -⟩ := List.cons.inj h
      exact ⟨rfl, fun hfatal => absurd (hgoes ▸ hfatal) Bool.false_ne_true⟩
    | cons x xs =>
      obtain ⟨rfl, hothers⟩ := List.cons.inj h
      rw [latestContext_cons]
      exact ih xs call after hothers

/-! ## Running segments -/

theorem cut_nil (limit : Option Int) : cut limit [] = [] := by
  cases limit with
  | none => rfl
  | some n => exact List.take_nil

theorem truncated_eq_cut (result : ExecutionResult) (hlimit : ∀ n ∈ limit, 0 ≤ n) :
    result.truncated limit = { result with outputLines := cut limit result.outputLines } := by
  cases limit with
  | none => rfl
  | some n =>
    obtain ⟨k, rfl⟩ := Int.eq_ofNat_of_zero_le (hlimit n rfl)
    rw [ExecutionResult.truncated, cut]
    split
    · next hle =>
      rw [Int.toNat_natCast, List.take_of_length_le (by omega)]
    · rfl

/-- What a call captures for its segment, before it is cut. -/
def Call.captured (call : Call κ) : ExecutionResult :=
  match call.answer with
  | .ok outcome => outcome.result
  | .error (.evaluation message lines) => failedResult message lines call.task.code
  | .error _ => {}

theorem Call.captured_truncated (hlimit : ∀ n ∈ limit, 0 ≤ n) (call : Call κ) :
    call.captured.truncated limit = call.result limit := by
  rw [truncated_eq_cut _ hlimit]
  unfold Call.captured Call.result
  cases call.answer with
  | ok outcome => rfl
  | error fault =>
    cases fault with
    | evaluation message lines => rfl
    | _ => simp only [cut_nil]

/-- What one segment of code does to a run: if its call is fatal the run stops, and else the segment
    has what its call captured and the run goes on. -/
theorem runSegments_captured {position : Nat} {c : CodeSegment}
    (h : e.callFor (.segment position c) context s = (call, s')) (rest : List Segment) :
    runSegments e catchError limit (.code c :: rest) context s =
      if call.isFatal catchError then ⟨.code c :: rest, context, call.fault?, s'⟩
      else
        let p := runSegments e catchError limit rest (call.returned?.getD context) s'
        { p with
          segments := .code { c with result := some (call.captured.truncated limit) } ::
            p.segments } := by
  obtain ⟨htask, -, hanswer⟩ := call_of_callFor h
  rw [Task.code] at hanswer
  rw [runSegments, hanswer]
  cases answer : call.answer with
  | ok outcome => simp [Call.isFatal, Call.returned?, Call.captured, answer]
  | error fault =>
    -- only an error of the evaluated code is caught, and only if errors are to be caught
    cases fault <;> cases catchError <;>
      simp [Call.isFatal, Call.returned?, Call.captured, Call.fault?, Task.code, answer, htask]

theorem runSegments_code (hlimit : ∀ n ∈ limit, 0 ≤ n) {position : Nat} {c : CodeSegment}
    (h : e.callFor (.segment position c) context s = (call, s')) (rest : List Segment) :
    runSegments e catchError limit (.code c :: rest) context s =
      if call.isFatal catchError then ⟨.code c :: rest, context, call.fault?, s'⟩
      else
        let p := runSegments e catchError limit rest (call.returned?.getD context) s'
        { p with segments := .code { c with result := some (call.result limit) } :: p.segments } := by
  rw [runSegments_captured h, call.captured_truncated hlimit]

/-- How far a run through segments has come is told by its calls; the first of the segments has the
    given position. -/
structure Follows (catchError : Bool) (limit : Option Int) (position : Nat)
    (segments : List Segment) (context : κ) (calls : List (Call κ) × σ) (p : Progress σ κ) :
    Prop where
  context_eq : p.context = latestContext context calls.1
  state_eq : p.state = calls.2
  fault_iff : ∀ f, p.fault = some f ↔
    ∃ call ∈ calls.1, call.isFatal catchError = true ∧ call.answer = .error f
  length_eq : p.segments.length = segments.length
  done : ∀ call ∈ calls.1, ∀ i c, call.task = .segment i c → call.isFatal catchError = false →
    ∃ k, i = position + k ∧
      p.segments[k]? = some (.code { c with result := some (call.result limit) })
  not_done : ∀ k segment, segments[k]? = some segment →
    (∀ call ∈ calls.1, ∀ c, call.task = .segment (position + k) c →
      call.isFatal catchError = true) →
    p.segments[k]? = some segment

theorem Call.fault?_eq_some_iff {f : Fault} : call.fault? = some f ↔ call.answer = .error f := by
  unfold Call.fault?
  cases call.answer <;> simp

/-- Without calls everything is as before. -/
theorem Follows.none (position : Nat) (segments : List Segment) (context : κ) (s : σ) :
    Follows catchError limit position segments context ([], s) ⟨segments, context, none, s⟩ where
  context_eq := rfl
  state_eq := rfl
  fault_iff := by simp
  length_eq := rfl
  done := fun call hcall => absurd hcall List.not_mem_nil
  not_done := fun _ _ h _ => h

/-- A fatal call leaves the segments as they are. -/
theorem Follows.fatal (hfatal : call.isFatal catchError = true) (position : Nat)
    (segments : List Segment) (s : σ) :
    Follows catchError limit position segments context ([call], s)
      ⟨segments, context, call.fault?, s⟩ where
  context_eq := by
    rw [latestContext_cons, Call.returned?_of_isFatal hfatal]
    rfl
  state_eq := rfl
  fault_iff := fun f => by simp [Call.fault?_eq_some_iff, hfatal]
  length_eq := rfl
  done := by
    intro x hx i c _ hgoes
    rw [List.mem_singleton.mp hx, hfatal] at hgoes
    cases hgoes
  not_done := fun _ _ h _ => h

/-- A header is passed over. -/
theorem Follows.header {position : Nat} {segments : List Segment} {calls : List (Call κ) × σ}
    {p : Progress σ κ} (hp : Follows catchError limit (position + 1) segments context calls p)
    (h : HeaderSegment) :
    Follows catchError limit position (.header h :: segments) context calls
      { p with segments := .header h :: p.segments } where
  context_eq := hp.context_eq
  state_eq := hp.state_eq
  fault_iff := hp.fault_iff
  length_eq := congrArg (· + 1) hp.length_eq
  done := by
    intro x hx i c htask hgoes
    obtain ⟨k, rfl, hk⟩ := hp.done x hx i c htask hgoes
    exact ⟨k + 1, by omega, hk⟩
  not_done := by
    intro k segment hk hfatal
    cases k with
    | zero => exact hk
    | succ k =>
      refine hp.not_done k segment hk fun x hx c htask => hfatal x hx c ?_
      rw [htask]
      congr 1
      omega

/-- A call that is not fatal puts its result into its segment. -/
theorem Follows.code {position : Nat} {segments : List Segment} {calls : List (Call κ) × σ}
    {p : Progress σ κ} {c : CodeSegment}
    (hp : Follows catchError limit (position + 1) segments (call.returned?.getD context) calls p)
    (htask : call.task = .segment position c) (hgoes : call.isFatal catchError = false) :
    Follows catchError limit position (.code c :: segments) context (call :: calls.1, calls.2)
      { p with segments := .code { c with result := some (call.result limit) } :: p.segments } where
  context_eq := by rw [latestContext_cons, ← hp.context_eq]
  state_eq := hp.state_eq
  fault_iff := fun f => by simp [hp.fault_iff, hgoes]
  length_eq := congrArg (· + 1) hp.length_eq
  done := by
    intro x hx i c' htask' hgoes'
    rcases List.mem_cons.mp hx with rfl | hx
    · -- the call of this segment: positions are relative to the first segment
      cases htask.symm.trans htask'
      exact ⟨0, rfl, rfl⟩
    · obtain ⟨k, rfl, hk⟩ := hp.done x hx i c' htask' hgoes'
      exact ⟨k + 1, by omega, hk⟩
  not_done := by
    intro k segment hk hfatal
    cases k with
    | zero =>
      -- this segment has its result
      rw [hfatal call List.mem_cons_self c htask] at hgoes
      cases hgoes
    | succ k =>
      refine hp.not_done k segment hk fun x hx c' htask' =>
        hfatal x (List.mem_cons_of_mem call hx) c' ?_
      rw [htask']
      congr 1
      omega

/-- The code before the segments changes only the context. -/
theorem Follows.prelude {position : Nat} {segments : List Segment} {calls : List (Call κ) × σ}
    {p : Progress σ κ} {code : Chars}
    (hp : Follows catchError limit position segments (call.returned?.getD context) calls p)
    (htask : call.task = .prelude code) (hgoes : call.isFatal catchError = false) :
    Follows catchError limit position segments context (call :: calls.1, calls.2) p where
  context_eq := by rw [latestContext_cons, ← hp.context_eq]
  state_eq := hp.state_eq
  fault_iff := fun f => by simp [hp.fault_iff, hgoes]
  length_eq := hp.length_eq
  done := by
    intro x hx i c htask' hgoes'
    rcases List.mem_cons.mp hx with rfl | hx
    · cases htask.symm.trans htask'
    · exact hp.done x hx i c htask' hgoes'
  not_done := fun k segment hk hfatal =>
    hp.not_done k segment hk fun x hx => hfatal x (List.mem_cons_of_mem call hx)

theorem follows_runSegments (e : Evaluator σ κ) (catchError : Bool)
    (hlimit : ∀ n ∈ limit, 0 ≤ n) (position : Nat) (segments : List Segment) (context : κ) (s : σ) :
    Follows catchError limit position segments context
      (callsFor e catchError (tasksFrom position segments) context s)
      (runSegments e catchError limit segments context s) := by
  -- the context and the state are those that the segments before leave, and so are general
  induction segments generalizing position context s with
  | nil => exact Follows.none position [] context s
  | cons segment rest ih =>
    cases segment with
    | header h => exact (ih (position + 1) context s).header h
    | code c =>
      rcases hcall : e.callFor (.segment position c) context s with ⟨call, s'⟩
      rw [runSegments_code hlimit hcall, tasksFrom]
      by_cases hfatal : call.isFatal catchError = true
      · rw [callsFor_of_fatal hcall hfatal, if_pos hfatal]
        exact Follows.fatal hfatal position (.code c :: rest) s'
      · rw [if_neg hfatal]
        rw [Bool.not_eq_true] at hfatal
        rw [callsFor_of_goes_on hcall hfatal]
        exact (ih (position + 1) _ s').code (call_of_callFor hcall).1 hfatal

/-! ## Running a document -/

/-- How far a run comes before its context is given up. -/
def progress (e : Evaluator σ κ) (o : Options) (doc : Document) (context : κ) (s : σ) :
    Progress σ κ :=
  match runPrelude e o.codeToEvaluate context s with
  | (.ok context, s) => runSegments e o.catchError o.maxOutputLines doc.body context s
  | (.error fault, s) => ⟨doc.body, context, some fault, s⟩

theorem evaluate_eq (e : Evaluator σ κ) (o : Options) (doc : Document) (s : σ) :
    evaluate e o doc s =
      let p := progress e o doc (e.start s).1 (e.start s).2
      ({ doc with body := p.segments }, (e.giveUp p.context p.state).1.or p.fault,
        (e.giveUp p.context p.state).2) := by
  -- the segments and the two ways to end a run, as the definition has them
  have hstart : evaluate e o doc s =
      let p := progress e o doc (e.start s).1 (e.start s).2
      let ending : Option Fault × σ := match e.discard with
        | none => (p.fault, p.state)
        | some discard =>
          match discard p.context p.state with
          | (.ok (), s') => (p.fault, s')
          | (.error fault, s') => (some fault, s')
      ({ doc with body := p.segments }, ending.1, ending.2) := rfl
  rw [hstart]
  generalize progress e o doc (e.start s).1 (e.start s).2 = p
  unfold Evaluator.giveUp
  cases e.discard with
  | none => rfl
  | some discard =>
    rcases hgiven : discard p.context p.state with ⟨answer, s'⟩
    cases answer <;> simp only [hgiven] <;> rfl

theorem tasksFrom_eq (position : Nat) (segments : List Segment) :
    tasksFrom position segments =
      ((segments.zipIdx position).filterMap fun (segment, i) =>
        match segment with
        | .code c => some (i, c)
        | .header _ => none).map fun (i, c) => .segment i c := by
  induction segments generalizing position with
  | nil => rfl
  | cons segment rest ih =>
    cases segment with
    | header h => exact ih (position + 1)
    | code c => exact congrArg (.segment position c :: ·) (ih (position + 1))

theorem tasks_of_blank {o : Options} (h : Text.isBlank o.codeToEvaluate = true) (doc : Document) :
    tasks o doc = tasksFrom 0 doc.body := by
  rw [tasks, if_pos h, tasksFrom_eq]
  rfl

theorem tasks_of_not_blank {o : Options} (h : ¬ Text.isBlank o.codeToEvaluate = true)
    (doc : Document) :
    tasks o doc = .prelude o.codeToEvaluate :: tasksFrom 0 doc.body := by
  rw [tasks, if_neg h, tasksFrom_eq]
  rfl

theorem progress_of_blank {o : Options} (h : Text.isBlank o.codeToEvaluate = true)
    (e : Evaluator σ κ) (doc : Document) (context : κ) (s : σ) :
    progress e o doc context s =
      runSegments e o.catchError o.maxOutputLines doc.body context s := by
  rw [progress, runPrelude, if_pos h]

/-- What the code before the segments does to a run: if its call is fatal the run stops, and else
    the segments are run in the context that it leaves. -/
theorem progress_of_not_blank {o : Options} (h : ¬ Text.isBlank o.codeToEvaluate = true)
    (hcall : e.callFor (.prelude o.codeToEvaluate) context s = (call, s')) (doc : Document) :
    progress e o doc context s =
      if call.isFatal o.catchError then ⟨doc.body, context, call.fault?, s'⟩
      else runSegments e o.catchError o.maxOutputLines doc.body (call.returned?.getD context) s' := by
  obtain ⟨htask, -, hanswer⟩ := call_of_callFor hcall
  rw [Task.code] at hanswer
  rw [progress, runPrelude, if_neg h, hanswer]
  cases answer : call.answer with
  | ok outcome => simp [Call.isFatal, Call.returned?, answer]
  | error fault => cases fault <;> simp [Call.isFatal, Call.fault?, answer, htask]

theorem follows_progress (e : Evaluator σ κ) {o : Options} (hlimit : ∀ n ∈ o.maxOutputLines, 0 ≤ n)
    (doc : Document) (context : κ) (s : σ) :
    Follows o.catchError o.maxOutputLines 0 doc.body context
      (callsFor e o.catchError (tasks o doc) context s) (progress e o doc context s) := by
  by_cases hblank : Text.isBlank o.codeToEvaluate = true
  · rw [tasks_of_blank hblank, progress_of_blank hblank]
    exact follows_runSegments e o.catchError hlimit 0 doc.body context s
  · rcases hcall : e.callFor (.prelude o.codeToEvaluate) context s with ⟨call, s'⟩
    rw [tasks_of_not_blank hblank, progress_of_not_blank hblank hcall]
    by_cases hfatal : call.isFatal o.catchError = true
    · rw [callsFor_of_fatal hcall hfatal, if_pos hfatal]
      exact Follows.fatal hfatal 0 doc.body s'
    · rw [if_neg hfatal]
      rw [Bool.not_eq_true] at hfatal
      rw [callsFor_of_goes_on hcall hfatal]
      have hrest := follows_runSegments e o.catchError hlimit 0 doc.body
        (call.returned?.getD context) s'
      exact hrest.prelude (call_of_callFor hcall).1 hfatal

/-! ## Recording a run -/

/-- The evaluator with a record of what it is asked to do. -/
def Evaluator.recorded (e : Evaluator σ κ) : Evaluator (σ × List (Request κ)) κ where
  noContext := e.noContext
  newContext := e.newContext.map fun make s =>
    let (context, own) := make s.1
    (context, (own, s.2))
  call := fun code context s =>
    let (answer, own) := e.call code context s.1
    (answer, (own, s.2 ++ [.run code context]))
  discard := e.discard.map fun discard context s =>
    let (answer, own) := discard context s.1
    (answer, (own, s.2 ++ [.discard context]))

variable {log : List (Request κ)}

/-- A run that is recorded, from a run that is not and what its record gains. -/
def Progress.logged (p : Progress σ κ) (log : List (Request κ)) :
    Progress (σ × List (Request κ)) κ :=
  ⟨p.segments, p.context, p.fault, (p.state, log)⟩

theorem start_recorded (e : Evaluator σ κ) (s : σ) (log : List (Request κ)) :
    e.recorded.start (s, log) = ((e.start s).1, ((e.start s).2, log)) := by
  unfold Evaluator.start Evaluator.recorded
  cases e.newContext <;> rfl

theorem giveUp_recorded (e : Evaluator σ κ) (context : κ) (s : σ) (log : List (Request κ)) :
    e.recorded.giveUp context (s, log) =
      ((e.giveUp context s).1, ((e.giveUp context s).2,
        log ++ if e.discard.isSome then [.discard context] else [])) := by
  unfold Evaluator.giveUp Evaluator.recorded
  cases e.discard with
  | none => simp
  | some discard =>
    rcases hgiven : discard context s with ⟨answer, s'⟩
    cases answer <;> simp [hgiven]

theorem callFor_recorded (h : e.callFor task context s = (call, s')) :
    e.recorded.callFor task context (s, log) = (call, (s', log ++ [call.request])) := by
  obtain ⟨rfl, rfl, hanswer⟩ := call_of_callFor h
  simp [Evaluator.callFor, Evaluator.recorded, hanswer, Call.request]

theorem runSegments_recorded (e : Evaluator σ κ) (catchError : Bool)
    (hlimit : ∀ n ∈ limit, 0 ≤ n) (position : Nat) (segments : List Segment) (context : κ) (s : σ)
    (log : List (Request κ)) :
    runSegments e.recorded catchError limit segments context (s, log) =
      (runSegments e catchError limit segments context s).logged
        (log ++ (callsFor e catchError (tasksFrom position segments) context s).1.map
          Call.request) := by
  induction segments generalizing position context s log with
  | nil => simp [runSegments, tasksFrom, callsFor, Progress.logged]
  | cons segment rest ih =>
    cases segment with
    | header h =>
      rw [runSegments, runSegments, tasksFrom, ih (position + 1)]
      rfl
    | code c =>
      rcases hcall : e.callFor (.segment position c) context s with ⟨call, s'⟩
      rw [runSegments_code hlimit hcall, runSegments_code hlimit (callFor_recorded hcall), tasksFrom]
      by_cases hfatal : call.isFatal catchError = true
      · rw [callsFor_of_fatal hcall hfatal, if_pos hfatal, if_pos hfatal]
        rfl
      · rw [if_neg hfatal, if_neg hfatal, ih (position + 1)]
        rw [Bool.not_eq_true] at hfatal
        rw [callsFor_of_goes_on hcall hfatal]
        simp [Progress.logged]

theorem progress_recorded (e : Evaluator σ κ) {o : Options}
    (hlimit : ∀ n ∈ o.maxOutputLines, 0 ≤ n) (doc : Document) (context : κ) (s : σ)
    (log : List (Request κ)) :
    progress e.recorded o doc context (s, log) =
      (progress e o doc context s).logged
        (log ++ (callsFor e o.catchError (tasks o doc) context s).1.map Call.request) := by
  by_cases hblank : Text.isBlank o.codeToEvaluate = true
  · rw [tasks_of_blank hblank, progress_of_blank hblank, progress_of_blank hblank]
    exact runSegments_recorded e o.catchError hlimit 0 doc.body context s log
  · rcases hcall : e.callFor (.prelude o.codeToEvaluate) context s with ⟨call, s'⟩
    rw [tasks_of_not_blank hblank, progress_of_not_blank hblank hcall,
      progress_of_not_blank hblank (callFor_recorded hcall)]
    by_cases hfatal : call.isFatal o.catchError = true
    · rw [callsFor_of_fatal hcall hfatal, if_pos hfatal, if_pos hfatal]
      rfl
    · rw [if_neg hfatal, if_neg hfatal, runSegments_recorded e o.catchError hlimit 0]
      rw [Bool.not_eq_true] at hfatal
      rw [callsFor_of_goes_on hcall hfatal]
      simp

/-- Recording changes nothing else, and the record is what is asked for: the calls, and at the end
    the context that is given up. -/
theorem evaluate_recorded (e : Evaluator σ κ) {o : Options}
    (hlimit : ∀ n ∈ o.maxOutputLines, 0 ≤ n) (doc : Document) (s : σ) :
    evaluate e.recorded o doc (s, []) =
      ((evaluate e o doc s).1, (evaluate e o doc s).2.1, ((evaluate e o doc s).2.2,
        (callsFor e o.catchError (tasks o doc) (e.start s).1 (e.start s).2).1.map Call.request ++
          if e.discard.isSome then
            [.discard (progress e o doc (e.start s).1 (e.start s).2).context]
          else [])) := by
  rw [evaluate_eq, evaluate_eq, start_recorded, progress_recorded e hlimit, List.nil_append]
  simp only [Progress.logged, giveUp_recorded]

/-! ## Main statement -/

theorem le_of_isValid {o : Options} (h : o.isValid = true) : ∀ n ∈ o.maxOutputLines, 0 ≤ n := by
  intro n hn
  rw [Option.mem_def] at hn
  simp only [Options.isValid, hn, Datum.ofInt?, isLimit, Bool.and_eq_true] at h
  exact of_decide_eq_true h.2

/-- Running the code of a document calls the evaluator for one task after another, and a record of
    the run holds these calls and the context that is given up, each once. -/
theorem evaluate_isRun (e : Evaluator σ κ) (o : Options) (doc : Document) (s : σ)
    (hvalid : o.isValid = true) :
    ∃ calls between later fault s', evaluate e o doc s = (later, fault, s') ∧
      IsRun e o doc s calls between later fault s' ∧
      evaluate e.recorded o doc (s, []) =
        (later, fault, (s', calls.map Call.request ++
          if e.discard.isSome then [.discard (latestContext (e.start s).1 calls)] else [])) := by
  have hlimit := le_of_isValid hvalid
  have hfollows := follows_progress e hlimit doc (e.start s).1 (e.start s).2
  have hrecorded := evaluate_recorded e hlimit doc s
  have hrun := evaluate_eq e o doc s
  -- the context given up is the latest one, and the evaluator is as its last call leaves it
  simp only [hrun, hfollows.context_eq, hfollows.state_eq] at hrecorded
  simp only [hfollows.context_eq, hfollows.state_eq] at hrun
  refine ⟨_, (callsFor e o.catchError (tasks o doc) (e.start s).1 (e.start s).2).2, _, _, _, hrun,
    ?_, hrecorded⟩
  exact {
    answered := answered_callsFor e o.catchError (tasks o doc) _ _
    in_order := callsFor_in_order e o.catchError (tasks o doc) _ _
    fatal_last := fun before call after h => (callsFor_split e _ _ _ _ before call after h).2
    complete := callsFor_complete e o.catchError (tasks o doc) _ _
    context_eq := fun before call after h => (callsFor_split e _ _ _ _ before call after h).1
    done := by
      intro call hcall position c htask hgoes
      obtain ⟨k, rfl, hk⟩ := hfollows.done call hcall position c htask hgoes
      rwa [Nat.zero_add]
    not_done := by
      intro position segment h hfatal
      refine hfollows.not_done position segment h fun call hcall c htask => ?_
      rw [Nat.zero_add] at htask
      exact hfatal call hcall c htask
    length_eq := hfollows.length_eq
    rest_eq := rfl
    given_up := rfl
    fault_iff := by
      intro hgiven f
      rw [hgiven, Option.none_or]
      exact hfollows.fault_iff f
    fault_of_giveUp := by
      intro f hgiven
      rw [hgiven]
      rfl }

/-- Options with code before the segments, and two lines of output at most. -/
def shortOutput : Options := { codeToEvaluate := "p", maxOutputLines := some 2 }

/-- Two segments of code with a header between them. -/
def twoSegments : Document where
  body := [.code ⟨["x = 1;"], 0, 0, none⟩, .header ⟨"T", true, [], 1, 1, []⟩,
    .code ⟨["y"], 2, 2, none⟩]

/-- The first segment prints three lines, and the second one fails. -/
def failsLast : Rehearsal Nat where
  replies := [{ context := some 1 }, { outputLines := ["a", "b", "c"], context := some 2 },
    { error := some "boom", outputLines := ["d"] }]

/-- The error of the second segment is caught, and its context is given up. -/
theorem evaluate_isRun_of_failsLast :
    shortOutput.isValid = true ∧
      (evaluate (scripted 0 none true) shortOutput twoSegments failsLast).1.results =
        [some { outputLines := ["a", "b"] },
          some { outputLines := ["d", "error: boom"], error := some "boom" }] ∧
      ∃ calls between later fault s',
        evaluate (scripted 0 none true) shortOutput twoSegments failsLast = (later, fault, s') ∧
        IsRun (scripted 0 none true) shortOutput twoSegments failsLast calls between later fault s' ∧
        evaluate (scripted 0 none true).recorded shortOutput twoSegments (failsLast, []) =
          (later, fault, (s', calls.map Call.request ++
            if (scripted (κ := Nat) 0 none true).discard.isSome then
              [.discard (latestContext ((scripted 0 none true).start failsLast).1 calls)]
            else [])) :=
  ⟨by decide, by decide, evaluate_isRun _ _ _ _ (by decide)⟩

end ScriptReport.Evaluation

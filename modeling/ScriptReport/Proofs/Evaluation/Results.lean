/-
  ScriptReport.Proofs.Evaluation.Results

  What a document gets from a run that nothing stops. Every task then has its call, and each segment
  of code has the result of the call made for its own position; all that a run changes in a document
  are these results. Main statement: `evaluate_complete`.
-/

import ScriptReport.Proofs.Evaluation.Run
import ScriptReport.Proofs.Script.AsRead

namespace ScriptReport.Evaluation

open ScriptReport.Script

variable {σ κ : Type} {e : Evaluator σ κ} {catchError : Bool} {limit : Option Int} {context : κ}
  {s s' : σ} {call : Call κ}

/-! ## Calls by position -/

/-- The position of the segment that a task is for. -/
def Task.position? : Task → Option Nat
  | .prelude _ => none
  | .segment position _ => some position

/-- The call for the segment at a position. -/
def callAt? (calls : List (Call κ)) (position : Nat) : Option (Call κ) :=
  calls.find? fun call => call.task.position? = some position

theorem callAt?_cons_self {position : Nat} (h : call.task.position? = some position)
    (rest : List (Call κ)) : callAt? (call :: rest) position = some call :=
  List.find?_cons_of_pos (decide_eq_true h)

theorem callAt?_cons_of_ne {position : Nat} (h : call.task.position? ≠ some position)
    (rest : List (Call κ)) : callAt? (call :: rest) position = callAt? rest position :=
  List.find?_cons_of_neg (by simpa using h)

/-- The calls of a run that nothing stops: one for each task, in order, each in the context that the
    calls before it have left. -/
structure IsComplete (e : Evaluator σ κ) (o : Options) (doc : Document) (s : σ)
    (calls : List (Call κ)) : Prop where
  answered : ∃ between, Answered e (e.start s).2 calls between
  tasks_eq : calls.map Call.task = tasks o doc
  context_eq : ∀ before call after, calls = before ++ call :: after →
    call.context = latestContext (e.start s).1 before

/-! ## Runs without a fault -/

/-- The calls have gone through, and each segment of code has what the call for its position
    captured; the first of the segments has the given position. -/
structure Finished (catchError : Bool) (limit : Option Int) (position : Nat)
    (calls : List (Call κ)) (segments : List Segment) : Prop where
  goes_on : ∀ call ∈ calls, call.isFatal catchError = false
  result_eq : ∀ k c, segments[k]? = some (.code c) →
    ∃ call, callAt? calls (position + k) = some call ∧
      c.result = some (call.captured.truncated limit)

theorem Call.fault?_of_isFatal (h : call.isFatal catchError = true) : call.fault? ≠ none := by
  unfold Call.isFatal at h
  unfold Call.fault?
  cases hanswer : call.answer with
  | ok outcome => simp [hanswer] at h
  | error fault => simp

/-- A header is passed over. -/
theorem Finished.header {position : Nat} {calls : List (Call κ)} {segments : List Segment}
    (h : Finished catchError limit (position + 1) calls segments) (header : HeaderSegment) :
    Finished catchError limit position calls (.header header :: segments) where
  goes_on := h.goes_on
  result_eq := by
    intro k c hk
    cases k with
    | zero => cases hk
    | succ k =>
      rw [← Nat.add_assoc, Nat.add_right_comm]
      exact h.result_eq k c hk

/-- A call that goes through is the one for its segment; later segments have other positions. -/
theorem Finished.code {position : Nat} {calls : List (Call κ)} {segments : List Segment}
    {c : CodeSegment} (h : Finished catchError limit (position + 1) calls segments)
    (htask : call.task = .segment position c) (hgoes : call.isFatal catchError = false) :
    Finished catchError limit position (call :: calls)
      (.code { c with result := some (call.captured.truncated limit) } :: segments) where
  goes_on := List.forall_mem_cons.mpr ⟨hgoes, h.goes_on⟩
  result_eq := by
    have hposition : call.task.position? = some position := by rw [htask, Task.position?]
    intro k c' hk
    cases k with
    | zero =>
      cases hk
      exact ⟨call, callAt?_cons_self hposition calls, rfl⟩
    | succ k =>
      have hne : call.task.position? ≠ some (position + (k + 1)) := by
        rw [hposition, ne_eq, Option.some.injEq]
        omega
      rw [callAt?_cons_of_ne hne, ← Nat.add_assoc, Nat.add_right_comm]
      exact h.result_eq k c' hk

/-- The code before the segments has no position. -/
theorem Finished.prelude {calls : List (Call κ)} {segments : List Segment} {code : Chars}
    (h : Finished catchError limit 0 calls segments) (htask : call.task = .prelude code)
    (hgoes : call.isFatal catchError = false) :
    Finished catchError limit 0 (call :: calls) segments where
  goes_on := List.forall_mem_cons.mpr ⟨hgoes, h.goes_on⟩
  result_eq := by
    intro k c hk
    rw [callAt?_cons_of_ne (by rw [htask]; exact (Option.some_ne_none _).symm)]
    exact h.result_eq k c hk

theorem finished_runSegments (e : Evaluator σ κ) (catchError : Bool) (limit : Option Int)
    (position : Nat) (segments : List Segment) (context : κ) (s : σ)
    (h : (runSegments e catchError limit segments context s).fault = none) :
    Finished catchError limit position
      (callsFor e catchError (tasksFrom position segments) context s).1
      (runSegments e catchError limit segments context s).segments := by
  -- the context and the state are those that the segments before leave, and so are general
  induction segments generalizing position context s with
  | nil => exact ⟨fun call hcall => absurd hcall List.not_mem_nil, fun k c hk => by cases hk⟩
  | cons segment rest ih =>
    cases segment with
    | header header => exact (ih (position + 1) context s h).header header
    | code c =>
      rcases hcall : e.callFor (.segment position c) context s with ⟨call, s'⟩
      rw [runSegments_captured hcall] at h ⊢
      by_cases hfatal : call.isFatal catchError = true
      · rw [if_pos hfatal] at h
        exact absurd h (Call.fault?_of_isFatal hfatal)
      · rw [if_neg hfatal] at h ⊢
        rw [Bool.not_eq_true] at hfatal
        rw [tasksFrom, callsFor_of_goes_on hcall hfatal]
        exact (ih (position + 1) _ s' h).code (call_of_callFor hcall).1 hfatal

theorem finished_progress (e : Evaluator σ κ) (o : Options) (doc : Document) (context : κ) (s : σ)
    (h : (progress e o doc context s).fault = none) :
    Finished o.catchError o.maxOutputLines 0
      (callsFor e o.catchError (tasks o doc) context s).1
      (progress e o doc context s).segments := by
  by_cases hblank : Text.isBlank o.codeToEvaluate = true
  · rw [progress_of_blank hblank] at h ⊢
    rw [tasks_of_blank hblank]
    exact finished_runSegments e o.catchError o.maxOutputLines 0 doc.body context s h
  · rcases hcall : e.callFor (.prelude o.codeToEvaluate) context s with ⟨call, s'⟩
    rw [progress_of_not_blank hblank hcall] at h ⊢
    by_cases hfatal : call.isFatal o.catchError = true
    · rw [if_pos hfatal] at h
      exact absurd h (Call.fault?_of_isFatal hfatal)
    · rw [if_neg hfatal] at h ⊢
      rw [Bool.not_eq_true] at hfatal
      rw [tasks_of_not_blank hblank, callsFor_of_goes_on hcall hfatal]
      exact (finished_runSegments e o.catchError o.maxOutputLines 0 doc.body _ s' h).prelude
        (call_of_callFor hcall).1 hfatal

/-! ## Everything else is kept -/

/-- A run changes results only, wherever it stops. -/
theorem map_bare_runSegments (e : Evaluator σ κ) (catchError : Bool) (limit : Option Int)
    (segments : List Segment) (context : κ) (s : σ) :
    (runSegments e catchError limit segments context s).segments.map Segment.bare =
      segments.map Segment.bare := by
  induction segments generalizing context s with
  | nil => rfl
  | cons segment rest ih =>
    cases segment with
    | header header => exact congrArg (.header header :: ·) (ih context s)
    | code c =>
      rcases hcall : e.callFor (.segment 0 c) context s with ⟨call, s'⟩
      rw [runSegments_captured hcall]
      by_cases hfatal : call.isFatal catchError = true
      · rw [if_pos hfatal]
      · rw [if_neg hfatal]
        exact congrArg (Segment.bare (.code c) :: ·) (ih _ s')

theorem map_bare_progress (e : Evaluator σ κ) (o : Options) (doc : Document) (context : κ) (s : σ) :
    (progress e o doc context s).segments.map Segment.bare = doc.body.map Segment.bare := by
  unfold progress
  split
  · exact map_bare_runSegments e o.catchError o.maxOutputLines doc.body _ _
  · rfl

/-- A document keeps all but its results, also if its run is aborted. -/
theorem evaluate_bare (e : Evaluator σ κ) (o : Options) (doc : Document) (s : σ) :
    (evaluate e o doc s).1.bare = doc.bare := by
  rw [evaluate_eq]
  simp only [Document.bare, map_bare_progress]

/-! ## Main statement -/

/-- A run without a fault makes the call of every task. The document keeps all but its results, and
    each segment of code has what the call for its position captured, cut to the limit. -/
theorem evaluate_complete (e : Evaluator σ κ) (o : Options) (doc : Document) (s : σ)
    (h : (evaluate e o doc s).2.1 = none) :
    ∃ calls, IsComplete e o doc s calls ∧ (evaluate e o doc s).1.bare = doc.bare ∧
      ∀ i c, (evaluate e o doc s).1.body[i]? = some (.code c) →
        ∃ call, callAt? calls i = some call ∧
          c.result = some (call.captured.truncated o.maxOutputLines) := by
  have hbare := evaluate_bare e o doc s
  rw [evaluate_eq] at h hbare ⊢
  have hfault := (Option.or_eq_none_iff.mp h).2
  have hfinished := finished_progress e o doc (e.start s).1 (e.start s).2 hfault
  refine ⟨(callsFor e o.catchError (tasks o doc) (e.start s).1 (e.start s).2).1, ?_, hbare, ?_⟩
  · exact {
      answered := ⟨_, answered_callsFor e o.catchError (tasks o doc) _ _⟩
      tasks_eq := callsFor_complete e o.catchError (tasks o doc) _ _ hfinished.goes_on
      context_eq := fun before call after hcalls =>
        (callsFor_split e _ _ _ _ before call after hcalls).1 }
  · intro i c hi
    obtain ⟨call, hcall, hresult⟩ := hfinished.result_eq i c hi
    rw [Nat.zero_add] at hcall
    exact ⟨call, hcall, hresult⟩

end ScriptReport.Evaluation

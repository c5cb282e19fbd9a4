/-
  ScriptReport.Proofs.Evaluation.Positions

  Calls and results by their positions. A run of calls is taken apart at the call at a position
  (`Answered.call_at`), and a result of a document comes from the call at the same position, behind
  the call for the code before the segments (`exists_call_of_evaluate`).
-/

import ScriptReport.Proofs.Evaluation.Run
import ScriptReport.Proofs.Script.AsRead
import Mathlib.Data.List.Infix

namespace ScriptReport.Evaluation

open ScriptReport.Script

/-! ## Parts of runs -/

section Runs

variable {σ κ : Type} {e : Evaluator σ κ} {s s' : σ} {call : Call κ} {calls front back : List (Call κ)}
  {position : Nat}

/-- A run falls into two at any place. -/
theorem Answered.split (h : Answered e s (front ++ back) s') :
    ∃ between, Answered e s front between ∧ Answered e between back s' := by
  induction front generalizing s with
  | nil => exact ⟨s, .nil s, h⟩
  | cons call front ih =>
    cases h with
    | cons answer others =>
      obtain ⟨between, hfront, hback⟩ := ih others
      exact ⟨between, .cons answer hfront, hback⟩

/-- The call at a position of a run, with what is before and behind it. -/
theorem Answered.call_at (h : Answered e s calls s')
    (hcall : calls[position]? = some call) :
    ∃ before behind, Answered e s (calls.take position) before ∧
      e.call call.task.code call.context before = (call.answer, behind) ∧
      Answered e s (calls.take (position + 1)) behind ∧
      Answered e behind (calls.drop (position + 1)) s' := by
  have htake : calls.take (position + 1) = calls.take position ++ [call] := by
    rw [List.take_add_one, hcall, Option.toList_some]
  rw [← List.take_append_drop (position + 1) calls] at h
  obtain ⟨behind, hfront, hback⟩ := h.split
  have hlast := hfront
  rw [htake] at hlast
  obtain ⟨before, hbefore, hcall⟩ := hlast.split
  cases hcall with
  | cons answer others =>
    cases others
    exact ⟨before, behind, hbefore, answer, hfront, hback⟩

end Runs

/-! ## Results of documents -/

section Results

variable {σ κ : Type} {limit : Option Int} {catchError : Bool}

/-- The results of code segments, in order. -/
def resultsOf : List Segment → List (Option ExecutionResult)
  | [] => []
  | .header _ :: rest => resultsOf rest
  | .code c :: rest => c.result :: resultsOf rest

theorem resultsOf_eq (position : Nat) (segments : List Segment) :
    resultsOf segments =
      ((segments.zipIdx position).filterMap fun (segment, i) =>
        match segment with
        | .code c => some (i, c)
        | .header _ => none).map fun (_, c) => c.result := by
  induction segments generalizing position with
  | nil => rfl
  | cons segment rest ih =>
    cases segment with
    | header h => exact ih (position + 1)
    | code c => exact congrArg (c.result :: ·) (ih (position + 1))

theorem results_eq (doc : Document) : doc.results = resultsOf doc.body :=
  (resultsOf_eq 0 doc.body).symm

/-- The calls that a run goes on behind. -/
def survived (catchError : Bool) (calls : List (Call κ)) : List (Call κ) :=
  calls.filter fun call => !call.isFatal catchError

theorem survived_prefix (e : Evaluator σ κ) (catchError : Bool) (tasks : List Task) (context : κ)
    (s : σ) :
    survived catchError (callsFor e catchError tasks context s).1 <+:
      (callsFor e catchError tasks context s).1 := by
  induction tasks, context, s using callsFor_induction e catchError with
  | nil => exact List.nil_prefix
  | fatal call rest s s' _ hfatal =>
    rw [survived, List.filter_cons_of_neg (by simp [hfatal])]
    exact List.nil_prefix
  | goes_on call rest s s' others _ hgoes ih =>
    rw [survived, List.filter_cons_of_pos (by simp [hgoes])]
    exact (List.prefix_cons_inj call).mpr ih

/-- The calls that a run goes on behind give the first segments of code their results, and all
    others keep what they have. -/
theorem resultsOf_runSegments (e : Evaluator σ κ) (catchError : Bool) (limit : Option Int)
    (position : Nat) (segments : List Segment) (context : κ) (s : σ) :
    resultsOf (runSegments e catchError limit segments context s).segments =
      (survived catchError (callsFor e catchError (tasksFrom position segments) context s).1).map
          (fun call => some (call.captured.truncated limit)) ++
        (resultsOf segments).drop
          (survived catchError
            (callsFor e catchError (tasksFrom position segments) context s).1).length := by
  induction segments generalizing position context s with
  | nil => rfl
  | cons segment rest ih =>
    cases segment with
    | header h => exact ih (position + 1) context s
    | code c =>
      rcases hcall : e.callFor (.segment position c) context s with ⟨call, s'⟩
      rw [runSegments_captured hcall, tasksFrom]
      by_cases hfatal : call.isFatal catchError = true
      · rw [if_pos hfatal, callsFor_of_fatal hcall hfatal, survived,
          List.filter_cons_of_neg (by simp [hfatal])]
        rfl
      · rw [if_neg hfatal]
        rw [Bool.not_eq_true] at hfatal
        rw [callsFor_of_goes_on hcall hfatal, survived, List.filter_cons_of_pos (by simp [hfatal])]
        exact congrArg (some (call.captured.truncated limit) :: ·) (ih (position + 1) _ s')

/-- How many calls are made before those for the segments. -/
def preludeCount (o : Options) : Nat := if Text.isBlank o.codeToEvaluate then 0 else 1

/-- The calls that running the code of a document makes. -/
def Evaluator.callsOf (e : Evaluator σ κ) (o : Options) (doc : Document) (s : σ) : List (Call κ) :=
  (callsFor e o.catchError (tasks o doc) (e.start s).1 (e.start s).2).1

variable {e : Evaluator σ κ} {segments : List Segment} {context : κ} {s : σ} {k : Nat}
  {r : ExecutionResult} {doc : Document} {o : Options}

theorem resultsOf_bare (segments : List Segment) :
    ∀ result ∈ resultsOf (segments.map Segment.bare), result = none := by
  induction segments with
  | nil => exact fun _ h => absurd h List.not_mem_nil
  | cons segment rest ih =>
    cases segment with
    | header h => exact ih
    | code c => exact List.forall_mem_cons.mpr ⟨rfl, ih⟩

/-- A result that segments without results get is what the call at the same place has captured. -/
theorem exists_call_of_runSegments {position : Nat}
    (hnone : ∀ result ∈ resultsOf segments, result = none)
    (h : (resultsOf (runSegments e catchError limit segments context s).segments)[k]? =
      some (some r)) :
    ∃ call, (callsFor e catchError (tasksFrom position segments) context s).1[k]? = some call ∧
      call.isFatal catchError = false ∧ r = call.captured.truncated limit := by
  rw [resultsOf_runSegments e catchError limit position] at h
  rw [List.getElem?_append] at h
  split at h
  · rw [List.getElem?_map, Option.map_eq_some_iff] at h
    obtain ⟨call, hcall, hresult⟩ := h
    have hgoes : call.isFatal catchError = false := by
      simpa using (List.mem_filter.mp (List.mem_of_getElem? hcall)).2
    obtain ⟨rest, hrest⟩ := survived_prefix e catchError (tasksFrom position segments) context s
    have hk := (List.getElem?_eq_some_iff.mp hcall).1
    refine ⟨call, ?_, hgoes, (Option.some.inj hresult).symm⟩
    rw [← hrest, List.getElem?_append_left hk, hcall]
  · cases hnone _ (List.mem_of_mem_drop (List.mem_of_getElem? h))

/-- The same for a whole document: the code before the segments has the first call. -/
theorem exists_call_of_evaluate (hbare : doc.bare = doc)
    (h : (evaluate e o doc s).1.results[k]? = some (some r)) :
    ∃ call, (e.callsOf o doc s)[preludeCount o + k]? = some call ∧
      call.isFatal o.catchError = false ∧ r = call.captured.truncated o.maxOutputLines := by
  have hnone : ∀ result ∈ resultsOf doc.body, result = none := by
    rw [← Document.bare_eq_self_iff.mp hbare]
    exact resultsOf_bare doc.body
  rw [evaluate_eq, results_eq] at h
  simp only at h
  unfold Evaluator.callsOf preludeCount
  by_cases hblank : Text.isBlank o.codeToEvaluate = true
  · rw [progress_of_blank hblank] at h
    rw [tasks_of_blank hblank, if_pos hblank, Nat.zero_add]
    exact exists_call_of_runSegments hnone h
  · rcases hcall : e.callFor (.prelude o.codeToEvaluate) (e.start s).1 (e.start s).2 with
      ⟨call, s'⟩
    rw [progress_of_not_blank hblank hcall] at h
    by_cases hfatal : call.isFatal o.catchError = true
    · -- no segment is run
      rw [if_pos hfatal] at h
      cases hnone _ (List.mem_of_getElem? h)
    · rw [if_neg hfatal] at h
      rw [Bool.not_eq_true] at hfatal
      rw [tasks_of_not_blank hblank, callsFor_of_goes_on hcall hfatal, if_neg hblank,
        Nat.add_comm, List.getElem?_cons_succ]
      exact exists_call_of_runSegments hnone h

theorem graphics_truncated (result : ExecutionResult) (limit : Option Int) :
    (result.truncated limit).graphics = result.graphics := by
  unfold ExecutionResult.truncated
  cases limit with
  | none => rfl
  | some n => dsimp only; split <;> rfl

theorem error_truncated (result : ExecutionResult) (limit : Option Int) :
    (result.truncated limit).error = result.error := by
  unfold ExecutionResult.truncated
  cases limit with
  | none => rfl
  | some n => dsimp only; split <;> rfl

/-- A call that does not end the run gives its segment either the figures of its answer, or its error
    and no figures. -/
theorem captured_cases {call : Call κ} (hgoes : call.isFatal catchError = false) :
    (∃ outcome, call.answer = .ok outcome ∧ call.captured.error = none ∧
      call.captured.graphics = outcome.graphics) ∨
    (∃ message, call.captured.error = some message ∧ call.captured.graphics = []) := by
  unfold Call.isFatal at hgoes
  unfold Call.captured
  cases hanswer : call.answer with
  | ok outcome => exact .inl ⟨outcome, rfl, rfl, rfl⟩
  | error fault =>
    cases fault with
    | evaluation message lines => exact .inr ⟨message, rfl, rfl⟩
    | _ => simp [hanswer] at hgoes

end Results

end ScriptReport.Evaluation

/-
  ScriptReport.Proofs.Publish.InsertedOutput

  Publishing with and without evaluation. Running the code of a script only adds to its report:
  behind each segment of code come the output that its own call has captured, cut to the limit, and
  its figures. Main statement: `publishText_inserts_output`.
-/

import ScriptReport.Proofs.Publish.RoundTrip
import ScriptReport.Proofs.Report.Insertion

namespace ScriptReport.Publish

open ScriptReport.Script ScriptReport.Evaluation ScriptReport.Report

variable {σ κ : Type}

/-! ## Documents before evaluation -/

/-- Included files put texts under headers and nothing into code. -/
theorem map_bare_includeInSegments (disk : Disk) (script : Path) (segments : List Segment) :
    (includeInSegments disk script segments).1.map Segment.bare =
      (includeInSegments disk script (segments.map Segment.bare)).1 := by
  induction segments with
  | nil => rfl
  | cons segment rest ih =>
    cases segment with
    | code c => exact congrArg (Segment.bare (.code c) :: ·) ih
    | header h =>
      rw [List.map_cons, Segment.bare, includeInSegments, includeInSegments]
      rcases includeInItems disk script h.content with ⟨content, warnings, fault⟩
      cases fault with
      | none => exact congrArg (Segment.header { h with content } :: ·) ih
      | some fault => rfl

theorem resolveIncludes_bare {disk : Disk} {script : Path} {doc : Document}
    (h : doc.bare = doc) :
    (resolveIncludes disk script doc).1.bare = (resolveIncludes disk script doc).1 := by
  rw [Document.bare_eq_self_iff] at h ⊢
  unfold resolveIncludes
  rcases includeInItems disk script doc.intro with ⟨intro, warnings, fault⟩
  cases fault with
  | none =>
    have hbody := map_bare_includeInSegments disk script doc.body
    rwa [h] at hbody
  | some fault => exact h

/-- The document of a script has no results before its code is run. -/
theorem prepare_bare {comments : List Chars} {sourceName : Chars} {base : Option IncludeBase}
    {lines : List Chars} {doc : Document} {warnings : List Warning}
    (h : prepare comments sourceName base lines = (doc, warnings, none)) : doc.bare = doc := by
  unfold prepare at h
  split at h
  · cases h
  · next doc' _ hread =>
    unfold documentOf at hread
    split_ifs at hread
    have hbare : doc'.bare = doc' := by
      rw [← show (Script.read comments sourceName lines).1 = doc' from
        congrArg Prod.fst (Except.ok.inj hread)]
      exact read_bare sourceName lines
    cases base with
    | none =>
      cases h
      exact hbare
    | some base =>
      rw [← show (resolveIncludes base.disk base.script doc').1 = doc from congrArg Prod.fst h]
      exact resolveIncludes_bare hbare

/-! ## Output -/

/-- The lines that a limit leaves: the first ones, as many as it says, or, if it is below zero, all
    but as many at the end. -/
def linesWithin (limit : Option Int) (lines : List Chars) : List Chars :=
  match limit with
  | none => lines
  | some n => lines.take (if 0 ≤ n then n.toNat else lines.length - (-n).toNat)

theorem truncated_eq_linesWithin (result : ExecutionResult) (limit : Option Int) :
    result.truncated limit =
      { result with outputLines := linesWithin limit result.outputLines } := by
  cases limit with
  | none => rfl
  | some n =>
    simp only [ExecutionResult.truncated, linesWithin]
    cases n with
    | ofNat n =>
      have hsign : (0 : Int) ≤ Int.ofNat n := Int.natCast_nonneg n
      rw [if_pos hsign]
      split_ifs with hle
      · -- the limit is not reached
        have hshort : result.outputLines.length ≤ (Int.ofNat n).toNat := Int.ofNat_le.mp hle
        rw [List.take_of_length_le hshort]
      · rfl
    | negSucc n =>
      have hsign : ¬ (0 : Int) ≤ Int.negSucc n := by omega
      rw [if_neg hsign, if_neg (by omega)]
      rfl

/-- What a run inserts at a position, from the call for that position: the output that the limit
    leaves, if any is left, and then the figures, if there are any. -/
def insertedOutput (format : Format) (limit : Option Int) (calls : List (Call κ))
    (position : Nat) : Chars :=
  match callAt? calls position with
  | none => []
  | some call =>
    let result := call.result none
    let lines := linesWithin limit result.outputLines
    (if lines = [] then []
     else (backEnd format).codeOutput (Text.unlines lines) result.error.isSome) ++
    (if result.graphics = [] then [] else (backEnd format).gallery result.graphics)

/-- What a segment has of its call is rendered as what the run inserts. -/
theorem renderResult_captured {calls : List (Call κ)} {call : Call κ} {position : Nat}
    (hcall : callAt? calls position = some call) (format : Format) (limit : Option Int) :
    renderResult (backEnd format) (call.captured.truncated limit) =
      insertedOutput format limit calls position := by
  have huncut : call.captured.truncated none = call.result none :=
    call.captured_truncated (by simp)
  rw [ExecutionResult.truncated] at huncut
  rw [truncated_eq_linesWithin, huncut, insertedOutput, hcall]
  rfl

/-- Calls for segments that capture neither lines nor figures insert nothing. -/
theorem insertedOutput_of_empty {calls : List (Call κ)}
    (h : ∀ call ∈ calls, call.task.position? ≠ none →
      (call.result none).outputLines = [] ∧ (call.result none).graphics = [])
    (format : Format) (limit : Option Int) :
    insertedOutput format limit calls = fun _ => [] := by
  funext position
  unfold insertedOutput
  cases hcall : callAt? calls position with
  | none => rfl
  | some call =>
    have hposition : call.task.position? = some position := by
      simpa using List.find?_some hcall
    obtain ⟨hlines, hgraphics⟩ := h call (List.mem_of_find?_eq_some hcall)
      (by rw [hposition]; exact Option.some_ne_none position)
    have hnone : linesWithin limit (call.result none).outputLines = [] := by
      rw [hlines]
      cases limit with
      | none => rfl
      | some n => exact List.take_nil
    simp only [hnone, hgraphics, if_true, List.append_nil]

/-! ## Main statement -/

/-- With evaluation and without it a script is refused alike; and if nothing stops its run, the
    report with evaluation is the one without, in which each segment of code has the output of its
    call behind it. Where no call captures anything the reports are the same. -/
theorem publishText_inserts_output (comments : List Chars) (o : Options) (sourceName : Chars)
    (base : Option IncludeBase) (e : Evaluator σ κ) (lines : List Chars) (s : σ) {format : Format}
    (hformat : o.format = format.name) :
    (∀ doc warnings fault, prepare comments sourceName base lines = (doc, warnings, some fault) →
      ∀ evalCode, publishText comments { o with evalCode } sourceName base e lines s =
        ⟨warnings, .error fault, s⟩) ∧
    ∀ doc warnings, prepare comments sourceName base lines = (doc, warnings, none) →
      (evaluate e o doc s).2.1 = none →
      ∃ calls, IsComplete e o doc s calls ∧
        (publishText comments { o with evalCode := false } sourceName base e lines s).report =
          .ok (reportWith format o.showCode doc fun _ => []) ∧
        (publishText comments { o with evalCode := true } sourceName base e lines s).report =
          .ok (reportWith format o.showCode doc (insertedOutput format o.maxOutputLines calls)) ∧
        ((∀ call ∈ calls, call.task.position? ≠ none →
            (call.result none).outputLines = [] ∧ (call.result none).graphics = []) →
          (publishText comments { o with evalCode := true } sourceName base e lines s).report =
            (publishText comments { o with evalCode := false } sourceName base e lines s).report) := by
  refine ⟨fun doc warnings fault hprepare evalCode => by rw [publishText, hprepare], ?_⟩
  intro doc warnings hprepare hrun
  obtain ⟨calls, hcalls, hkept, hresults⟩ := evaluate_complete e o doc s hrun
  have hbare := prepare_bare hprepare
  -- the document has no results, so its report is one with nothing inserted
  have hplain : report format o.showCode doc =
      reportWith format o.showCode doc.bare fun _ => [] := by
    refine report_eq_reportWith fun i c hi => ?_
    have hnone : (Segment.code c).bare = .code c := by
      have hmap := congrArg (fun doc : Document => doc.body[i]?) hbare
      simpa [Document.bare, hi] using hmap
    rw [outputOf, ← (CodeSegment.mk.inj (Segment.code.inj hnone)).2.2.2]
    rfl
  have hevaluated : report format o.showCode (evaluate e o doc s).1 =
      reportWith format o.showCode (evaluate e o doc s).1.bare
        (insertedOutput format o.maxOutputLines calls) := by
    refine report_eq_reportWith fun i c hi => ?_
    obtain ⟨call, hcall, hresult⟩ := hresults i c hi
    rw [← renderResult_captured hcall, outputOf, hresult, Option.elim_some]
  rw [hbare] at hplain
  rw [hkept, hbare] at hevaluated
  have hwithout : (publishText comments { o with evalCode := false } sourceName base e lines
      s).report = .ok (reportWith format o.showCode doc fun _ => []) := by
    have hidle : (evaluateIf e { o with evalCode := false } doc s).2.1 = none := rfl
    rw [publishText_of_prepare hprepare hidle hformat, ← hplain]
    rfl
  have hwith : (publishText comments { o with evalCode := true } sourceName base e lines
      s).report =
        .ok (reportWith format o.showCode doc (insertedOutput format o.maxOutputLines calls)) := by
    have hran : (evaluateIf e { o with evalCode := true } doc s).2.1 = none := hrun
    rw [publishText_of_prepare hprepare hran hformat, ← hevaluated]
    rfl
  refine ⟨calls, hcalls, hwithout, hwith, fun hempty => ?_⟩
  rw [hwith, hwithout, insertedOutput_of_empty hempty]

/-- A header between two segments of code. -/
def interruptedScript : List Chars := ["x = 1;", "%% Next", "% text", "y"]

/-- The report of a run whose second segment fails, with its error behind it. -/
theorem publishText_inserts_output_of_failsLast :
    let doc := (Script.read ["%", "#"] [] interruptedScript).1
    let run (evalCode : Bool) := publishText ["%", "#"] { shortOutput with evalCode } [] none
      (scripted 0 none true) interruptedScript failsLast
    shortOutput.format = Format.html.name ∧
      (evaluate (scripted 0 none true) shortOutput doc failsLast).2.1 = none ∧
      ∃ calls, IsComplete (scripted 0 none true) shortOutput doc failsLast calls ∧
        (run false).report = .ok (reportWith .html true doc fun _ => []) ∧
        (run true).report = .ok (reportWith .html true doc (insertedOutput .html (some 2) calls)) := by
  have hformat : shortOutput.format = Format.html.name := rfl
  have hshort : hasCutShortLine ["%", "#"] interruptedScript = false := by decide +kernel
  have hrun : (evaluate (scripted 0 none true) shortOutput
      (Script.read ["%", "#"] [] interruptedScript).1 failsLast).2.1 = none := by
    decide +kernel
  obtain ⟨calls, hcalls, hwithout, hwith, -⟩ :=
    (publishText_inserts_output ["%", "#"] shortOutput [] none (scripted 0 none true)
      interruptedScript failsLast hformat).2 _ _ (prepare_eq_read hshort []) hrun
  exact ⟨hformat, hrun, calls, hcalls, hwithout, hwith⟩

end ScriptReport.Publish

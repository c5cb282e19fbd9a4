/-
  ScriptReport.Evaluation.Evaluator

  Running the code of a document. An evaluator is called with code and a context, and answers with
  output, figures and the context for the next call; it carries a state of its own. The code
  segments are run from left to right, and the context of a call is that of the latest call that
  succeeded.
-/

import ScriptReport.Fault
import ScriptReport.Script.Document

namespace ScriptReport.Evaluation

open ScriptReport.Script

/-! ## Evaluators -/

/-- What a successful call captures. -/
structure Outcome (κ : Type) where
  outputLines : List Chars := []
  context : κ
  graphics : List Chars := []
  deriving Repr

/-- Something that runs code. Contexts are of type `κ`, and `σ` is its own state. -/
structure Evaluator (σ κ : Type) where
  /-- The context to start from where the evaluator makes none. -/
  noContext : κ
  /-- Makes the context to start from. -/
  newContext : Option (σ → κ × σ)
  /-- Runs code in a context. -/
  call : Chars → κ → σ → Except Fault (Outcome κ) × σ
  /-- Gives up a context at the end. -/
  discard : Option (κ → σ → Except Fault Unit × σ)

namespace Evaluator

variable {σ κ : Type}

/-- The evaluator that runs nothing. -/
def idle (σ κ : Type) (noContext : κ) : Evaluator σ κ where
  noContext := noContext
  newContext := some fun s => (noContext, s)
  call := fun _ context s => (.ok { context }, s)
  discard := some fun _ s => (.ok (), s)

/-- The evaluator with a second state beside its own that it leaves alone. -/
def beside (τ : Type) (e : Evaluator σ κ) : Evaluator (σ × τ) κ where
  noContext := e.noContext
  newContext := e.newContext.map fun f s =>
    let (context, own) := f s.1
    (context, (own, s.2))
  call := fun code context s =>
    let (answer, own) := e.call code context s.1
    (answer, (own, s.2))
  discard := e.discard.map fun f context s =>
    let (answer, own) := f context s.1
    (answer, (own, s.2))

end Evaluator

/-! ## Failed calls -/

/-- The output of a failed segment: what it printed, then the error and the code. -/
def errorOutputLines (message : Chars) (outputLines : List Chars) (code : Chars) : List Chars :=
  outputLines ++ Text.splitOn "\n" ("error: " ++ message ++ "\n\tin:\n\n" ++ code)

/-- The result of a segment after a successful call. -/
def Outcome.result {κ : Type} (outcome : Outcome κ) : ExecutionResult :=
  { outputLines := outcome.outputLines, graphics := outcome.graphics }

/-- The result of a segment after a failed call. -/
def failedResult (message : Chars) (outputLines : List Chars) (code : Chars) : ExecutionResult :=
  { outputLines := errorOutputLines message outputLines code, error := some message }

/-! ## Running a document -/

/-- How far a run has come: the segments, the context, the fault that ended it, and the state. -/
structure Progress (σ κ : Type) where
  segments : List Segment
  context : κ
  fault : Option Fault
  state : σ

variable {σ κ : Type}

/-- Runs the code segments in order. A failed call ends the run unless errors are caught. -/
def runSegments (e : Evaluator σ κ) (catchError : Bool) (limit : Option Int) :
    List Segment → κ → σ → Progress σ κ
  | [], context, s => ⟨[], context, none, s⟩
  | .header h :: rest, context, s =>
    let p := runSegments e catchError limit rest context s
    { p with segments := .header h :: p.segments }
  | .code c :: rest, context, s =>
    match e.call c.code context s with
    | (.ok outcome, s) =>
      let p := runSegments e catchError limit rest outcome.context s
      let result := outcome.result.truncated limit
      { p with segments := .code { c with result := some result } :: p.segments }
    | (.error fault, s) =>
      match fault, catchError with
      | .evaluation message lines, true =>
        let p := runSegments e catchError limit rest context s
        let result := (failedResult message lines c.code).truncated limit
        { p with segments := .code { c with result := some result } :: p.segments }
      | fault, _ => ⟨.code c :: rest, context, some fault, s⟩

/-- Runs the code before the first segment, if there is any. -/
def runPrelude (e : Evaluator σ κ) (code : Chars) (context : κ) (s : σ) :
    Except Fault κ × σ :=
  if Text.isBlank code then (.ok context, s)
  else
    match e.call code context s with
    | (.ok outcome, s) => (.ok outcome.context, s)
    | (.error fault, s) => (.error fault, s)

/-- The document with the results of its code, the fault that ended the run, and the state. The
    last context is given up in any case; a fault in that replaces an earlier one. -/
def evaluate (e : Evaluator σ κ) (o : Options) (doc : Document) (s : σ) :
    Document × Option Fault × σ :=
  let (context, s) := match e.newContext with
    | some make => make s
    | none => (e.noContext, s)
  let p : Progress σ κ := match runPrelude e o.codeToEvaluate context s with
    | (.ok context, s) => runSegments e o.catchError o.maxOutputLines doc.body context s
    | (.error fault, s) => ⟨doc.body, context, some fault, s⟩
  let (fault, s) := match e.discard with
    | none => (p.fault, p.state)
    | some discard =>
      match discard p.context p.state with
      | (.ok (), s) => (p.fault, s)
      | (.error fault, s) => (some fault, s)
  ({ doc with body := p.segments }, fault, s)

end ScriptReport.Evaluation

/-
  ScriptReport.Evaluation.Scripted

  An evaluator that answers from a list of replies and records how it is called.
-/

import ScriptReport.Evaluation.Evaluator

namespace ScriptReport.Evaluation

/-! ## Replies and records -/

/-- The answer to one call. -/
structure Reply (κ : Type) where
  /-- The call fails with this message. -/
  error : Option Chars := none
  outputLines : List Chars := []
  graphics : List Chars := []
  /-- The context of the answer, if it is not that of the call. -/
  context : Option κ := none
  deriving Repr

/-- What an evaluator is asked to do. -/
inductive Request (κ : Type) where
  | run (code : Chars) (context : κ)
  | discard (context : κ)
  deriving Repr

/-- The replies that are left, and the requests so far. -/
structure Rehearsal (κ : Type) where
  replies : List (Reply κ)
  log : List (Request κ) := []
  deriving Repr

/-! ## The evaluator -/

variable {κ : Type}

/-- The outcome of a reply to a call in the given context. -/
def Reply.outcome (reply : Reply κ) (context : κ) : Except Fault (Outcome κ) :=
  match reply.error with
  | some message => .error (.evaluation message reply.outputLines)
  | none =>
    .ok {
      outputLines := reply.outputLines
      graphics := reply.graphics
      context := reply.context.getD context }

/-- An evaluator that gives the replies one after another and then empty ones. It makes a context
    if it has one to start from, and records given-up contexts if it is asked to. -/
def scripted (noContext : κ) (start : Option κ) (discards : Bool) :
    Evaluator (Rehearsal κ) κ where
  noContext := noContext
  newContext := start.map fun context s => (context, s)
  call := fun code context s =>
    ((s.replies.headD {}).outcome context, ⟨s.replies.tail, s.log ++ [.run code context]⟩)
  discard :=
    if discards then some fun context s => (.ok (), { s with log := s.log ++ [.discard context] })
    else none

end ScriptReport.Evaluation

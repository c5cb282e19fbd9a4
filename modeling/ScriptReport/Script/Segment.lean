/-
  ScriptReport.Script.Segment

  A script falls into runs: a header with its body lines, or lines of code up to the next header.
  The runs hold every line once. Segments are what the runs amount to: code without the blank
  lines around it, headers unless they say nothing, each with its range of lines. A first header
  that only text and blank lines separate from the next one is the title of the script.
-/

import ScriptReport.Script.Block
import ScriptReport.Script.Item
import ScriptReport.Script.Line

namespace ScriptReport.Script

/-! ## Results of evaluation -/

/-- What was captured when the code of a segment was run. -/
structure ExecutionResult where
  outputLines : List Chars := []
  /-- The names of the figures drawn. -/
  graphics : List Chars := []
  error : Option Chars := none
  deriving DecidableEq, Repr

/-- The first `limit` members; a negative limit leaves out that many at the end. -/
def firstOf {α : Type} (limit : Int) (xs : List α) : List α :=
  match limit with
  | .ofNat n => xs.take n
  | .negSucc n => xs.take (xs.length - (n + 1))

/-- The result with its output cut to the limit, if there is one. -/
def ExecutionResult.truncated (result : ExecutionResult) (limit : Option Int) : ExecutionResult :=
  match limit with
  | none => result
  | some limit =>
    if (result.outputLines.length : Int) ≤ limit then result
    else { result with outputLines := firstOf limit result.outputLines }

/-! ## Segments -/

/-- Lines of code, with the range they take in the script, ends included. -/
structure CodeSegment where
  lines : List Chars
  start : Nat
  stop : Nat
  result : Option ExecutionResult := none
  deriving DecidableEq, Repr

/-- The code of a segment. -/
def CodeSegment.code (segment : CodeSegment) : Chars := Text.unlines segment.lines

/-- A header and the lines under it. -/
structure HeaderSegment where
  title : Chars
  /-- The header starts a new section. -/
  breaksSection : Bool
  /-- The body lines without their comment characters. -/
  body : List Chars
  start : Nat
  stop : Nat
  content : List Item := []
  deriving DecidableEq, Repr

/-- A segment of a script. -/
inductive Segment where
  | code (segment : CodeSegment)
  | header (segment : HeaderSegment)
  deriving DecidableEq, Repr

/-- The first line of a segment. -/
def Segment.start : Segment → Nat
  | .code s => s.start
  | .header s => s.start

/-- The last line of a segment. -/
def Segment.stop : Segment → Nat
  | .code s => s.stop
  | .header s => s.stop

/-- The title of a script, and the lines under it. -/
structure TitleIntro where
  title : Chars
  body : List Chars
  start : Nat
  stop : Nat
  deriving DecidableEq, Repr

/-! ## Runs -/

/-- A stretch of a script. -/
inductive Run where
  /-- A header line and the body lines after it. -/
  | header (head : Chars) (body : List Chars)
  /-- The lines up to the next header. -/
  | code (lines : List Chars)
  deriving DecidableEq, Repr

/-- The lines of a run. -/
def Run.lines : Run → List Chars
  | .header head body => head :: body
  | .code lines => lines

/-- The runs of a script, in order. -/
def runs (comments : List Chars) : List Chars → List Run
  | [] => []
  | line :: rest =>
    if isHeader comments line then
      .header line (rest.takeWhile (isBodyLine comments)) ::
        runs comments (rest.dropWhile (isBodyLine comments))
    else
      .code (line :: rest.takeWhile (!isHeader comments ·)) ::
        runs comments (rest.dropWhile (!isHeader comments ·))
termination_by lines => lines.length
decreasing_by
  · have := length_dropWhile_le (isBodyLine comments) rest
    simp only [List.length_cons]; omega
  · have := length_dropWhile_le (!isHeader comments ·) rest
    simp only [List.length_cons]; omega

/-- The segment of a run that starts at line `start`, if it amounts to one: a header needs a title
    or text under it, and code needs a line that is not blank. -/
def Run.segment? (comments : List Chars) (start : Nat) : Run → Option Segment
  | .header head body =>
    let title := headerTitle comments head
    let body := body.map (stripMarkup 1)
    if title = [] && body.all Text.isBlank then none
    else
      some (.header {
        title, body, start
        breaksSection := !isInnerHeader comments head
        stop := start + body.length })
  | .code lines =>
    let leading := (lines.takeWhile Text.isBlank).length
    let trimmed := ((lines.drop leading).reverse.dropWhile Text.isBlank).reverse
    if trimmed = [] then none
    else
      some (.code {
        lines := trimmed
        start := start + leading
        stop := start + leading + trimmed.length - 1 })

/-- The segments of consecutive runs, the first of which starts at line `start`. -/
def segmentsOf (comments : List Chars) (start : Nat) : List Run → List Segment
  | [] => []
  | run :: rest =>
    (run.segment? comments start).toList ++
      segmentsOf comments (start + run.lines.length) rest

/-! ## The whole script -/

/-- The title of the script, if its first line is a header and, after the body lines and any blank
    lines, another header follows. -/
def titleIntro? (comments : List Chars) (lines : List Chars) : Option TitleIntro :=
  match lines with
  | [] => none
  | head :: rest =>
    let after := (rest.dropWhile (isBodyLine comments)).dropWhile Text.isBlank
    if isHeader comments head && (after.head?.map (isHeader comments)).getD false then
      let body := rest.takeWhile (isBodyLine comments)
      some {
        title := headerTitle comments head
        body := body.map (stripMarkup 1)
        start := 0
        stop := body.length }
    else none

/-- The title of a script, if it has one, and its segments. -/
def segmentation (comments : List Chars) (lines : List Chars) :
    Option TitleIntro × List Segment :=
  match titleIntro? comments lines with
  | some intro =>
    (some intro, segmentsOf comments (intro.stop + 1) (runs comments (lines.drop (intro.stop + 1))))
  | none => (none, segmentsOf comments 0 (runs comments lines))

/-- The lines of a run that are looked at as possible headers: all but those under a header. -/
def Run.candidates : Run → List Chars
  | .header head _ => [head]
  | .code lines => lines

/-- The class of some line cannot be told: it is too short to be looked at as a header of the
    longest markup. -/
def hasCutShortLine (comments : List Chars) (lines : List Chars) : Bool :=
  (runs comments lines).any fun run => run.candidates.any (isCutShort comments 3)

end ScriptReport.Script

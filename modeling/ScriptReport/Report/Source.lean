/-
  ScriptReport.Report.Source

  Recovering the script that a report keeps. It starts after the first opener that a footer
  writes, and ends before the last end line of the report.
-/

import ScriptReport.Fault
import ScriptReport.Html.Reference
import ScriptReport.Report.BackEnd

namespace ScriptReport.Report

/-! ## Where the script starts -/

/-- What stands before the script in an HTML report. -/
def htmlOpener : Chars := "<!--\n" ++ sourceBegin ++ "\n"

/-- What stands before the script in a LaTeX report. -/
def latexOpener : Chars := "\\begin\x7bcomment\x7d\n" ++ sourceBegin ++ "\n"

/-- How the script is written in a report. -/
inductive SourceCoding where
  /-- Character by character. -/
  | plain
  /-- With markup characters as references. -/
  | references
  deriving DecidableEq, Repr

/-- The position after the first line that is the begin line; `atLineStart` holds at the front of
    a line. -/
def afterBeginLine? (atLineStart : Bool) (position : Nat) : Chars → Option Nat
  | [] => none
  | c :: rest =>
    match (if atLineStart then Text.afterOpening? sourceBegin (c :: rest) else none) with
    | some [] => some (position + sourceBegin.length)
    | some ('\n' :: _) => some (position + sourceBegin.length + 1)
    | _ => afterBeginLine? (c = '\n') (position + 1) rest

/-- Where the script starts and how it is written: after an opener of either format, or else,
    as in a report edited by hand, after a begin line on its own. -/
def sourceStart? (report : Chars) : Option (Nat × SourceCoding) :=
  match Text.find? htmlOpener report with
  | some i => some (i + htmlOpener.length, .references)
  | none =>
    match Text.find? latexOpener report with
    | some i => some (i + latexOpener.length, .plain)
    | none => (afterBeginLine? true 0 report).map fun i => (i, .plain)

/-! ## The script -/

/-- The line feed before the end line belongs to the end line. -/
def endMarker : Chars := '\n' :: sourceEnd

/-- Where the script of a report starts and stops, and how it is written there. -/
def sourceSpan (report : Chars) : Except Fault (Nat × Nat × SourceCoding) :=
  match sourceStart? report with
  | none => .error (.input .noSourceBegin)
  | some (start, coding) =>
    match Text.findLast? endMarker report with
    | none => .error (.input .noSourceEnd)
    | some stop =>
      if stop + 1 < start then .error (.input .noSourceEnd)
      else .ok (start, max start stop, coding)

/-- What a script stands for as it is written in a report. -/
def SourceCoding.decode : SourceCoding → Chars → Except Fault Chars
  | .plain, text => .ok text
  | .references, text =>
    match ScriptReport.Html.overlongNumber? 0 text with
    | some digits => .error (.overlongNumber digits)
    | none => .ok (ScriptReport.Html.unescape text)

/-- The script that a report keeps. -/
def extractSource (report : Chars) : Except Fault Chars := do
  let (start, stop, coding) ← sourceSpan report
  coding.decode ((report.take stop).drop start)

/-! ## Reports with surrogates -/

/-- What a script with surrogates stands for. No reference holds a surrogate, and what is before
    one and what is behind it are read by themselves. -/
def SourceCoding.decodeWide : SourceCoding → Text.Wide → Except Fault Text.Wide
  | .plain, text => .ok text
  | .references, text =>
    match ScriptReport.Html.overlongNumber? 0 text.marked with
    | some digits => .error (.overlongNumber digits)
    | none => .ok (text.mapRuns ScriptReport.Html.unescape)

/-- The script that a report with surrogates keeps. They are in none of the marks of the script. -/
def extractWide (report : Text.Wide) : Except Fault Text.Wide := do
  let (start, stop, coding) ← sourceSpan report.marked
  coding.decodeWide ((report.take stop).drop start)

/-! ## Laws -/

theorem SourceCoding.decodeWide_ofChars (coding : SourceCoding) (text : Chars) :
    coding.decodeWide (.ofChars text) = (coding.decode text).map Text.Wide.ofChars := by
  cases coding with
  | plain => rfl
  | references =>
    simp only [decodeWide, decode, Text.Wide.marked_ofChars, Text.Wide.mapRuns_ofChars]
    cases ScriptReport.Html.overlongNumber? 0 text <;> rfl

/-- From a report of characters, the same script is recovered in either way. -/
theorem extractWide_ofChars (report : Chars) :
    extractWide (.ofChars report) = (extractSource report).map Text.Wide.ofChars := by
  rw [extractWide, extractSource, Text.Wide.marked_ofChars]
  cases sourceSpan report with
  | error fault => rfl
  | ok span =>
    have hcut : ((Text.Wide.ofChars report).take span.2.1).drop span.1 =
        Text.Wide.ofChars ((report.take span.2.1).drop span.1) := by
      simp only [Text.Wide.ofChars, List.map_drop, List.map_take]
    show span.2.2.decodeWide _ = (span.2.2.decode _).map Text.Wide.ofChars
    rw [hcut, SourceCoding.decodeWide_ofChars]

end ScriptReport.Report

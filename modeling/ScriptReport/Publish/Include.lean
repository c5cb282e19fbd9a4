/-
  ScriptReport.Publish.Include

  Filling in the files that a document includes. A file that cannot be read, or lies outside the
  directory of the script, is left out with a warning.
-/

import ScriptReport.Publish.Input

namespace ScriptReport.Publish

open ScriptReport.Script

/-! ## Items -/

/-- The fault leaves an included file out and does not stop the run. -/
def isRecoverable (fault : Fault) : Bool := fault.isSystemFault || fault.isInputFault

/-- The items with the included files read, the warnings, and the fault that stopped it. -/
def includeInItems (disk : Disk) (script : Path) :
    List Item → List Item × List Warning × Option Fault
  | [] => ([], [], none)
  | .included path text :: rest =>
    match readInclude disk path script with
    | .ok content =>
      let (items, warnings, fault) := includeInItems disk script rest
      (.included path (some content) :: items, warnings, fault)
    | .error fault =>
      if isRecoverable fault then
        let (items, warnings, later) := includeInItems disk script rest
        (.included path text :: items, .cannotInclude path fault.message :: warnings, later)
      else (.included path text :: rest, [], some fault)
  | item :: rest =>
    let (items, warnings, fault) := includeInItems disk script rest
    (item :: items, warnings, fault)

/-- The segments with the files included in the text under their headers. -/
def includeInSegments (disk : Disk) (script : Path) :
    List Segment → List Segment × List Warning × Option Fault
  | [] => ([], [], none)
  | .code c :: rest =>
    let (segments, warnings, fault) := includeInSegments disk script rest
    (.code c :: segments, warnings, fault)
  | .header h :: rest =>
    match includeInItems disk script h.content with
    | (content, warnings, some fault) => (.header { h with content } :: rest, warnings, some fault)
    | (content, warnings, none) =>
      let (segments, more, fault) := includeInSegments disk script rest
      (.header { h with content } :: segments, warnings ++ more, fault)

/-! ## Documents -/

/-- The document with the included files of the introduction and of every header. -/
def resolveIncludes (disk : Disk) (script : Path) (doc : Document) :
    Document × List Warning × Option Fault :=
  match includeInItems disk script doc.intro with
  | (intro, warnings, some fault) => ({ doc with intro }, warnings, some fault)
  | (intro, warnings, none) =>
    let (body, more, fault) := includeInSegments disk script doc.body
    ({ doc with intro, body }, warnings ++ more, fault)

end ScriptReport.Publish

/-
  ScriptReport.Viewer.Answer

  The pages of the viewer. Which of them a URL asks for is told by a router, which answers by itself
  where it is none of them. A file is only served if it lies at or below the script directory once
  all links are followed.
-/

import ScriptReport.Publish.Recover
import ScriptReport.Viewer.Page

namespace ScriptReport.Viewer

open ScriptReport.Script (Warning)

/-! ## Answers -/

/-- The answer to a request. -/
inductive Answer where
  | page (body : Chars)
  | plainText (body : Chars)
  /-- The page is found at another path. -/
  | redirect
  | badRequest
  | notFound
  /-- Answering failed. -/
  | failure
  deriving DecidableEq, Repr

/-- The number of an answer. -/
def Answer.status : Answer → Nat
  | .page _ => 200
  | .plainText _ => 200
  | .redirect => 308
  | .badRequest => 400
  | .notFound => 404
  | .failure => 500

/-- The media type of an answer that has a body, and the body. -/
def Answer.content? : Answer → Option (Chars × Chars)
  | .page body => some ("text/html", body)
  | .plainText body => some ("text/plain", body)
  | _ => none

/-- The final path of a file below a directory, if there is such a file. -/
def resolveInside (disk : Disk) (directory : Path) (name : Chars) :
    Except FileFault (Option Path) := do
  let base ← disk.resolve false directory
  let target ← disk.resolve false (base.append (Path.ofText name))
  if (base.below? target).isNone then return none
  if !(← disk.hasFile target) then return none
  return some target

/-- The links beside a page. -/
def sidebar (config : Config) (disk : Disk) (directory : Path) (current : Chars) :
    Except FileFault Chars := do
  return treeLinks (← scriptTree disk directory config.scriptSuffixes) current

/-- The start page. -/
def startPage (config : Config) (disk : Disk) (directory : Path) : Answer :=
  match sidebar config disk directory [] with
  | .ok links => .page (page startTitle links startContent)
  | .error _ => .failure

/-- The page of a script. -/
def viewPage (config : Config) (disk : Disk) (directory : Path) (name : Chars) :
    List Warning × Answer :=
  match disk.resolve false directory with
  | .error _ => ([], .failure)
  | .ok base =>
    match resolveInside disk base name with
    | .error _ => ([], .failure)
    | .ok none => ([], .notFound)
    | .ok (some script) =>
      if !config.scriptSuffixes.contains (Text.lower script.suffix) then ([], .notFound)
      else
        match showScript config disk script with
        | (warnings, .error _) => (warnings, .failure)
        | (warnings, .ok shown) =>
          let current := Text.join "/" ((base.below? script).getD [])
          match sidebar config disk directory current with
          | .error _ => (warnings, .failure)
          | .ok links => (warnings, .page (page shown.title links shown.body))

/-- The script of a report. -/
def recoverPage (disk : Disk) (directory : Path) (name : Chars) : Answer :=
  match resolveInside disk directory name with
  | .error _ => .failure
  | .ok none => .notFound
  | .ok (some report) =>
    if !Publish.hasReportSuffix report then .notFound
    else
      match Publish.recoverFile disk report with
      | .ok code => .plainText code
      | .error fault => if fault.isInputFault then .notFound else .failure

/-! ## Routes -/

/-- What a URL asks for. -/
inductive Route where
  | start
  | view (name : Chars)
  | recover (name : Chars)
  /-- None of the pages; this is the answer. -/
  | elsewhere (answer : Answer)
  deriving DecidableEq, Repr

/-- A router tells what a URL asks for, unless it is no URL. -/
abbrev Router : Type := Chars → Except Fault Route

/-- The answer on a route, and the warnings. -/
def Route.answer (config : Config) (disk : Disk) (directory : Path) : Route → List Warning × Answer
  | .start => ([], startPage config disk directory)
  | .view name => viewPage config disk directory name
  | .recover name => ([], recoverPage disk directory name)
  | .elsewhere answer => ([], answer)

/-- The answer to the request for a URL, and the warnings. -/
def Router.respond (router : Router) (config : Config) (disk : Disk) (directory : Path)
    (url : Chars) : List Warning × Except Fault Answer :=
  match router url with
  | .error fault => ([], .error fault)
  | .ok route =>
    let (warnings, answer) := route.answer config disk directory
    (warnings, .ok answer)

end ScriptReport.Viewer

/-
  ScriptReport.Viewer.Page

  The pages of the viewer: a sidebar with the scripts, and the content beside it. A script is
  shown as in its HTML report, from the title heading on and without contents and footer.
-/

import ScriptReport.Publish.Input
import ScriptReport.Report.Render
import ScriptReport.Viewer.Folder

namespace ScriptReport.Viewer

open ScriptReport.Script

/-! ## Scripts -/

/-- A script as it is shown: its title and its fragments. -/
structure Shown where
  title : Chars
  body : Chars
  deriving DecidableEq, Repr

/-- The fragments of a document. -/
def documentBody (showCode : Bool) (doc : Document) : Chars :=
  let b := Report.Html.backEnd
  let (body, s) := Report.renderBody b showCode doc.body {}
  Report.Html.titleHeading doc.shownTitle ++ Report.renderItems b doc.intro ++ body ++
    (Report.Html.closeSection s).1

/-- A script file as it is shown, and the warnings. Its code is not run. -/
def showScript (config : Config) (disk : Disk) (path : Path) :
    List Warning × Except Fault Shown :=
  match Publish.readScriptLines disk path >>= Publish.documentOf config.comments path.name with
  | .error fault => ([], .error fault)
  | .ok (doc, warnings) =>
    match Options.fromConfig config
      [⟨"format", .text Format.html.name⟩, ⟨"eval_code", .flag false⟩] with
    | .error fault => (warnings, .error (.options fault))
    | .ok o => (warnings, .ok ⟨doc.shownTitle, documentBody o.showCode doc⟩)

/-! ## Layout -/

/-- The lines of a page before its title. -/
def pageTop : Chars :=
  "\n<!doctype html>\n<html lang=\"en\">\n<head>\n  <meta charset=\"utf-8\">\n  <title>"

/-- The lines of a page between its title and the links. -/
def pageMiddle : Chars :=
  "</title>\n  <meta name=\"viewport\" content=\"width=device-width, initial-scale=1\">\n" ++
  "  <script type=\"text/javascript\" async\n    src=\"" ++ Report.Html.mathScript ++
  "\"></script>\n</head>\n<body class=\"with-sidebar\">\n  <div class=\"layout\">\n" ++
  "    <aside class=\"sidebar\">\n" ++
  "      <div class=\"sidebar-title\"><a href=\"/\">Script Viewer</a></div>\n\n" ++
  "      <div class=\"sidebar-section\">\n" ++
  "        <div class=\"sidebar-label\">Scripts</div>\n        "

/-- The lines of a page between the links and the content. -/
def pageGap : Chars :=
  "\n      </div>\n    </aside>\n\n    <main class=\"content\">\n    "

/-- The lines of a page after the content. -/
def pageBottom : Chars := "\n    </main>\n  </div>\n</body>\n</html>"

/-- A page. Of its parts only the title is text and is escaped. -/
def page (title links content : Chars) : Chars :=
  pageTop ++ Html.escapeForTemplate title ++ pageMiddle ++ links ++ pageGap ++ content ++
    pageBottom

/-- The title of the start page. -/
def startTitle : Chars := "Script Viewer"

/-- The content of the start page. -/
def startContent : Chars :=
  "\n      <h1>Script Viewer</h1>\n      <p>Choose a script on the left.</p>\n    "

end ScriptReport.Viewer

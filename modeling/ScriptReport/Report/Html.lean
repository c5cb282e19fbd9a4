/-
  ScriptReport.Report.Html

  HTML reports. Every text is escaped on its way in, except the markup of raw HTML regions and
  fragments that were rendered before. Sections are containers; the script is kept in a comment.
-/

import ScriptReport.Html.Escape
import ScriptReport.Report.BackEnd

namespace ScriptReport.Report.Html

open ScriptReport.Html (escape escapeMarkup)
open ScriptReport.Script (Style)

/-! ## Constants -/

/-- Where the script that typesets formulas is loaded from. -/
def mathScript : Chars :=
  "https://cdn.jsdelivr.net/npm/mathjax@2/MathJax.js?config=TeX-MML-AM_CHTML"

/-- The name of the program in a report. -/
def generator : Chars := "octave-publish"

/-- A link that is an entry of the contents; `anchor` counts from one. -/
def contentsEntry (anchor : Nat) (entry : Chars × Bool) : Chars :=
  "<li" ++ (if entry.2 then [] else " class=\"no-break\"".toList) ++ "><a href=\"#node" ++
    Text.ofNat anchor ++ "\">" ++ escape entry.1 ++ "</a></li>\n"

/-- The entries of the contents, the first with the given anchor. -/
def contentsEntries (anchor : Nat) : List (Chars × Bool) → Chars
  | [] => []
  | entry :: rest => contentsEntry anchor entry ++ contentsEntries (anchor + 1) rest

/-- The contents, left out if there are no titled headings. -/
def contentsBlock (contents : List (Chars × Bool)) : Chars :=
  if contents = [] then []
  else "<h2>Contents</h2>\n<ul>\n" ++ contentsEntries 1 contents ++ "</ul>\n"

/-- The heading that shows the title. -/
def titleHeading (title : Chars) : Chars := "<h1>" ++ escape title ++ "</h1>\n"

/-- The lines before the title heading. -/
def prolog (title : Chars) : Chars :=
  "<!DOCTYPE html>\n<html>\n<head>\n<meta charset=\"UTF-8\">\n<meta name=\"generator\" content=\"" ++
    generator ++ "\">\n<title>" ++ escape title ++
    "</title>\n<script type=\"text/javascript\" async src=\"" ++ mathScript ++
    "\"></script>\n</head>\n<body>\n"

/-- The beginning of a report. -/
def header (title intro : Chars) (contents : List (Chars × Bool)) : Chars :=
  prolog title ++ titleHeading title ++ intro ++ contentsBlock contents

/-! ## Sections -/

/-- Opens a section container, after closing the one that is open. -/
def openSection (s : State) : Chars × State :=
  ((if s.insideSection then "</div>\n".toList else []) ++ "<div class=\"section\">\n",
    { s with insideSection := true })

/-- Closes the section container that is open. -/
def closeSection (s : State) : Chars × State :=
  if s.insideSection then ("</div>\n", { s with insideSection := false }) else ([], s)

/-- A heading of the given element with an anchor. -/
def heading (element title : Chars) (s : State) : Chars × State :=
  let (anchor, s) := s.nextAnchor
  ("<" ++ element ++ "><a name=\"node" ++ Text.ofNat anchor ++ "\">" ++ escape title ++ "</a></" ++
    element ++ ">\n", s)

/-- A new section; an untitled one has no heading. -/
def section_ (title : Chars) (s : State) : Chars × State :=
  let (opened, s) := openSection s
  if title = [] then (opened, s)
  else
    let (head, s) := heading "h2" title s
    (opened ++ head, s)

/-- A heading inside the current section; an untitled one is nothing. -/
def sectionNoBreak (title : Chars) (s : State) : Chars × State :=
  if title = [] then ([], s) else heading "h3" title s

/-! ## Elements -/

/-- Preformatted text of the given class. -/
def pre (cls text : Chars) : Chars :=
  "<pre class=\"" ++ cls ++ "\">" ++ escape text ++ "</pre>\n"

/-- A list of the given element. -/
def list (element : Chars) (items : List Chars) : Chars :=
  "<" ++ element ++ ">" ++ Text.concatMap (fun item => "<li>" ++ item ++ "</li>") items ++ "</" ++
    element ++ ">\n"

/-- An image that stands for the file at a path. -/
def image (path : Chars) : Chars :=
  "<img src=\"" ++ escape path ++ "\" alt=\"" ++ escape path ++ "\">"

/-- The element of a style. -/
def styleElement : Style → Chars
  | .bold => "b"
  | .italic => "i"
  | .monospaced => "code"

/-- A file that is shown, if it could be read. -/
def included (path : Chars) : Option Chars → Chars
  | none => []
  | some text =>
    "<pre class=\"oct-code\" data-include=\"" ++ escape path ++ "\">" ++ escape text ++ "</pre>\n"

/-! ## The end of a report -/

/-- The comment that keeps the script: its markup characters are references, so that it cannot
    end the comment. -/
def sourceComment (source : Chars) : Chars :=
  "<!--\n" ++ sourceBegin ++ "\n" ++ escapeMarkup source ++ "\n" ++ sourceEnd ++ "\n-->\n"

/-- The end of a report. -/
def footer (source : Chars) (s : State) : Chars × State :=
  let (closed, s) := closeSection s
  (closed ++ "\n<footer>Published with " ++ generator ++ "</footer>\n" ++ sourceComment source ++
    "</body>\n</html>\n", s)

/-! ## The format -/

/-- The HTML format. LaTeX markup has no rendition in it. -/
def backEnd : BackEnd where
  fileSuffix := ".html"
  escape := escape
  header := fun title intro contents s =>
    (header title intro contents, { s.resetCounter with insideSection := false })
  footer := footer
  code := pre "oct-code"
  codeOutput := fun text isError =>
    pre (if isError then "oct-code-output error" else "oct-code-output") text
  section_ := section_
  sectionNoBreak := sectionNoBreak
  preformattedCode := pre "pre-code"
  preformattedText := pre "pre-text"
  bulletedList := list "ul"
  numberedList := list "ol"
  included := included
  graphic := fun path => image path ++ "\n"
  gallery := fun paths => "<div class=\"oct-figures\">" ++ Text.concatMap image paths ++ "</div>\n"
  html := fun raw => raw ++ "\n"
  latex := fun _ => []
  text := fun rendered => "<p>" ++ rendered ++ "</p>\n"
  styled := fun style rendered =>
    "<" ++ styleElement style ++ ">" ++ rendered ++ "</" ++ styleElement style ++ ">"
  link := fun url label => "<a href=\"" ++ escape url ++ "\">" ++ label ++ "</a>"
  mathInline := fun source => "\\(" ++ escape source ++ "\\)"
  mathBlock := fun source => "$$" ++ escape source ++ "$$"
  trademark := "&trade;"
  registered := "&reg;"

end ScriptReport.Report.Html

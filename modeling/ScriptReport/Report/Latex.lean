/-
  ScriptReport.Report.Latex

  LaTeX reports. Titles, text and labels are escaped; code, output and the script go into
  environments that read them as they are.
-/

import ScriptReport.Report.BackEnd

namespace ScriptReport.Report.Latex

open ScriptReport.Script (Style)

/-! ## Escaping -/

/-- A character as LaTeX text. -/
def escapeChar (c : Char) : Chars :=
  if c = '\\' then "\\textbackslash\x7b\x7d"
  else if c = '~' then "\\textasciitilde\x7b\x7d"
  else if c = '^' then "\\textasciicircum\x7b\x7d"
  else if "&%$#_\x7b\x7d".toList.contains c then ['\\', c]
  else [c]

/-- A text as LaTeX text. -/
def escape (text : Chars) : Chars := Text.concatMap escapeChar text

/-- A character of the address of a link, where most special characters are read literally. -/
def escapeUrlChar (c : Char) : Chars := if c = '%' || c = '#' then ['\\', c] else [c]

/-- The address of a link. -/
def escapeUrl (url : Chars) : Chars := Text.concatMap escapeUrlChar url

/-! ## Building blocks -/

/-- An argument in braces. -/
def group (text : Chars) : Chars := '{' :: text ++ ['}']

/-- A command with one argument. -/
def command (name argument : Chars) : Chars := '\\' :: name ++ group argument

/-- The beginning of an environment, with its options written out. -/
def beginEnv (name options : Chars) : Chars := command "begin" name ++ options ++ "\n"

/-- The end of an environment. -/
def endEnv (name : Chars) : Chars := command "end" name ++ "\n"

/-- An environment around lines of text. -/
def environment (name options body : Chars) : Chars :=
  beginEnv name options ++ body ++ endEnv name

/-- A listing with the given options. -/
def listing (options text : Chars) : Chars :=
  environment "lstlisting" options (text ++ "\n")

/-- A command with one argument on a line of its own. -/
def commandLine (name argument : Chars) : Chars := command name argument ++ "\n"

/-! ## The beginning of a report -/

/-- The definition of a listing style. -/
def listingStyle (name : Chars) (settings : List Chars) : Chars :=
  command "lstdefinestyle" name ++ "\x7b\n" ++ Text.join ",\n" settings ++ "\x7d\n"

/-- The document class, packages and listing styles. -/
def preamble : Chars :=
  "\\documentclass[a4paper,12pt]" ++ group "article" ++ "\n" ++
  commandLine "usepackage" "listings" ++
  commandLine "usepackage" "graphicx" ++
  commandLine "usepackage" "color" ++
  commandLine "usepackage" "verbatim" ++
  commandLine "usepackage" "hyperref" ++
  "\\usepackage[T1]" ++ group "fontenc" ++ "\n" ++
  commandLine "usepackage" "textcomp" ++
  command "definecolor" "lightgray" ++ group "rgb" ++ group "0.9,0.9,0.9" ++ "\n" ++
  listingStyle "source"
    ["language = Octave", "basicstyle = \\footnotesize", "numbers = left",
     "numberstyle = \\footnotesize", "backgroundcolor = " ++ command "color" "lightgray",
     "frame = single", "tabsize = 2", "breaklines = true"] ++
  listingStyle "output"
    ["language = Octave", "basicstyle = \\footnotesize", "numbers = none",
     "backgroundcolor = " ++ command "color" "white", "frame = none", "tabsize = 2",
     "breaklines = true"]

/-- The beginning of a report; the contents are left out if there are no titled headings. -/
def header (title intro : Chars) (contents : List (Chars × Bool)) : Chars :=
  preamble ++ beginEnv "document" [] ++ commandLine "title" (escape title) ++
    commandLine "date" [] ++ "\\maketitle\n" ++ intro ++
    (if contents = [] then [] else "\\tableofcontents\n".toList)

/-! ## Sections -/

/-- The label of the next anchor. -/
def label (s : State) : Chars × State :=
  let (anchor, s) := s.nextAnchor
  (command "label" ("node" ++ Text.ofNat anchor) ++ "\n", s)

/-- A new section; an untitled one is a space. -/
def section_ (title : Chars) (s : State) : Chars × State :=
  if title = [] then ("\\bigskip\n", s)
  else
    let (mark, s) := label s
    (command "section" (escape title) ++ mark, s)

/-- A heading inside the current section, listed in the contents; an untitled one is nothing. -/
def sectionNoBreak (title : Chars) (s : State) : Chars × State :=
  if title = [] then ([], s)
  else
    let (mark, s) := label s
    (command "subsection*" (escape title) ++ mark ++
      command "addcontentsline" "toc" ++ group "subsection" ++ group (escape title) ++ "\n", s)

/-! ## Elements -/

/-- A list of the given environment. -/
def list (name : Chars) (items : List Chars) : Chars :=
  environment name [] (Text.concatMap (fun item => "\\item " ++ item ++ "\n") items)

/-- The command of a style. -/
def styleCommand : Style → Chars
  | .bold => "textbf"
  | .italic => "textit"
  | .monospaced => "texttt"

/-- A file that is shown, if it could be read. -/
def included (path : Chars) : Option Chars → Chars
  | none => []
  | some text => listing ("[style=source,title=" ++ group (escape path) ++ "]") text

/-- The end of a report, which keeps the script in a comment. -/
def footer (source : Chars) (s : State) : Chars × State :=
  (environment "comment" [] (sourceBegin ++ "\n" ++ source ++ "\n" ++ sourceEnd ++ "\n") ++
    endEnv "document", s)

/-! ## The format -/

/-- The LaTeX format. HTML markup has no rendition in it. -/
def backEnd : BackEnd where
  fileSuffix := ".tex"
  escape := escape
  header := fun title intro contents s => (header title intro contents, s.resetCounter)
  footer := footer
  code := listing "[style=source]"
  codeOutput := fun text isError =>
    listing ("[style=output,title=" ++ (if isError then "Error".toList else "Output") ++ "]") text
  section_ := section_
  sectionNoBreak := sectionNoBreak
  preformattedCode := listing "[style=source,numbers=none]"
  preformattedText := fun text => environment "verbatim" [] (text ++ "\n")
  bulletedList := list "itemize"
  numberedList := list "enumerate"
  included := included
  graphic := fun path => environment "center" [] (commandLine "includegraphics" path)
  gallery := fun paths =>
    environment "center" []
      (Text.concatMap (fun path => "\\includegraphics[scale=0.6]" ++ group path ++ "\n") paths)
  html := fun _ => []
  latex := fun raw => raw ++ "\n"
  text := fun rendered => rendered ++ "\n\n"
  styled := fun style rendered => command (styleCommand style) rendered
  link := fun url label => command "href" (escapeUrl url) ++ group label
  mathInline := fun source => '$' :: source ++ ['$']
  mathBlock := fun source => "$$" ++ source ++ "$$"
  trademark := command "texttrademark" []
  registered := command "textregistered" []

end ScriptReport.Report.Latex

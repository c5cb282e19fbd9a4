/-
  ScriptReport.Publish.Recover

  Recovering the script of a published report, which is a file or comes from a server.
-/

import ScriptReport.Publish.Input
import ScriptReport.Report.Source
import ScriptReport.World

namespace ScriptReport.Publish

/-! ## Locations -/

/-- The location is on a server. -/
def isUrl (location : Chars) : Except Url.LocationFault Bool := do
  let parts ← Url.split location
  return parts.scheme = "http".toList || parts.scheme = "https".toList

/-- The beginnings of the extensions of reports. -/
def reportSuffixes : List Chars := [".htm", ".tex"]

/-- The file name has the extension of a report. -/
def hasReportSuffix (path : Path) : Bool :=
  reportSuffixes.any (·.isPrefixOf (Text.lower path.suffix))

/-- The location is that of a report; for a URL, its path counts. -/
def isReportPath (location : Chars) : Except Url.LocationFault Bool := do
  if ← isUrl location then
    let parts ← Url.split location
    return hasReportSuffix (Path.ofText (Url.withoutParameters parts.path))
  else return hasReportSuffix (Path.ofText location)

/-! ## Reports -/

/-- The text of a report file, with every line end as a line feed. -/
def readReportFile (disk : Disk) (path : Path) : Except Fault Chars := do
  return Text.unifyLineEnds (← onFiles (disk.readText path))

/-- The text that a server answers with, in the character set it announces or else in UTF-8. -/
def readReply : NetworkReply → Except Fault Text.Wide
  | .failure reason => .error (.unreachable (.system ("<urlopen error " ++ reason ++ ">")))
  | .refused message => .error (.unreachable (.system message))
  | .broken flaw message => .error (.unreachable (.exchange flaw message))
  | .body content charset =>
    let name := match charset with
      | some (c :: rest) => c :: rest
      | _ => "utf-8".toList
    (Text.Charset.decodeNamed name content).mapError Fault.charset

/-- The text of the report at a location, from a server or from a file. -/
def readReport (w : World) (onServer : Bool) (location : Chars) : Except Fault Text.Wide :=
  if onServer then readReply w.network
  else (readReportFile w.disk (Path.ofText location)).map Text.Wide.ofChars

/-! ## Recovering -/

/-- The script of the report file at a path. -/
def recoverFile (disk : Disk) (path : Path) : Except Fault Chars := do
  if !hasReportSuffix path then throw (.input (.noReport path.name))
  Report.extractSource (← readReportFile disk path)

/-- The script of the report at a location. From a server it can come with surrogates. -/
def recoverWide (w : World) (location : Chars) : Except Fault Text.Wide := do
  let onServer ← (isUrl location).mapError Fault.location
  if !(← (isReportPath location).mapError Fault.location) then
    throw (.input (.noReport (if onServer then location else (Path.ofText location).name)))
  Report.extractWide (← readReport w onServer location)

/-- The script of the report at a location as characters: surrogates that are the halves of one are
    joined, others are marked. -/
def recover (w : World) (location : Chars) : Except Fault Chars :=
  (recoverWide w location).map Text.Wide.toChars

end ScriptReport.Publish

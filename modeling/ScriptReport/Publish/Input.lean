/-
  ScriptReport.Publish.Input

  Reading scripts and the files they include. A file to include must lie at or below the
  directory of the script once all links are followed.
-/

import ScriptReport.Fault
import ScriptReport.Files.Disk
import ScriptReport.Text.LineBreak
import ScriptReport.Text.Lower

namespace ScriptReport.Publish

open ScriptReport.Script

/-! ## Faults of files -/

/-- An operation on files as an operation that may stop for any reason. -/
def onFiles {α : Type} (x : Except FileFault α) : Except Fault α := x.mapError Fault.file

/-! ## Scripts -/

/-- The lines of a script. A line end at the end of the file starts no further line. -/
def readScriptLines (disk : Disk) (path : Path) : Except Fault (List Chars) := do
  let content ← onFiles (disk.read path)
  match Text.Utf8.decode content with
  | .ok text => return Text.fileLines text
  | .error fault => throw (.file (.undecodable fault.atEnd))

/-- The document of the lines of a script, and the warnings. There is none if the class of some
    line cannot be told. -/
def documentOf (comments : List Chars) (sourceName : Chars) (lines : List Chars) :
    Except Fault (Document × List Warning) :=
  if hasCutShortLine comments lines then .error .cutShortLine
  else .ok (Script.read comments sourceName lines)

/-- A script has one of the accepted extensions, in any case. -/
def checkSuffix (suffixes : List Chars) (path : Path) : Except Fault Unit :=
  if suffixes.contains (Text.lower path.suffix) then .ok ()
  else .error (.input (.noScript (Text.sort suffixes) path.name))

/-! ## Paths from users -/

/-- The final path of a file that a user names. It may not hold `..` parts, and if a root is given
    it must lie at or below the root. -/
def safeInputPath (disk : Disk) (raw : Chars) (root : Option Path) : Except Fault Path := do
  if Text.isBlank raw then throw (.unsafePath .empty)
  if raw.contains '\x00' then throw (.unsafePath .nullByte)
  let path ← onFiles (disk.expandHome (Path.ofText raw))
  if path.parts.contains "..".toList then throw (.unsafePath .traversal)
  let final ← onFiles (disk.resolve false path)
  match root with
  | none => pure ()
  | some root =>
    let root ← onFiles (disk.resolve true root)
    if (root.below? final).isNone then throw (.unsafePath (.outsideRoot root.text))
  if !(← onFiles (disk.hasEntry final)) then throw (.missing final.text)
  if !(← onFiles (disk.hasFile final)) then throw (.notFile final.text)
  return final

/-! ## Included files -/

/-- The final path of a file that a script includes. -/
def resolveInclude (disk : Disk) (path : Chars) (script : Path) : Except Fault Path := do
  if path.contains '\x00' then throw (.input .nullInInclude)
  let base ← onFiles (disk.resolve false script.parent)
  let target ← onFiles (disk.resolve false (base.append (Path.ofText path)))
  if (base.below? target).isNone then throw (.input (.includeOutside path))
  return target

/-- The text of a file that a script includes. -/
def readInclude (disk : Disk) (path : Chars) (script : Path) : Except Fault Chars := do
  return Text.unlines (← readScriptLines disk (← resolveInclude disk path script))

end ScriptReport.Publish

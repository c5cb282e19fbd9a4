/-
  ScriptReport.Main

  The command line. The files below the working directory are read into a value, the command runs
  on it, and what it has changed is written back. The interpreter cannot be started from here, so
  code is reported as code that cannot be run.
-/

import ScriptReport.Command.Publish
import ScriptReport.Command.Recover

namespace ScriptReport.Main

open ScriptReport.Command

/-! ## Reading files -/

/-- The names of the parts of an absolute path. -/
def placeOf (path : String) : Place := (Path.ofText path.toList).parts

/-- The octets of a byte array. -/
def octetsOf (content : ByteArray) : Text.Octets := content.toList

/-- The place that a link leads to, unless there is none. -/
def linkTarget? (path : String) : IO (Option Chars) := do
  try return some (← IO.FS.realPath path).toString.toList
  catch _ => return none

/-- The tree with everything below the directory at a path. Links are not followed. -/
partial def readTree (directory : String) (tree : FileTree) : IO FileTree := do
  let mut tree := tree
  for entry in ← (← IO.FS.realPath directory).readDir do
    let path := entry.path.toString
    match (← entry.path.symlinkMetadata).type with
    | .dir => tree ← readTree path (tree.set (placeOf path) .directory)
    | .symlink =>
      if let some target ← linkTarget? path then
        tree := tree.set (placeOf path) (.link target)
    | .file => tree := tree.set (placeOf path) (.file (octetsOf (← IO.FS.readBinFile path)))
    | .other => pure ()
  return tree

/-- The world around the program: its working directory and everything below. -/
def readWorld : IO World := do
  let here := (← IO.currentDir).toString
  let home := (← IO.getEnv "HOME").getD here
  let cwd := placeOf here
  let bare := (({} : FileTree).makeParents cwd).set cwd .directory
  let disk : Disk := { tree := ← readTree here bare, cwd, home := home.toList }
  return { disk, replies := List.replicate 10000 { cannotStart := true } }

/-! ## Writing files -/

/-- Writes the entries that have changed. -/
def writeChanges (before after : FileTree) : IO Unit := do
  for (place, node) in after.entries do
    if before.get? place ≠ some node then
      let path := String.ofList (Place.text place)
      match node with
      | .file content => IO.FS.writeBinFile path (ByteArray.mk content.toArray)
      | .directory => IO.FS.createDirAll path
      | .link _ => pure ()

/-! ## Commands -/

/-- The command of a name. -/
def commandOf? (name : String) : Option (List Chars → World → Ending × World) :=
  if name.toList = Publish.name then some Publish.run
  else if name.toList = Outline.name then some Outline.run
  else if name.toList = Recover.name then some Recover.run
  else none

/-- The line that says how a command is called. -/
def usageLine (name : String) : String := "usage: " ++ name ++ " [switches] input"

/-- Reports how a run of the named command has ended, and gives its exit status. -/
def report (name : String) (ending : Ending) : IO UInt32 := do
  match ending with
  | .usage .help =>
    IO.println (usageLine name)
    return Usage.help.status.toUInt32
  | .usage .wrong =>
    IO.eprintln (usageLine name)
    return Usage.wrong.status.toUInt32
  | .finished status output errors =>
    IO.print (String.ofList output)
    IO.eprint (String.ofList errors)
    return status.toUInt32
  | .broken fault =>
    IO.eprintln (String.ofList fault.message)
    return 1

/-- Runs the command of the given name. -/
def runCommand (name : String) (words : List String) : IO UInt32 := do
  match commandOf? name with
  | none =>
    IO.eprintln "commands: publish, m_reader, grabcode"
    return 2
  | some run =>
    let world ← readWorld
    let (ending, later) := run (words.map String.toList) world
    for warning in later.warnings do
      IO.eprintln (String.ofList warning.message)
    writeChanges world.disk.tree later.disk.tree
    report name ending

end ScriptReport.Main

/-- Runs the command that the first word names. -/
def main (words : List String) : IO UInt32 :=
  match words with
  | name :: rest => ScriptReport.Main.runCommand name rest
  | [] => ScriptReport.Main.runCommand "" []

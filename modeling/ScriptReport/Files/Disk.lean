/-
  ScriptReport.Files.Disk

  The files together with the directory that relative paths start from, and the operations on
  them. Each operation names the path it was given when the system refuses it; one that changes
  something returns the new disk.
-/

import ScriptReport.Files.Follow
import ScriptReport.Text.Blank

namespace ScriptReport

/-- The files, the working directory, and the home directories of the user and of others. -/
structure Disk where
  tree : FileTree
  cwd : Place
  home : Chars
  users : List (Chars × Chars) := []
  deriving Repr

namespace Disk

/-! ## Look-up -/

/-- The longest path that the system takes, in octets. -/
def maxPathOctets : Nat := 4095

/-- The place that a path leads to; `last` says whether a link at its end is followed. -/
def locate (disk : Disk) (last : Bool) (path : Path) : Except SystemCause Place :=
  if maxPathOctets < (Text.Utf8.encode path.text).length then .error .nameTooLong
  else
    disk.tree.follow last FileTree.maxLinks (if path.isAbsolute then [] else disk.cwd) path.parts

/-- A path without null characters, or the fault. -/
def checkNull (path : Path) : Except FileFault Unit :=
  if path.parts.any (·.contains '\x00') then .error .nullByte else .ok ()

/-- What stands at a path, links followed. -/
def look (disk : Disk) (path : Path) : Except FileFault Node := do
  checkNull path
  match disk.locate true path with
  | .error cause => .error (.system cause path.text)
  | .ok place =>
    match disk.tree.get? place with
    | some node => .ok node
    | none => .error (.system .noEntry path.text)

/-- What stands at a path, if anything: a missing entry, a file on the way and endless links are
    no fault here, and neither is a null character. -/
def look? (disk : Disk) (path : Path) : Except FileFault (Option Node) :=
  match disk.look path with
  | .ok node => .ok (some node)
  | .error (.system .noEntry _) => .ok none
  | .error (.system .notDirectory _) => .ok none
  | .error (.system .tooManyLinks _) => .ok none
  | .error .nullByte => .ok none
  | .error fault => .error fault

/-- Something stands at the path. -/
def hasEntry (disk : Disk) (path : Path) : Except FileFault Bool :=
  (disk.look? path).map Option.isSome

/-- A file stands at the path. -/
def hasFile (disk : Disk) (path : Path) : Except FileFault Bool :=
  (disk.look? path).map fun node => match node with
    | some (.file _) => true
    | _ => false

/-- A directory stands at the path. -/
def hasDirectory (disk : Disk) (path : Path) : Except FileFault Bool :=
  (disk.look? path).map (· = some .directory)

/-! ## Final paths -/

/-- The path with its home directory written out, if it starts at one. -/
def expandHome (disk : Disk) (path : Path) : Except FileFault Path :=
  match path.root, path.parts with
  | .relative, ('~' :: user) :: rest =>
    if user.contains '\x00' then .error .nullByte
    else
      match if user = [] then some disk.home else disk.users.lookup user with
      | none => .error .noHome
      | some home =>
        let bare := Text.dropEndWhile (· = '/') home
        .ok ((Path.ofText (if bare = [] then "/" else bare)).append ⟨.relative, rest⟩)
  | _, _ => .ok path

/-- The walk over a path that spells out where it leads. -/
def walk (disk : Disk) (strict : Bool) (path : Path) : Except FileFault FileTree.Arrival :=
  disk.tree.resolveFrom strict [] ⟨path.isAbsolute, []⟩ disk.cwd
    (path.parts.map FileTree.Pending.part)

/-- The final path without links and `..` parts. Unless `strict`, it may lead to nothing; but
    endless links and null characters are faults in any case. -/
def resolve (disk : Disk) (strict : Bool) (path : Path) : Except FileFault Path := do
  let final := (← disk.walk strict path).path disk.cwd
  if strict then .ok final
  else
    match disk.look final with
    | .error (.system .tooManyLinks text) => .error (.linkLoop text)
    | .error .nullByte => .error .nullByte
    | _ => .ok final

/-! ## Reading -/

/-- The octets of the file at a path. -/
def read (disk : Disk) (path : Path) : Except FileFault Text.Octets := do
  match ← disk.look path with
  | .file content => .ok content
  | _ => .error (.system .isDirectory path.text)

/-- The text of the file at a path. -/
def readText (disk : Disk) (path : Path) : Except FileFault Chars := do
  match Text.Utf8.decode (← disk.read path) with
  | .ok text => .ok text
  | .error fault => .error (.undecodable fault)

/-- The names in the directory at a path, in order of creation. -/
def list (disk : Disk) (path : Path) : Except FileFault (List Chars) := do
  checkNull path
  match disk.locate true path with
  | .error cause => .error (.system cause path.text)
  | .ok place =>
    match disk.tree.get? place with
    | some .directory => .ok (disk.tree.namesIn place)
    | some _ => .error (.system .notDirectory path.text)
    | none => .error (.system .noEntry path.text)

/-- The paths of everything below a directory, seen from there, in order. Those of directories
    end in a slash. -/
def listing (disk : Disk) (directory : Path) : List Chars :=
  Text.sort <| disk.tree.entries.filterMap fun entry =>
    match directory.below? (Place.path entry.1) with
    | some (part :: parts) =>
      let isDirectory := match disk.hasDirectory (Place.path entry.1) with
        | .ok b => b
        | .error _ => false
      some (Text.join "/" (part :: parts) ++ (if isDirectory then ['/'] else []))
    | _ => none

/-! ## Writing -/

/-- The disk with the given content in the file at a path, which is created if it is missing. A file
    that can be opened takes all of the content: there is no lack of room that could stop a write
    when the earlier content is gone. -/
def write (disk : Disk) (path : Path) (content : Text.Octets) : Except FileFault Disk := do
  checkNull path
  match disk.locate true path with
  | .error cause => .error (.system cause path.text)
  | .ok place =>
    match disk.tree.get? place with
    | some .directory => .error (.system .isDirectory path.text)
    | _ => .ok { disk with tree := disk.tree.set place (.file content) }

/-- The disk with a new directory at a path, whose parent must exist. -/
def makeDirectory (disk : Disk) (path : Path) : Except FileFault Disk := do
  checkNull path
  match disk.locate false path with
  | .error cause => .error (.system cause path.text)
  | .ok place =>
    match disk.tree.get? place with
    | some _ => .error (.system .entryExists path.text)
    | none => .ok { disk with tree := disk.tree.set place .directory }

/-- A new directory at a path; one that stands there already will do. -/
def ensureDirectory (disk : Disk) (path : Path) : Except FileFault Disk :=
  match disk.makeDirectory path with
  | .ok disk => .ok disk
  | .error (.system .noEntry text) => .error (.system .noEntry text)
  | .error .nullByte => .error .nullByte
  | .error fault => do if ← disk.hasDirectory path then .ok disk else .error fault

/-- A directory at the path with the last `depth` parts of the path made as they are needed. On
    a fault, the directories made so far stay. -/
def ensureDirectories (disk : Disk) (path : Path) : Nat → Disk × Option FileFault
  | 0 =>
    match disk.ensureDirectory path with
    | .ok disk => (disk, none)
    | .error fault => (disk, some fault)
  | depth + 1 =>
    match disk.ensureDirectory path with
    | .ok disk => (disk, none)
    | .error (.system .noEntry _) =>
      match ensureDirectories disk path.parent depth with
      | (disk, some fault) => (disk, some fault)
      | (disk, none) =>
        match disk.ensureDirectory path with
        | .ok disk => (disk, none)
        | .error fault => (disk, some fault)
    | .error fault => (disk, some fault)

/-- The disk with a directory at a path and at every path above it. -/
def makeDirectories (disk : Disk) (path : Path) : Disk × Option FileFault :=
  ensureDirectories disk path path.parts.length

/-- The disk with the given node at a path, and directories on the way to it. A directory may be
    there already, and a file is overwritten, but a link needs a free place. -/
def create (disk : Disk) (path : Path) (node : Node) : Except FileFault Disk := do
  let (disk, fault) := disk.makeDirectories (if node = .directory then path else path.parent)
  if let some fault := fault then throw fault
  match node with
  | .directory => return disk
  | .file content => disk.write path content
  | .link target =>
    checkNull path
    match disk.locate false path with
    | .error cause => throw (.system cause path.text)
    | .ok place =>
      if (disk.tree.get? place).isSome then throw (.system .entryExists path.text)
      return { disk with tree := disk.tree.set place (.link target) }

/-- The disk without the file or link at a path. -/
def remove (disk : Disk) (path : Path) : Except FileFault Disk := do
  checkNull path
  match disk.locate false path with
  | .error cause => .error (.system cause path.text)
  | .ok place =>
    match disk.tree.get? place with
    | some .directory => .error (.system .isDirectory path.text)
    | some _ => .ok { disk with tree := disk.tree.erase place }
    | none => .error (.system .noEntry path.text)

end Disk

end ScriptReport

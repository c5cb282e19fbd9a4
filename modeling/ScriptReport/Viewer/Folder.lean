/-
  ScriptReport.Viewer.Folder

  The scripts of a directory as a tree, and the tree as a list of links. Folders on the way to the
  script that is shown are open; names are escaped, and links are percent-encoded.
-/

import ScriptReport.Files.Disk
import ScriptReport.Html.Escape
import ScriptReport.Text.Lower
import ScriptReport.Url.Percent

namespace ScriptReport.Viewer

/-! ## Trees -/

mutual

/-- The files of a directory and its subdirectories. -/
inductive Folder where
  | mk (files : List Chars) (folders : Folders)

/-- Named directories, each name once. -/
inductive Folders where
  | nil
  | cons (name : Chars) (folder : Folder) (rest : Folders)

end

/-- The tree without files. -/
def Folder.empty : Folder := .mk [] .nil

/-- The directories with one of them changed; it is added at the end if it is new. -/
def Folders.change (name : Chars) (f : Folder → Folder) : Folders → Folders
  | .nil => .cons name (f Folder.empty) .nil
  | .cons other folder rest =>
    if other = name then .cons other (f folder) rest else .cons other folder (rest.change name f)

/-- The tree with a file at the path of the given parts. -/
def Folder.insert (parts : List Chars) (folder : Folder) : Folder :=
  match parts, folder with
  | [], folder => folder
  | [name], .mk files folders => .mk (files ++ [name]) folders
  | part :: next :: rest, .mk files folders =>
    .mk files (folders.change part (Folder.insert (next :: rest)))

/-- The tree of the given paths. -/
def Folder.ofPaths (paths : List (List Chars)) : Folder :=
  paths.foldl (fun folder parts => folder.insert parts) Folder.empty

/-! ## Scripts of a directory -/

/-- Order by parts. -/
def partsLe : List Chars → List Chars → Bool
  | [], _ => true
  | _ :: _, [] => false
  | a :: as, b :: bs => if a = b then partsLe as bs else Text.le a b

/-- The paths, relative to a place, of everything below it, in order. -/
def below (tree : FileTree) (place : Place) : List (List Chars) :=
  (tree.entries.filterMap fun entry =>
    if place.isPrefixOf entry.1 && entry.1 ≠ place then some (entry.1.drop place.length)
    else none).mergeSort partsLe

/-- A part that is not shown, and hides what is below it. -/
def isHidden (part : Chars) : Bool := part.head? = some '.'

/-- Keeps the members of which a test that may fail holds. -/
def keep {α ε : Type} (test : α → Except ε Bool) : List α → Except ε (List α)
  | [] => .ok []
  | x :: rest => do
    let kept ← test x
    let others ← keep test rest
    return if kept then x :: others else others

/-- The relative path leads to a file with one of the extensions and has no hidden part. -/
def isScript (disk : Disk) (directory : Path) (suffixes : List Chars) (parts : List Chars) :
    Except FileFault Bool := do
  let path : Path := { directory with parts := directory.parts ++ parts }
  return (← disk.hasFile path) && suffixes.contains (Text.lower path.suffix) &&
    !parts.any isHidden

/-- The tree of the scripts below a directory. Links to directories are not entered. -/
def scriptTree (disk : Disk) (directory : Path) (suffixes : List Chars) :
    Except FileFault Folder := do
  if !(← disk.hasDirectory directory) then return Folder.empty
  match disk.locate true directory with
  | .error _ => return Folder.empty
  | .ok place =>
    return Folder.ofPaths (← keep (isScript disk directory suffixes) (below disk.tree place))

/-! ## The list of links -/

/-- The directories on the way to a path, from the outermost. -/
def ancestors (current : Chars) : List Chars :=
  let parts := ((Text.splitOn "/" current).filter (· ≠ [])).dropLast
  (List.range parts.length).map fun n => Text.join "/" (parts.take (n + 1))

/-- A name in a directory, as a relative path. -/
def inDirectory (directory name : Chars) : Chars := Text.trimOf '/' (directory ++ '/' :: name)

/-- The link to a file. -/
def fileLink (directory current name : Chars) : Chars :=
  let path := inDirectory directory name
  "<div class=\"fm-file" ++ (if path = current then " active".toList else []) ++
    "\"><a href=\"/view/" ++ Url.encode path ++ "\">" ++ Html.escape name ++ "</a></div>"

/-- A directory around its rendered content. -/
def folderEntry (isOpen : Bool) (name content : Chars) : Chars :=
  "<details class=\"fm-dir\"" ++ (if isOpen then " open".toList else []) ++ "><summary>" ++
    Html.escape name ++ "/</summary><div class=\"fm-children\">" ++ content ++
    "</div></details>"

/-- Order by name. -/
def nameLe (a b : Chars × Chars) : Bool := Text.le a.1 b.1

mutual

/-- The links of a tree that stands for `directory`: first its directories, then its files. -/
def Folder.render (openDirs : List Chars) (current directory : Chars) : Folder → Chars
  | .mk files folders =>
    Text.concatMap Prod.snd ((folders.render openDirs current directory).mergeSort nameLe) ++
      Text.concatMap (fileLink directory current) (Text.sort files)

/-- Each directory's name and links. -/
def Folders.render (openDirs : List Chars) (current directory : Chars) :
    Folders → List (Chars × Chars)
  | .nil => []
  | .cons name folder rest =>
    let path := inDirectory directory name
    (name, folderEntry (openDirs.contains path) name (folder.render openDirs current path)) ::
      rest.render openDirs current directory

end

/-- The links of a tree, for the script that is shown. -/
def treeLinks (folder : Folder) (current : Chars) : Chars :=
  folder.render (ancestors current) current []

end ScriptReport.Viewer

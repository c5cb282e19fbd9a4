/-
  ScriptReport.Files.Tree

  The files as a value: a finite map from places to files, links and directories. Writing changes
  one place; the lemmas say which look-ups it leaves alone.
-/

import ScriptReport.Files.Path
import ScriptReport.Text.Utf8

namespace ScriptReport

/-! ## The map -/

/-- What stands at a place. -/
inductive Node where
  | file (content : Text.Octets)
  | link (target : Chars)
  | directory
  deriving DecidableEq, Repr

/-- The places that exist, in order of creation. The root is a directory without being listed. -/
structure FileTree where
  entries : List (Place × Node) := []
  deriving DecidableEq, Repr

namespace FileTree

/-- The node listed for a place. -/
def findEntry (place : Place) : List (Place × Node) → Option Node
  | [] => none
  | entry :: rest => if entry.1 = place then some entry.2 else findEntry place rest

/-- What stands at a place. -/
def get? (tree : FileTree) (place : Place) : Option Node :=
  if place = [] then some .directory else findEntry place tree.entries

/-- The entries with the node at a place set, in its position or at the end. -/
def setEntry (place : Place) (node : Node) : List (Place × Node) → List (Place × Node)
  | [] => [(place, node)]
  | entry :: rest =>
    if entry.1 = place then (place, node) :: rest else entry :: setEntry place node rest

/-- The tree with a node at a place. -/
def set (tree : FileTree) (place : Place) (node : Node) : FileTree :=
  ⟨setEntry place node tree.entries⟩

/-- The tree without a place. -/
def erase (tree : FileTree) (place : Place) : FileTree :=
  ⟨tree.entries.filter fun entry => entry.1 ≠ place⟩

/-- A directory stands at the place. -/
def isDirectory (tree : FileTree) (place : Place) : Bool := tree.get? place = some .directory

/-- The names in a directory, in order of creation. -/
def namesIn (tree : FileTree) (place : Place) : List Chars :=
  tree.entries.filterMap fun entry =>
    if entry.1 ≠ [] && entry.1.dropLast = place then entry.1.getLast? else none

/-- The tree with directories at every place on the way to `place` that is still free. -/
def makeParents (tree : FileTree) (place : Place) : FileTree :=
  (List.range place.length).foldl
    (fun tree n =>
      if (tree.get? (place.take n)).isNone then tree.set (place.take n) .directory else tree)
    tree

/-! ## Laws -/

theorem findEntry_setEntry (place other : Place) (node : Node) (entries : List (Place × Node)) :
    findEntry other (setEntry place node entries) =
      if other = place then some node else findEntry other entries := by
  induction entries with
  | nil => simp [setEntry, findEntry, eq_comm]
  | cons entry rest ih =>
    by_cases h : entry.1 = place
    · subst h
      by_cases ho : other = entry.1 <;> simp [setEntry, findEntry, ho, eq_comm]
    · by_cases ho : entry.1 = other
      · subst ho; simp [setEntry, findEntry, h]
      · simp [setEntry, findEntry, h, ho, ih]

/-- Setting a place is seen there and nowhere else. -/
theorem get?_set (tree : FileTree) {place : Place} (hp : place ≠ []) (other : Place) (node : Node) :
    (tree.set place node).get? other = if other = place then some node else tree.get? other := by
  by_cases ho : other = []
  · subst ho; simp [get?, Ne.symm hp]
  · simp [get?, set, ho, findEntry_setEntry]

end FileTree

end ScriptReport

/-
  ScriptReport.Files.Follow

  How a path leads to a place. `follow` is the system's walk, which gives up after forty links.
  `resolve` is the walk that spells out the final path: it follows every link once, remembers
  where each one led, and needs no limit, because the links not yet met run out.
-/

import ScriptReport.Files.Fault
import ScriptReport.Files.Tree

namespace ScriptReport

namespace FileTree

/-! ## The system's walk -/

/-- The parts of a link's target, empty ones included: they ask for a directory. -/
def targetParts (target : Chars) : List Chars := Text.splitOn "/" target

/-- The part stays where it is. -/
def stays (part : Chars) : Bool := part = [] || part = ['.']

/-- The longest name of an entry, in octets. -/
def maxNameOctets : Nat := 255

/-- The name is too long for an entry. -/
def isLongName (part : Chars) : Bool := maxNameOctets < (Text.Utf8.encode part).length

/-- The place that the parts lead to from the directory `here`, after at most `links` links. The
    last part need not exist, and if it is a link, `last` says whether it is followed. -/
def follow (tree : FileTree) (last : Bool) (links : Nat) (here : Place) (parts : List Chars) :
    Except SystemCause Place :=
  match parts with
  | [] => .ok here
  | part :: rest =>
    match tree.get? here with
    | none => .error .noEntry
    | some (.file _) => .error .notDirectory
    | some (.link _) => .error .notDirectory
    | some .directory =>
      if stays part then follow tree last links here rest
      else if part = "..".toList then follow tree last links here.dropLast rest
      else if isLongName part then .error .nameTooLong
      else
        match tree.get? (here ++ [part]) with
        | some (.link target) =>
          if rest.isEmpty && !last then .ok (here ++ [part])
          else
            match links with
            | 0 => .error .tooManyLinks
            | links + 1 =>
              follow tree last links (if target.head? = some '/' then [] else here)
                (targetParts target ++ rest)
        | _ => follow tree last links (here ++ [part]) rest
termination_by (links, parts.length)

/-- The number of links after which the system gives up. -/
def maxLinks : Nat := 40

/-! ## The walk that spells out the path -/

/-- A position on the way: the parts so far, from the root or from the working directory. Only
    a position of the second kind has `..` parts, all in front. -/
structure Spot where
  absolute : Bool
  parts : List Chars
  deriving DecidableEq, Repr

/-- The position as it is reported. -/
def Spot.text (spot : Spot) : Chars :=
  (if spot.absolute then ['/'] else []) ++ Text.join "/" spot.parts

/-- The place of a position. -/
def Spot.place (cwd : Place) (spot : Spot) : Place :=
  if spot.absolute then spot.parts else spot.parts.foldl Place.step cwd

/-- One part up. -/
def Spot.up (spot : Spot) : Spot :=
  match spot.parts.getLast? with
  | none => if spot.absolute then spot else ⟨false, ["..".toList]⟩
  | some last =>
    if last = "..".toList then { spot with parts := spot.parts ++ ["..".toList] }
    else { spot with parts := spot.parts.dropLast }

/-- One part down. -/
def Spot.down (spot : Spot) (part : Chars) : Spot := { spot with parts := spot.parts ++ [part] }

/-- What identifies a link on the way: its place, and the kind of position it was met from. -/
abbrev LinkKey := Bool × Place

/-- What is left to do on the way. -/
inductive Pending where
  | part (name : Chars)
  /-- The link has been followed to the present position. -/
  | arrived (key : LinkKey)
  deriving DecidableEq, Repr

/-- The texts that are left to do: of each path or target that is being followed, from the
    innermost on, what stands behind the present part. `parts` are those of the first one so far,
    backwards. -/
def leftTexts (parts : List Chars) : List Pending → List Chars
  | [] => [Text.join "/" parts.reverse]
  | .part name :: rest => leftTexts (name :: parts) rest
  | .arrived _ :: rest => Text.join "/" parts.reverse :: leftTexts [] rest

/-- The links met so far, with the position they led to once that is known. -/
abbrev Seen := List (LinkKey × Option Spot)

/-- The links that have not been met. -/
def unmet (tree : FileTree) (seen : Seen) : Nat :=
  (tree.entries.flatMap fun entry => [(false, entry.1), (true, entry.1)]).countP
    fun key => decide (key ∉ seen.map Prod.fst)

theorem unmet_cons_le (tree : FileTree) (seen : Seen) (met : LinkKey × Option Spot) :
    unmet tree (met :: seen) ≤ unmet tree seen := by
  refine List.countP_mono_left fun key _ h => ?_
  simp only [List.map_cons, List.mem_cons, not_or, decide_eq_true_eq] at h ⊢
  exact h.2

theorem countP_lt_of_mem {α : Type} {p q : α → Bool} {l : List α} {a : α} (h : a ∈ l)
    (hpq : ∀ x, p x = true → q x = true) (hp : p a = false) (hq : q a = true) :
    l.countP p < l.countP q := by
  induction l with
  | nil => simp at h
  | cons b rest ih =>
    have le := List.countP_mono_left (l := rest) fun x _ hx => hpq x hx
    rcases List.mem_cons.1 h with rfl | h
    · simp only [List.countP_cons, hp, hq]; simp; omega
    · have lt := ih h
      simp only [List.countP_cons]
      cases hb : p b with
      | true => simp [hpq b hb]; omega
      | false => simp; split <;> omega

theorem mem_of_findEntry {place : Place} {node : Node} {entries : List (Place × Node)}
    (h : findEntry place entries = some node) : (place, node) ∈ entries := by
  induction entries with
  | nil => simp [findEntry] at h
  | cons entry rest ih =>
    simp only [findEntry] at h
    split at h
    · next he => cases h; subst he; exact List.mem_cons_self
    · exact List.mem_cons_of_mem _ (ih h)

theorem unmet_cons_lt (tree : FileTree) (seen : Seen) {absolute : Bool} {place : Place}
    {target : Chars} (h : tree.get? place = some (.link target))
    (new : (absolute, place) ∉ seen.map Prod.fst) (spot : Option Spot) :
    unmet tree (((absolute, place), spot) :: seen) < unmet tree seen := by
  have mem : (place, Node.link target) ∈ tree.entries := by
    unfold get? at h
    split at h
    · simp at h
    · exact mem_of_findEntry h
  refine countP_lt_of_mem (a := (absolute, place)) ?_ ?_ ?_ ?_
  · refine List.mem_flatMap.2 ⟨_, mem, ?_⟩
    cases absolute <;> simp
  · intro key hk
    simp only [List.map_cons, List.mem_cons, not_or, decide_eq_true_eq] at hk ⊢
    exact hk.2
  · simp
  · simpa using new

/-- What stands at a place reached without following its last link. -/
def lookAt (tree : FileTree) (place : Place) : Except SystemCause Place :=
  match follow tree false maxLinks [] place with
  | .error cause => .error cause
  | .ok there => if (tree.get? there).isSome then .ok there else .error .noEntry

/-- How a walk ends. -/
inductive Arrival where
  /-- At the final position. -/
  | final (spot : Spot)
  /-- In front of a link that leads back to itself, with the texts that are left. -/
  | stuck (spot : Spot) (left : List Chars)
  deriving DecidableEq, Repr

/-- The path of a position. -/
def Spot.path (spot : Spot) : Path := ⟨if spot.absolute then .slash else .relative, spot.parts⟩

/-- The path with its `..` parts taken back by text alone. -/
def flattened (path : Path) : Path := { path with parts := path.parts.foldl Place.step [] }

/-- The path that is reported for the end of a walk. What is left is added by text alone, and a text
    that starts at a root takes the place of all that is in front of it. -/
def Arrival.path (cwd : Place) : Arrival → Path
  | .final spot => (spot.place cwd).path
  | .stuck spot left =>
    flattened (cwd.path.append (left.foldl (fun path text => path.append (.ofText text)) spot.path))

/-- The end of the walk over the pending parts. A `strict` walk refuses missing entries and loops
    of links. -/
def resolveFrom (tree : FileTree) (strict : Bool) (seen : Seen) (here : Spot)
    (cwd : Place) (pending : List Pending) : Except FileFault Arrival :=
  match pending with
  | [] => .ok (.final here)
  | .arrived key :: rest => resolveFrom tree strict ((key, some here) :: seen) here cwd rest
  | .part name :: rest =>
    if stays name then resolveFrom tree strict seen here cwd rest
    else if name = "..".toList then resolveFrom tree strict seen here.up cwd rest
    else if name.contains '\x00' then .error .nullByte
    else
      match lookAt tree ((here.down name).place cwd) with
      | .error cause =>
        if strict then .error (.system cause (here.down name).text)
        else resolveFrom tree strict seen (here.down name) cwd rest
      | .ok there =>
        match _hl : tree.get? there with
        | some (.link target) =>
          if _hs : (here.absolute, there) ∈ seen.map Prod.fst then
            match seen.lookup (here.absolute, there) with
            | some (some spot) => resolveFrom tree strict seen spot cwd rest
            | _ =>
              if strict then .error (.linkLoop (here.down name).text)
              else .ok (.stuck (here.down name) (leftTexts [] rest))
          else
            resolveFrom tree strict (((here.absolute, there), none) :: seen)
              (if target.head? = some '/' then ⟨true, []⟩ else here) cwd
              ((targetParts target).map .part ++ .arrived (here.absolute, there) :: rest)
        | _ => resolveFrom tree strict seen (here.down name) cwd rest
termination_by (unmet tree seen, pending.length)
decreasing_by
  · have := unmet_cons_le tree seen (key, some here)
    rcases Nat.lt_or_eq_of_le this with h | h
    · exact Prod.Lex.left _ _ h
    · rw [h]; exact Prod.Lex.right _ (by simp)
  all_goals first
    | exact Prod.Lex.right _ (by simp)
    | exact Prod.Lex.left _ _ (unmet_cons_lt tree seen _hl _hs none)

end FileTree

end ScriptReport

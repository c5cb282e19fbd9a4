/-
  ScriptReport.Proofs.Files.FinalPlace

  Places with no link on the way. The system's walk to such a place ends there and nowhere else, so a
  check on the names of the place is a check on what is opened. Main statement: unless it is stopped
  by a link that leads back to itself, the walk that spells out a path ends at such a place
  (`isFinal_of_resolveFrom`). The invariant is that the present position is final, and so is every
  position that a link has led to.
-/

import ScriptReport.Files.Disk
import Mathlib.Data.List.Basic
import Mathlib.Tactic.SplitIfs

namespace ScriptReport

namespace FileTree

variable {tree : FileTree} {last : Bool} {links : Nat} {here there place : Place} {part : Chars}
  {target : Chars} {cause : SystemCause}

/-! ## One part of a path -/

/-- What the system makes of one part of a path. -/
inductive Step where
  | refused (cause : SystemCause)
  | moved (there : Place)
  | link (target : Chars)
  deriving DecidableEq, Repr

/-- The step from a place by one part. -/
def stepAt (tree : FileTree) (here : Place) (part : Chars) : Step :=
  match tree.get? here with
  | none => .refused .noEntry
  | some (.file _) => .refused .notDirectory
  | some (.link _) => .refused .notDirectory
  | some .directory =>
    if stays part then .moved here
    else if part = "..".toList then .moved here.dropLast
    else if isLongName part then .refused .nameTooLong
    else
      match tree.get? (here ++ [part]) with
      | some (.link target) => .link target
      | _ => .moved (here ++ [part])

/-- Where the target of a link in a directory starts from. -/
def targetStart (here : Place) (target : Chars) : Place :=
  if target.head? = some '/' then [] else here

theorem follow_nil (tree : FileTree) (last : Bool) (links : Nat) (here : Place) :
    tree.follow last links here [] = .ok here := by
  rw [follow]

/-- A walk takes one step after another; a link is replaced by its target. -/
theorem follow_cons (tree : FileTree) (last : Bool) (links : Nat) (here : Place) (part : Chars)
    (rest : List Chars) :
    tree.follow last links here (part :: rest) =
      match tree.stepAt here part with
      | .refused cause => .error cause
      | .moved there => tree.follow last links there rest
      | .link target =>
        if rest.isEmpty && !last then .ok (here ++ [part])
        else
          match links with
          | 0 => .error .tooManyLinks
          | links + 1 =>
            tree.follow last links (targetStart here target) (targetParts target ++ rest) := by
  rw [follow, stepAt]
  cases tree.get? here with
  | none => rfl
  | some node =>
    cases node with
    | file content => rfl
    | link target => rfl
    | directory =>
      by_cases hstays : stays part = true
      · simp only [if_pos hstays]
      by_cases hup : part = "..".toList
      · simp only [if_neg hstays, if_pos hup]
      by_cases hlong : isLongName part = true
      · simp only [if_neg hstays, if_neg hup, if_pos hlong]
      simp only [if_neg hstays, if_neg hup, if_neg hlong]
      cases tree.get? (here ++ [part]) with
      | none => rfl
      | some next => cases next <;> rfl

/-- The part is the name of an entry. -/
def isName (part : Chars) : Bool := !stays part && part ≠ "..".toList

theorem isName_iff : isName part = true ↔ ¬ stays part = true ∧ part ≠ "..".toList := by
  rw [isName, Bool.and_eq_true, Bool.not_eq_true', decide_eq_true_eq, Bool.not_eq_true]

/-- Everything a step can be. -/
inductive IsStep (tree : FileTree) (here : Place) (part : Chars) : Step → Prop where
  | stays (h : FileTree.stays part = true) : IsStep tree here part (.moved here)
  | up (h : part = "..".toList) : IsStep tree here part (.moved here.dropLast)
  | down (hname : isName part = true)
      (hlink : ∀ target, tree.get? (here ++ [part]) ≠ some (.link target)) :
      IsStep tree here part (.moved (here ++ [part]))
  | link {target : Chars} (hname : isName part = true)
      (hlink : tree.get? (here ++ [part]) = some (.link target)) :
      IsStep tree here part (.link target)
  | refused {cause : SystemCause} (h : cause ≠ .tooManyLinks) :
      IsStep tree here part (.refused cause)

theorem isStep_of_eq {step : Step} (h : tree.stepAt here part = step) :
    IsStep tree here part step := by
  subst h
  rw [stepAt]
  cases tree.get? here with
  | none => exact .refused (by decide)
  | some node =>
    cases node with
    | file content => exact .refused (by decide)
    | link target => exact .refused (by decide)
    | directory =>
      simp only
      split_ifs with hstays hup hlong
      · exact .stays hstays
      · exact .up hup
      · exact .refused (by decide)
      · have hname := isName_iff.mpr ⟨hstays, hup⟩
        cases hentry : tree.get? (here ++ [part]) with
        | none =>
          refine .down hname fun target h => ?_
          rw [hentry] at h
          cases h
        | some entry =>
          cases entry with
          | file content =>
            refine .down hname fun target h => ?_
            rw [hentry] at h
            cases h
          | directory =>
            refine .down hname fun target h => ?_
            rw [hentry] at h
            cases h
          | link target => exact .link hname hentry

/-- A step by a name leads to the entry of that name. -/
theorem IsStep.eq_of_isName (h : IsStep tree here part (.moved there))
    (hname : isName part = true) :
    there = here ++ [part] ∧ ∀ target, tree.get? there ≠ some (.link target) := by
  rw [isName_iff] at hname
  cases h with
  | stays h => exact absurd h hname.1
  | up h => exact absurd h hname.2
  | down _ hlink => exact ⟨rfl, hlink⟩

theorem IsStep.entry_of_link (h : IsStep tree here part (.link target)) :
    isName part = true ∧ tree.get? (here ++ [part]) = some (.link target) := by
  cases h with
  | link hname hlink => exact ⟨hname, hlink⟩

/-! ## Walks without links -/

/-- A walk over parts without links passes on to what comes behind them; a walk that may follow no
    links is stopped by the first one. -/
theorem follow_append (here : Place) (front back : List Chars)
    (h : tree.follow true 0 here front = .error .tooManyLinks → last = true ∧ links = 0) :
    tree.follow last links here (front ++ back) =
      (tree.follow true 0 here front).bind (tree.follow last links · back) := by
  induction front generalizing here with
  | nil =>
    rw [follow_nil]
    rfl
  | cons part rest ih =>
    rw [follow_cons] at h
    rw [List.cons_append, follow_cons, follow_cons]
    cases hstep : tree.stepAt here part with
    | refused cause => rfl
    | moved there =>
      rw [hstep] at h
      exact ih there h
    | link target =>
      rw [hstep] at h
      obtain ⟨rfl, rfl⟩ := h (by simp)
      simp
      rfl

/-- By names and without links a walk only goes down. -/
theorem eq_append_of_follow {parts : List Chars} (hnames : ∀ name ∈ parts, isName name = true)
    (h : tree.follow true 0 here parts = .ok there) : there = here ++ parts := by
  induction parts generalizing here with
  | nil =>
    rw [follow_nil] at h
    rw [List.append_nil, Except.ok.inj h]
  | cons part rest ih =>
    rw [follow_cons] at h
    cases hstep : tree.stepAt here part with
    | refused cause =>
      rw [hstep] at h
      cases h
    | link target => simp [hstep] at h
    | moved next =>
      have hdown := ((isStep_of_eq hstep).eq_of_isName (hnames part List.mem_cons_self)).1
      rw [hstep] at h
      rw [ih (fun name hname => hnames name (List.mem_cons_of_mem part hname)) h, hdown,
        List.append_assoc, List.singleton_append]

/-! ## Final places -/

/-- No link stands on the way to the place, itself included: a walk that may follow none is not
    stopped by one. -/
structure IsFinal (tree : FileTree) (place : Place) : Prop where
  names : ∀ name ∈ place, isName name = true
  linkless : tree.follow true 0 [] place ≠ .error .tooManyLinks

theorem isFinal_nil (tree : FileTree) : IsFinal tree [] where
  names := fun name hname => absurd hname List.not_mem_nil
  linkless := by
    rw [follow_nil]
    nofun

namespace IsFinal

/-- The system's walk to a final place passes on from it, if it gets there. -/
theorem follow_append_eq (h : IsFinal tree place) (last : Bool) (links : Nat) (back : List Chars) :
    tree.follow last links [] (place ++ back) =
      (tree.follow true 0 [] place).bind (tree.follow last links · back) :=
  follow_append [] place back fun hstop => absurd hstop h.linkless

/-- The system's walk to a final place ends there, if it gets anywhere. -/
theorem eq_of_follow (h : IsFinal tree place) (hwalk : tree.follow last links [] place = .ok there) :
    there = place := by
  have hsame := h.follow_append_eq last links []
  rw [List.append_nil, hwalk] at hsame
  cases hzero : tree.follow true 0 [] place with
  | error cause =>
    rw [hzero] at hsame
    cases hsame
  | ok zero =>
    rw [hzero, Except.bind, follow_nil] at hsame
    rw [Except.ok.inj hsame, eq_append_of_follow h.names hzero, List.nil_append]

/-- What a final place lies below is final. -/
theorem of_prefix (h : IsFinal tree place) {front : Place} (hfront : front <+: place) :
    IsFinal tree front := by
  obtain ⟨back, rfl⟩ := hfront
  refine ⟨fun name hname => h.names name (List.mem_append_left back hname), fun hstop => ?_⟩
  apply h.linkless
  rw [follow_append [] front back fun _ => ⟨rfl, rfl⟩, hstop]
  rfl

/-- Below a final place, a name that does not lead to a link is the name of a final place. -/
theorem down (h : IsFinal tree place) (hname : isName part = true)
    (hlink : ∀ there target, tree.lookAt (place ++ [part]) = .ok there →
      tree.get? there ≠ some (.link target)) : IsFinal tree (place ++ [part]) where
  names := by
    intro name hmem
    rcases List.mem_append.mp hmem with hmem | hmem
    · exact h.names name hmem
    · rwa [List.mem_singleton.mp hmem]
  linkless := by
    intro hstop
    rw [h.follow_append_eq] at hstop
    cases hzero : tree.follow true 0 [] place with
    | error cause =>
      rw [hzero] at hstop
      exact h.linkless (hzero.trans hstop)
    | ok there =>
      -- the walk comes to the place and is stopped by the entry of that name, which is a link
      have hthere := h.eq_of_follow hzero
      subst hthere
      rw [hzero, Except.bind, follow_cons] at hstop
      cases hstep : tree.stepAt there part with
      | refused cause =>
        rw [hstep] at hstop
        cases isStep_of_eq hstep with
        | refused hcause => exact hcause (Except.error.inj hstop)
      | moved next =>
        rw [hstep] at hstop
        simp only [follow_nil] at hstop
        cases hstop
      | link target =>
        cases isStep_of_eq hstep with
        | link _ hentry =>
          have hlook : tree.lookAt (there ++ [part]) = .ok (there ++ [part]) := by
            rw [lookAt, h.follow_append_eq, hzero, Except.bind, follow_cons, hstep]
            simp [hentry]
          exact hlink _ target hlook hentry

/-- What stands at a final place is no link. -/
theorem lookAt_ne_link (h : IsFinal tree place) (hlook : tree.lookAt place = .ok there) :
    tree.get? there ≠ some (.link target) := by
  have hfollow : tree.follow false maxLinks [] place = .ok there := by
    rw [lookAt] at hlook
    split at hlook
    · cases hlook
    · next hwalk =>
      split_ifs at hlook
      rwa [← Except.ok.inj hlook]
  have hthere := h.eq_of_follow hfollow
  subst hthere
  rcases List.eq_nil_or_concat' there with rfl | ⟨front, name, rfl⟩
  · simp [get?]
  · -- the walk comes to the directory in front; there a link would stop one that may follow none
    have hfront := h.of_prefix (List.prefix_append front [name])
    have hlinkless := h.linkless
    rw [hfront.follow_append_eq] at hfollow hlinkless
    cases hzero : tree.follow true 0 [] front with
    | error cause =>
      rw [hzero] at hfollow
      cases hfollow
    | ok between =>
      rw [hfront.eq_of_follow hzero] at hzero
      rw [hzero, Except.bind, follow_cons] at hfollow hlinkless
      cases hstep : tree.stepAt front name with
      | refused cause =>
        rw [hstep] at hfollow
        cases hfollow
      | link target => simp [hstep] at hlinkless
      | moved next =>
        have hname := h.names name (List.mem_append_right front List.mem_cons_self)
        obtain ⟨rfl, hentry⟩ := (isStep_of_eq hstep).eq_of_isName hname
        exact hentry target

end IsFinal

/-! ## Positions -/

theorem place_down {spot : Spot} {cwd : Place} (hname : isName part = true) :
    (spot.down part).place cwd = spot.place cwd ++ [part] := by
  rw [isName_iff] at hname
  unfold Spot.place Spot.down
  split_ifs
  · rfl
  · rw [List.foldl_append, List.foldl_cons, List.foldl_nil, Place.step, if_neg hname.2]

theorem up_of_name {absolute : Bool} {init : List Chars} {name : Chars}
    (hname : name ≠ "..".toList) : Spot.up ⟨absolute, init ++ [name]⟩ = ⟨absolute, init⟩ := by
  rw [Spot.up]
  simp only [List.getLast?_concat, if_neg hname, List.dropLast_concat]

theorem up_of_up {absolute : Bool} {init : List Chars} :
    Spot.up ⟨absolute, init ++ ["..".toList]⟩ =
      ⟨absolute, init ++ ["..".toList] ++ ["..".toList]⟩ := by
  rw [Spot.up]
  simp only [List.getLast?_concat, if_true]

/-- One part up is one part up from the place; an absolute position has no `..` parts. -/
theorem place_up {spot : Spot} {cwd : Place} (h : IsFinal tree (spot.place cwd)) :
    spot.up.place cwd = (spot.place cwd).dropLast := by
  obtain ⟨absolute, parts⟩ := spot
  rcases List.eq_nil_or_concat' parts with rfl | ⟨init, name, rfl⟩
  · cases absolute <;> rfl
  · by_cases hup : name = "..".toList
    · subst hup
      cases absolute with
      | true =>
        have hname := h.names "..".toList (List.mem_append_right init List.mem_cons_self)
        exact absurd hname (by decide)
      | false =>
        rw [up_of_up, Spot.place, Spot.place, if_neg Bool.false_ne_true, if_neg Bool.false_ne_true,
          List.foldl_append]
        rfl
    · rw [up_of_name hup]
      cases absolute with
      | true => exact List.dropLast_concat.symm
      | false =>
        rw [Spot.place, Spot.place, if_neg Bool.false_ne_true, if_neg Bool.false_ne_true,
          List.foldl_append, List.foldl_cons, List.foldl_nil, Place.step, if_neg hup,
          List.dropLast_concat]

/-! ## The walk that spells out a path -/

/-- The positions that links have led to are final. -/
def Settled (tree : FileTree) (cwd : Place) (seen : Seen) : Prop :=
  ∀ key spot, (key, some spot) ∈ seen → IsFinal tree (spot.place cwd)

theorem Settled.cons_some {cwd : Place} {seen : Seen} {spot : Spot} (h : Settled tree cwd seen)
    (hspot : IsFinal tree (spot.place cwd)) (key : LinkKey) :
    Settled tree cwd ((key, some spot) :: seen) := by
  intro key' spot' hmem
  rcases List.mem_cons.mp hmem with heq | hmem
  · rwa [Option.some.inj (Prod.mk.inj heq).2]
  · exact h key' spot' hmem

theorem Settled.cons_none {cwd : Place} {seen : Seen} (h : Settled tree cwd seen) (key : LinkKey) :
    Settled tree cwd ((key, none) :: seen) := by
  intro key' spot' hmem
  rcases List.mem_cons.mp hmem with heq | hmem
  · cases heq
  · exact h key' spot' hmem

theorem Settled.of_lookup {cwd : Place} {seen : Seen} {key : LinkKey} {spot : Spot}
    (h : Settled tree cwd seen) (hlookup : seen.lookup key = some (some spot)) :
    IsFinal tree (spot.place cwd) := by
  obtain ⟨before, after, rfl, -⟩ := List.lookup_eq_some_iff.mp hlookup
  exact h key spot (List.mem_append_right before List.mem_cons_self)

/-- A walk that is not stopped by a link that leads back to itself ends at a final place. -/
theorem isFinal_of_resolveFrom {strict : Bool} {seen : Seen} {here spot : Spot} {cwd : Place}
    {pending : List Pending} (hhere : IsFinal tree (here.place cwd)) (hseen : Settled tree cwd seen)
    (h : tree.resolveFrom strict seen here cwd pending = .ok (.final spot)) :
    IsFinal tree (spot.place cwd) := by
  fun_induction resolveFrom tree strict seen here cwd pending with
  | case1 =>
    cases h
    exact hhere
  | case2 seen here key rest ih => exact ih hhere (hseen.cons_some hhere key) h
  | case3 seen here name rest hstays ih => exact ih hhere hseen h
  | case4 seen here rest _ ih =>
    refine ih ?_ hseen h
    rw [place_up hhere]
    exact hhere.of_prefix (List.dropLast_prefix _)
  | case5 => cases h
  | case6 => cases h
  | case7 seen here name rest hstays hup _ cause hlook _ ih =>
    -- nothing stands at the name, so it cannot be that of a link
    refine ih ?_ hseen h
    have hname := isName_iff.mpr ⟨hstays, hup⟩
    rw [place_down hname] at hlook ⊢
    refine hhere.down hname fun there target hthere => ?_
    rw [hlook] at hthere
    cases hthere
  | case8 seen here name rest _ _ _ there _ target _ _ spot hlookup ih =>
    exact ih (hseen.of_lookup hlookup) hseen h
  | case9 => cases h
  | case10 => cases h
  | case11 seen here name rest _ _ _ there _ target _ _ ih =>
    refine ih ?_ (hseen.cons_none _) h
    split_ifs
    · exact isFinal_nil tree
    · exact hhere
  | case12 seen here name rest hstays hup _ there hlook hlink ih =>
    refine ih ?_ hseen h
    have hname := isName_iff.mpr ⟨hstays, hup⟩
    rw [place_down hname] at hlook ⊢
    refine hhere.down hname fun there' target hthere => ?_
    rw [hlook] at hthere
    cases hthere
    exact hlink target

end FileTree

end ScriptReport

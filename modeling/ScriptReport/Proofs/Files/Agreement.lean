/-
  ScriptReport.Proofs.Files.Agreement

  The two walks agree. Wherever the system's walk over a path arrives, the walk that spells out the
  path is not stopped by any link, and arrives at the same place (`exists_final_of_follow`). A whole walk
  of the system is a finite derivation (`Leads`), and its size is what keeps the two together: a link
  that is still being followed cannot be met on the way, since its own derivation would then be
  inside itself; and a link met before has led to where it leads now.
-/

import ScriptReport.Proofs.Files.FinalPlace

namespace ScriptReport

namespace FileTree

variable {tree : FileTree} {last strict : Bool} {links m n : Nat} {here there goal place : Place}
  {part : Chars} {parts rest : List Chars} {target : Chars} {cwd : Place} {seen : Seen}
  {pending : List Pending} {arrival : Arrival}

/-! ## Whole walks -/

/-- A whole walk by parts with every link followed, and the number of parts on the way. -/
inductive Leads (tree : FileTree) : Nat → Place → List Chars → Place → Prop where
  | nil (here : Place) : Leads tree 0 here [] here
  | moved {n : Nat} {here there goal : Place} {part : Chars} {rest : List Chars}
      (step : tree.stepAt here part = .moved there) (others : Leads tree n there rest goal) :
      Leads tree (n + 1) here (part :: rest) goal
  | link {m n : Nat} {here between goal : Place} {part target : Chars} {rest : List Chars}
      (step : tree.stepAt here part = .link target)
      (inside : Leads tree m (targetStart here target) (targetParts target) between)
      (others : Leads tree n between rest goal) : Leads tree (m + n + 1) here (part :: rest) goal

theorem Leads.deterministic {m : Nat} {goal' : Place} (h : Leads tree n here parts goal)
    (h' : Leads tree m here parts goal') : n = m ∧ goal = goal' := by
  induction h generalizing m goal' with
  | nil here =>
    cases h'
    exact ⟨rfl, rfl⟩
  | moved step _ ih =>
    cases h' with
    | moved step' others' =>
      cases step.symm.trans step'
      obtain ⟨rfl, rfl⟩ := ih others'
      exact ⟨rfl, rfl⟩
    | link step' => cases step.symm.trans step'
  | link step _ _ ihInside ihOthers =>
    cases h' with
    | moved step' => cases step.symm.trans step'
    | link step' inside' others' =>
      cases step.symm.trans step'
      obtain ⟨rfl, rfl⟩ := ihInside inside'
      obtain ⟨rfl, rfl⟩ := ihOthers others'
      exact ⟨rfl, rfl⟩

/-- A walk by parts one after the other falls into two. -/
theorem Leads.split (front : List Chars) (h : Leads tree n here (front ++ rest) goal) :
    ∃ k m between, Leads tree k here front between ∧ Leads tree m between rest goal := by
  induction front generalizing n here with
  | nil => exact ⟨0, n, here, .nil here, h⟩
  | cons part front ih =>
    cases h with
    | moved step others =>
      obtain ⟨k, m, between, hfront, hrest⟩ := ih others
      exact ⟨k + 1, m, between, .moved step hfront, hrest⟩
    | link step inside others =>
      obtain ⟨k, m, between, hfront, hrest⟩ := ih others
      exact ⟨_, m, between, .link step inside hfront, hrest⟩

/-- Two walks one after the other are one. -/
theorem Leads.append {between : Place} {front : List Chars} (h : Leads tree m here front between)
    (h' : Leads tree n between rest goal) : ∃ k, Leads tree k here (front ++ rest) goal := by
  induction h with
  | nil => exact ⟨n, h'⟩
  | moved step _ ih =>
    obtain ⟨k, hrest⟩ := ih h'
    exact ⟨k + 1, .moved step hrest⟩
  | link step inside _ _ ih =>
    obtain ⟨k, hrest⟩ := ih h'
    exact ⟨_, .link step inside hrest⟩

/-- Where the system's walk arrives, a whole walk leads. -/
theorem exists_leads_of_follow (h : tree.follow true links here parts = .ok goal) :
    ∃ n, Leads tree n here parts goal := by
  -- links run out before parts do: a link puts the parts of its target in front of the others
  induction links using Nat.strongRecOn generalizing here parts with
  | ind links ihLinks =>
    induction parts generalizing here with
    | nil =>
      rw [follow_nil] at h
      cases h
      exact ⟨0, .nil _⟩
    | cons part rest ih =>
      rw [follow_cons] at h
      cases hstep : tree.stepAt here part with
      | refused cause =>
        rw [hstep] at h
        cases h
      | moved there =>
        rw [hstep] at h
        obtain ⟨n, hrest⟩ := ih h
        exact ⟨n + 1, .moved hstep hrest⟩
      | link target =>
        rw [hstep] at h
        cases links with
        | zero => simp at h
        | succ links =>
          simp only [Bool.not_true, Bool.and_false, Bool.false_eq_true, if_false] at h
          obtain ⟨_, hall⟩ := ihLinks links (Nat.lt_succ_self links) h
          obtain ⟨m, n, between, hinside, hothers⟩ := hall.split _
          exact ⟨m + n + 1, .link hstep hinside hothers⟩

/-! ## Places on the way -/

/-- The system's walk to the place arrives there and meets no link. -/
structure Stands (tree : FileTree) (place : Place) : Prop where
  names : ∀ name ∈ place, isName name = true
  arrives : tree.follow true 0 [] place = .ok place

theorem stands_nil (tree : FileTree) : Stands tree [] :=
  ⟨fun _ hname => absurd hname List.not_mem_nil, follow_nil tree true 0 []⟩

namespace Stands

theorem isFinal (h : Stands tree place) : IsFinal tree place :=
  ⟨h.names, by rw [h.arrives]; nofun⟩

/-- Walks to a place that stands pass on from it. -/
theorem follow_append_eq (h : Stands tree place) (last : Bool) (links : Nat) (back : List Chars) :
    tree.follow last links [] (place ++ back) = tree.follow last links place back := by
  rw [h.isFinal.follow_append_eq, h.arrives]
  rfl

theorem dropLast (h : Stands tree place) : Stands tree place.dropLast := by
  rcases List.eq_nil_or_concat' place with rfl | ⟨init, name, rfl⟩
  · exact h
  · have hfinal := h.isFinal.of_prefix (List.prefix_append init [name])
    rw [List.dropLast_concat]
    refine ⟨hfinal.names, ?_⟩
    have harrives := h.arrives
    rw [hfinal.follow_append_eq] at harrives
    cases hinit : tree.follow true 0 [] init with
    | error cause =>
      rw [hinit] at harrives
      cases harrives
    | ok there => rw [hfinal.eq_of_follow hinit]

/-- A step of the system from a place that stands leads to one. -/
theorem moved (h : Stands tree here) (hstep : tree.stepAt here part = .moved there) :
    Stands tree there := by
  cases isStep_of_eq hstep with
  | stays => exact h
  | up => exact h.dropLast
  | down hname =>
    refine ⟨fun name hmem => ?_, ?_⟩
    · rcases List.mem_append.mp hmem with hmem | hmem
      · exact h.names name hmem
      · rwa [List.mem_singleton.mp hmem]
    · rw [h.follow_append_eq, follow_cons, hstep]
      exact follow_nil tree true 0 _

theorem targetStart (h : Stands tree here) (target : Chars) :
    Stands tree (targetStart here target) := by
  unfold FileTree.targetStart
  split_ifs
  · exact stands_nil tree
  · exact h

theorem leads (h : Stands tree here) (hleads : Leads tree n here parts goal) :
    Stands tree goal := by
  induction hleads with
  | nil => exact h
  | moved step _ ih => exact ih (h.moved step)
  | link _ _ _ ihInside ihOthers => exact ihOthers (ihInside (h.targetStart _))

end Stands

/-! ## Looking at entries -/

theorem lookAt_of_link (h : Stands tree here) (hstep : tree.stepAt here part = .link target)
    (hentry : tree.get? (here ++ [part]) = some (.link target)) :
    tree.lookAt (here ++ [part]) = .ok (here ++ [part]) := by
  rw [lookAt, h.follow_append_eq, follow_cons, hstep]
  simp [hentry]

/-! ## The walk that spells out a path -/

theorem resolveFrom_up {spot : Spot} :
    tree.resolveFrom strict seen spot cwd (.part "..".toList :: pending) =
      tree.resolveFrom strict seen spot.up cwd pending := by
  rw [resolveFrom]
  rfl

theorem resolveFrom_stays {spot : Spot} (h : stays part = true) :
    tree.resolveFrom strict seen spot cwd (.part part :: pending) =
      tree.resolveFrom strict seen spot cwd pending := by
  rw [resolveFrom, if_pos h]

theorem resolveFrom_name {spot : Spot} (hname : isName part = true)
    (hlook : ∀ there target, tree.lookAt ((spot.down part).place cwd) = .ok there →
      tree.get? there ≠ some (.link target))
    (h : tree.resolveFrom strict seen spot cwd (.part part :: pending) = .ok arrival) :
    tree.resolveFrom strict seen (spot.down part) cwd pending = .ok arrival := by
  rw [isName_iff] at hname
  rw [resolveFrom, if_neg hname.1, if_neg hname.2] at h
  split at h
  · cases h
  · split at h
    · split_ifs at h
      exact h
    · next there hthere =>
      split at h
      · next target hlink => exact absurd hlink (hlook there target hthere)
      · exact h

theorem lookup_eq_none {key : LinkKey} : seen.lookup key = none ↔ key ∉ seen.map Prod.fst := by
  simp only [List.lookup_eq_none_iff, bne_iff_ne, List.mem_map, not_exists, not_and]
  exact ⟨fun h met hmem heq => h met hmem heq.symm, fun h met hmem heq => h met hmem heq.symm⟩

theorem resolveFrom_link {spot : Spot} (hname : isName part = true)
    (hlook : tree.lookAt ((spot.down part).place cwd) = .ok there)
    (hlink : tree.get? there = some (.link target))
    (h : tree.resolveFrom strict seen spot cwd (.part part :: pending) = .ok arrival) :
    (∃ known, seen.lookup (spot.absolute, there) = some (some known) ∧
      tree.resolveFrom strict seen known cwd pending = .ok arrival) ∨
    (seen.lookup (spot.absolute, there) = some none) ∨
    (seen.lookup (spot.absolute, there) = none ∧
      tree.resolveFrom strict (((spot.absolute, there), none) :: seen)
        (if target.head? = some '/' then ⟨true, []⟩ else spot) cwd
        ((targetParts target).map .part ++ .arrived (spot.absolute, there) :: pending) =
          .ok arrival) := by
  rw [isName_iff] at hname
  rw [resolveFrom, if_neg hname.1, if_neg hname.2] at h
  split at h
  · cases h
  · simp only [hlook] at h
    split at h
    · next target' hlink' =>
      cases hlink.symm.trans hlink'
      split at h
      · next hmem =>
        split at h
        · next known hknown => exact .inl ⟨known, hknown, h⟩
        · next hunknown =>
          refine .inr (.inl ?_)
          cases hlookup : seen.lookup (spot.absolute, there) with
          | none => exact absurd hmem (lookup_eq_none.mp hlookup)
          | some known =>
            cases known with
            | none => rfl
            | some known => exact absurd hlookup (hunknown known)
      · next hmem => exact .inr (.inr ⟨lookup_eq_none.mpr hmem, h⟩)
    · next hno => exact absurd hlink (hno target)

theorem resolveFrom_arrived {spot : Spot} {key : LinkKey} :
    tree.resolveFrom strict seen spot cwd (.arrived key :: pending) =
      tree.resolveFrom strict ((key, some spot) :: seen) spot cwd pending := by
  rw [resolveFrom]

/-- A step of the system that meets no link is made by this walk too. -/
theorem exists_of_moved {spot : Spot} (h : Stands tree (spot.place cwd))
    (hstep : tree.stepAt (spot.place cwd) part = .moved there)
    (hwalk : tree.resolveFrom strict seen spot cwd (.part part :: pending) = .ok arrival) :
    ∃ spot' : Spot, spot'.place cwd = there ∧
      tree.resolveFrom strict seen spot' cwd pending = .ok arrival := by
  cases isStep_of_eq hstep with
  | stays hstays =>
    rw [resolveFrom_stays hstays] at hwalk
    exact ⟨spot, rfl, hwalk⟩
  | up hup =>
    subst hup
    rw [resolveFrom_up] at hwalk
    exact ⟨spot.up, place_up h.isFinal, hwalk⟩
  | down hname =>
    refine ⟨spot.down part, place_down hname, resolveFrom_name hname (fun there target hlook => ?_)
      hwalk⟩
    rw [place_down hname] at hlook
    exact (h.moved hstep).isFinal.lookAt_ne_link hlook

/-! ## The walks side by side -/

/-- A link leads to a place in so many steps. -/
def LinkLeads (tree : FileTree) (n : Nat) (link goal : Place) : Prop :=
  ∃ target, tree.get? link = some (.link target) ∧
    Leads tree n (targetStart link.dropLast target) (targetParts target) goal

theorem LinkLeads.deterministic {link goal' : Place} (h : LinkLeads tree n link goal)
    (h' : LinkLeads tree m link goal') : n = m ∧ goal = goal' := by
  obtain ⟨target, hlink, hleads⟩ := h
  obtain ⟨target', hlink', hleads'⟩ := h'
  cases hlink.symm.trans hlink'
  exact hleads.deterministic hleads'

/-- The links that have been followed led to the positions recorded for them. -/
def IsTrue (tree : FileTree) (cwd : Place) (seen : Seen) : Prop :=
  ∀ key spot, seen.lookup key = some (some spot) → ∃ m, LinkLeads tree m key.2 (spot.place cwd)

/-- The links that are being followed take at least so many steps. -/
def IsOpenFor (tree : FileTree) (n : Nat) (seen : Seen) : Prop :=
  ∀ key, seen.lookup key = some none → ∀ m goal, LinkLeads tree m key.2 goal → n ≤ m

theorem lookup_cons_of_ne {key key' : LinkKey} {known : Option Spot} (h : key' ≠ key) :
    ((key, known) :: seen).lookup key' = seen.lookup key' := by
  rw [List.lookup_cons, beq_false_of_ne h]

theorem IsTrue.cons_none (h : IsTrue tree cwd seen) (key : LinkKey) :
    IsTrue tree cwd ((key, none) :: seen) := by
  intro key' spot hlookup
  by_cases hkey : key' = key
  · subst hkey
    rw [List.lookup_cons, beq_self_eq_true] at hlookup
    cases hlookup
  · rw [lookup_cons_of_ne hkey] at hlookup
    exact h key' spot hlookup

theorem IsTrue.cons_some {key : LinkKey} {spot : Spot} (h : IsTrue tree cwd seen)
    (hlink : LinkLeads tree m key.2 (spot.place cwd)) :
    IsTrue tree cwd ((key, some spot) :: seen) := by
  intro key' spot' hlookup
  by_cases hkey : key' = key
  · subst hkey
    rw [List.lookup_cons, beq_self_eq_true] at hlookup
    cases hlookup
    exact ⟨m, hlink⟩
  · rw [lookup_cons_of_ne hkey] at hlookup
    exact h key' spot' hlookup

theorem IsOpenFor.cons_none {key : LinkKey} (h : IsOpenFor tree n seen)
    (hlink : LinkLeads tree m key.2 goal) (hle : m ≤ n) :
    IsOpenFor tree m ((key, none) :: seen) := by
  intro key' hlookup k goal' hlink'
  by_cases hkey : key' = key
  · subst hkey
    exact Nat.le_of_eq (hlink.deterministic hlink').1
  · rw [lookup_cons_of_ne hkey] at hlookup
    exact Nat.le_trans hle (h key' hlookup k goal' hlink')

theorem IsOpenFor.mono (h : IsOpenFor tree n seen) (hle : m ≤ n) : IsOpenFor tree m seen :=
  fun key hkey k goal hlink => Nat.le_trans hle (h key hkey k goal hlink)

/-- With its position recorded, a link that was met last is no longer open. -/
theorem lookup_of_closed {key : LinkKey} {seen' : Seen} (spot : Spot)
    (hless : ∀ key', seen'.lookup key' = some none →
      List.lookup key' ((key, none) :: seen) = some none) :
    ∀ key', List.lookup key' ((key, some spot) :: seen') = some none →
      seen.lookup key' = some none := by
  intro key' hlookup
  by_cases hkey : key' = key
  · subst hkey
    rw [List.lookup_cons, beq_self_eq_true] at hlookup
    cases hlookup
  · rw [lookup_cons_of_ne hkey] at hlookup
    rw [← lookup_cons_of_ne hkey]
    exact hless key' hlookup

/-- The walk that spells out a path goes along with a whole walk: it comes to the same place, and
    no more links are being followed than before. -/
theorem exists_of_leads (h : Leads tree n here parts goal) {spot : Spot}
    (hspot : spot.place cwd = here) (hstands : Stands tree here) (htrue : IsTrue tree cwd seen)
    (hopen : IsOpenFor tree n seen)
    (hwalk : tree.resolveFrom strict seen spot cwd (parts.map .part ++ pending) = .ok arrival) :
    ∃ (spot' : Spot) (seen' : Seen), spot'.place cwd = goal ∧ IsTrue tree cwd seen' ∧
      (∀ key, seen'.lookup key = some none → seen.lookup key = some none) ∧
      tree.resolveFrom strict seen' spot' cwd pending = .ok arrival := by
  induction h generalizing spot seen pending with
  | nil here => exact ⟨spot, seen, hspot, htrue, fun _ h => h, hwalk⟩
  | @moved n here there goal part rest step others ih =>
    subst hspot
    obtain ⟨spot', hspot', hwalk'⟩ := exists_of_moved hstands step hwalk
    exact ih hspot' (hstands.moved step) htrue
      (fun key hkey m goal hlink => Nat.le_of_succ_le (hopen key hkey m goal hlink)) hwalk'
  | @link m n here between goal part target rest step inside others ihInside ihOthers =>
    subst hspot
    obtain ⟨hname, hentry⟩ := (isStep_of_eq step).entry_of_link
    have hlink : LinkLeads tree m (spot.place cwd ++ [part]) between :=
      ⟨target, hentry, by rwa [List.dropLast_concat]⟩
    have hbetween := (hstands.targetStart target).leads inside
    have hlook := lookAt_of_link hstands step hentry
    rw [← place_down hname] at hlook hentry
    have hcases := resolveFrom_link hname hlook hentry hwalk
    rw [place_down hname] at hcases
    rcases hcases with ⟨known, hknown, hwalk'⟩ | hpending | ⟨hnew, hwalk'⟩
    · -- the link has been followed before, and led where it leads now
      obtain ⟨_, hbefore⟩ := htrue _ known hknown
      exact ihOthers (hbefore.deterministic hlink).2 hbetween htrue
        (hopen.mono (by omega)) hwalk'
    · -- the link is being followed: its walk would be longer than itself
      have := hopen _ hpending m between hlink
      omega
    · -- the link is followed now, and is open until its target has been walked along
      have hstart : (if target.head? = some '/' then (⟨true, []⟩ : Spot) else spot).place cwd =
          FileTree.targetStart (spot.place cwd) target := by
        unfold FileTree.targetStart
        split_ifs <;> rfl
      obtain ⟨spot', seen', hspot', htrue', hopen', hwalk'⟩ :=
        ihInside hstart (hstands.targetStart target) (htrue.cons_none _)
          (hopen.cons_none hlink (by omega)) hwalk'
      rw [resolveFrom_arrived] at hwalk'
      subst hspot'
      have hclosed := lookup_of_closed spot' hopen'
      obtain ⟨spot'', seen'', hspot'', htrue'', hopen'', hwalk''⟩ :=
        ihOthers rfl hbetween (htrue'.cons_some hlink)
          (fun key hkey => (hopen.mono (by omega)) key (hclosed key hkey)) hwalk'
      exact ⟨spot'', seen'', hspot'', htrue'', fun key hkey => hclosed key (hopen'' key hkey),
        hwalk''⟩

/-- Where a whole walk leads, the walk that spells out its parts is not stopped by a link, and comes
    to the same place. -/
theorem exists_final_of_leads {spot : Spot} (hstands : Stands tree (spot.place cwd))
    (hleads : Leads tree n (spot.place cwd) parts goal)
    (hwalk : tree.resolveFrom strict [] spot cwd (parts.map .part) = .ok arrival) :
    ∃ spot' : Spot, arrival = .final spot' ∧ spot'.place cwd = goal := by
  rw [← List.append_nil (parts.map _)] at hwalk
  obtain ⟨spot', seen', hgoal, -, -, hwalk'⟩ :=
    exists_of_leads hleads rfl hstands (fun _ _ h => by cases h) (fun _ h => by cases h) hwalk
  rw [resolveFrom] at hwalk'
  exact ⟨spot', (Except.ok.inj hwalk').symm, hgoal⟩

/-- Where the system's walk over parts arrives, the walk that spells them out is not stopped by a
    link, and comes to the same place. -/
theorem exists_final_of_follow {spot : Spot} (hstands : Stands tree (spot.place cwd))
    (hfollow : tree.follow true links (spot.place cwd) parts = .ok goal)
    (hwalk : tree.resolveFrom strict [] spot cwd (parts.map .part) = .ok arrival) :
    ∃ spot' : Spot, arrival = .final spot' ∧ spot'.place cwd = goal := by
  obtain ⟨n, hleads⟩ := exists_leads_of_follow hfollow
  exact exists_final_of_leads hstands hleads hwalk

end FileTree

end ScriptReport

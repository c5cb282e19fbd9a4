/-
  ScriptReport.Proofs.Url.AddressParts

  Addresses of servers as they are written. The parts of an address are cut where their marks are,
  whatever stands in the query and the fragment. So the path that is read is the path that was
  written (`withoutParameters_parts`), and every location of a server can be written as an address
  (`exists_address`).
-/

import Mathlib
import ScriptReport.Proofs.Success
import ScriptReport.Proofs.Text.LowerCase
import ScriptReport.Proofs.Text.Occurrence
import ScriptReport.Url.Location

namespace ScriptReport.Url

/-! ## Addresses -/

/-- The parts of an address as they are written. Each part but the scheme and the path comes with
    the mark that sets it off from what is in front of it; a part that is missing is empty. -/
structure Address where
  scheme : Chars
  /-- Two slashes and the network location. -/
  authority : Chars
  path : Chars
  /-- A semicolon and what else belongs to the last part of the path. -/
  parameters : Chars
  query : Chars
  fragment : Chars
  deriving DecidableEq, Repr

namespace Address

/-- The address behind its network location. -/
def afterHost (a : Address) : Chars := a.path ++ a.parameters ++ a.query ++ a.fragment

/-- The address as it is written. -/
def text (a : Address) : Chars := a.scheme ++ ':' :: (a.authority ++ a.afterHost)

end Address

/-- The schemes of servers. -/
def serverSchemes : List Chars := ["http", "https"]

/-- The text is empty, or starts with the mark. -/
def IsMarked (mark : Char) (text : Chars) : Prop := text = [] ∨ ∃ rest, text = mark :: rest

/-- The parts make up an address on a server: each ends where the next one starts. -/
structure Address.Fits (a : Address) : Prop where
  scheme : Text.foldAscii a.scheme ∈ serverSchemes
  /-- The network location goes as far as the first character that ends it. Where there is none,
      what follows does not look like one. -/
  authority : (a.authority = [] ∧ ¬ ("//" : Chars) <+: a.afterHost) ∨
    ∃ host, a.authority = '/' :: '/' :: host ∧ (∀ c ∈ host, endsHost c = false) ∧
      ∀ c, a.afterHost.head? = some c → endsHost c = true
  /-- The last part of the path has no semicolon. -/
  path : ∀ front behind, a.path = front ++ ';' :: behind → '/' ∈ behind
  parameters : IsMarked ';' a.parameters ∧ '/' ∉ a.parameters
  query : IsMarked '?' a.query ∧ '?' ∉ a.path ++ a.parameters
  fragment : IsMarked '#' a.fragment ∧ '#' ∉ a.path ++ a.parameters ++ a.query

/-- The network location behind two slashes, and the rest. -/
def cutHost : Chars → Chars × Chars
  | '/' :: '/' :: rest => (rest.takeWhile (!endsHost ·), rest.dropWhile (!endsHost ·))
  | rest => ([], rest)

/-- The parts that a text is split into, whatever its network location is. -/
def parts (location : Chars) : Location :=
  let scheme := cutScheme (cleaned location)
  let host := cutHost scheme.2
  let fragment := cutOr '#' host.2
  let query := cutOr '?' fragment.1
  { scheme := scheme.1, host := host.1, path := query.1, query := query.2, fragment := fragment.2 }

variable {location text front marked path parameters scheme : Chars} {a : Address} {mark : Char}

theorem split_eq (location : Chars) :
    split location = checkHost (parts location).host >>= fun _ => .ok (parts location) := rfl

/-- A location that is split at all is split into these parts. -/
theorem eq_parts_of_split {found : Location} (h : split location = .ok found) :
    found = parts location := by
  obtain ⟨-, -, heq⟩ := bind_eq_ok_iff.mp (split_eq location ▸ h)
  exact (Except.ok.inj heq).symm

/-! ## Cutting at marks -/

theorem cutOr_append (hfront : mark ∉ front) (hmarked : IsMarked mark marked) :
    cutOr mark (front ++ marked) = (front, marked.drop 1) := by
  rw [cutOr]
  rcases hmarked with rfl | ⟨rest, rfl⟩
  · rw [List.append_nil, Text.cutAt?_eq_none_iff.mpr hfront]
    rfl
  · rw [Text.cutAt?_append_cons hfront]
    rfl

theorem exists_cut (mark : Char) (text : Chars) :
    ∃ front marked, text = front ++ marked ∧ mark ∉ front ∧ IsMarked mark marked := by
  cases hcut : Text.cutAt? mark text with
  | none =>
    exact ⟨text, [], (List.append_nil text).symm, Text.cutAt?_eq_none_iff.mp hcut, .inl rfl⟩
  | some cut =>
    obtain ⟨htext, hfront⟩ := Text.eq_of_cutAt? hcut
    exact ⟨cut.1, mark :: cut.2, htext, hfront, .inr ⟨cut.2, rfl⟩⟩

/-! ## Schemes -/

/-- In lower case, only ASCII letters become the scheme of a server. -/
theorem lower_mem_serverSchemes_iff (scheme : Chars) :
    Text.lower scheme ∈ serverSchemes ↔ Text.foldAscii scheme ∈ serverSchemes := by
  have hpattern : ∀ s ∈ serverSchemes, Text.IsPattern s := by
    intro s hs
    rcases List.mem_pair.mp hs with rfl | rfl
    · exact .of_all (by decide) (by decide) (by decide)
    · exact .of_all (by decide) (by decide) (by decide)
  constructor
  · intro h
    rwa [← (Text.eq_lowerFrom_iff (hpattern _ h) [] scheme).mp rfl]
  · intro h
    rwa [Text.lower, ← (Text.eq_lowerFrom_iff (hpattern _ h) [] scheme).mpr rfl]

theorem isAlpha_of_mem_scheme (h : Text.foldAscii scheme ∈ serverSchemes) :
    ∀ c ∈ scheme, c.isAlpha = true := by
  have hletters : ∀ s ∈ serverSchemes, s.all Char.isAlpha = true := by decide
  intro c hc
  rw [← Char.isAlpha_toLower_eq_isAlpha]
  exact List.all_eq_true.mp (hletters _ h) _ (List.mem_map_of_mem hc)

theorem cutScheme_append (h : Text.foldAscii scheme ∈ serverSchemes) (rest : Chars) :
    cutScheme (scheme ++ ':' :: rest) = (Text.lower scheme, rest) := by
  have halpha := isAlpha_of_mem_scheme h
  have hcolon : ':' ∉ scheme := fun hmem => absurd (halpha _ hmem) (by decide)
  cases scheme with
  | nil => exact absurd h (by decide)
  | cons c scheme =>
    have hchars : (c.isAlpha && scheme.all isSchemeChar) = true := by
      rw [Bool.and_eq_true, List.all_eq_true]
      refine ⟨halpha c List.mem_cons_self, fun x hx => ?_⟩
      simp [isSchemeChar, Char.isAlphanum, halpha x (List.mem_cons_of_mem c hx)]
    rw [cutScheme, Text.cutAt?_append_cons hcolon]
    exact if_pos hchars

theorem exists_scheme (h : (cutScheme text).1 ∈ serverSchemes) :
    ∃ scheme, Text.foldAscii scheme ∈ serverSchemes ∧
      text = scheme ++ ':' :: (cutScheme text).2 := by
  have hnone : ([] : Chars) ∉ serverSchemes := by decide
  rw [cutScheme] at h ⊢
  split at h
  · next c scheme rest hcut =>
    split_ifs at h ⊢
    · exact ⟨c :: scheme, (lower_mem_serverSchemes_iff _).mp h, (Text.eq_of_cutAt? hcut).1⟩
    · exact absurd h hnone
  · exact absurd h hnone

/-! ## Network locations -/

theorem cutHost_of_not_slashes (h : ¬ ("//" : Chars) <+: text) : cutHost text = ([], text) := by
  unfold cutHost
  split
  · next rest => exact absurd (List.prefix_append ['/', '/'] rest) h
  · rfl

theorem cutHost_append {host rest : Chars} (hhost : ∀ c ∈ host, endsHost c = false)
    (hrest : ∀ c, rest.head? = some c → endsHost c = true) :
    cutHost ('/' :: '/' :: (host ++ rest)) = (host, rest) := by
  have hpart : ∀ c ∈ host, (!endsHost c) = true := fun c hc => by rw [hhost c hc]; rfl
  have hend : ∀ c, rest.head? = some c → (!endsHost c) = false := fun c hc => by
    rw [hrest c hc]
    rfl
  rw [cutHost, Text.takeWhile_append_of_head? hpart hend,
    Text.dropWhile_append_of_head? hpart hend]

theorem Address.Fits.cutHost_eq (h : a.Fits) :
    (cutHost (a.authority ++ a.afterHost)).2 = a.afterHost := by
  rcases h.authority with ⟨hnone, hnot⟩ | ⟨host, hauthority, hhost, hend⟩
  · rw [hnone, List.nil_append, cutHost_of_not_slashes hnot]
  · rw [hauthority, List.cons_append, List.cons_append, cutHost_append hhost hend]

theorem exists_authority (text : Chars) :
    ∃ authority, text = authority ++ (cutHost text).2 ∧
      ((authority = [] ∧ ¬ ("//" : Chars) <+: (cutHost text).2) ∨
        ∃ host, authority = '/' :: '/' :: host ∧ (∀ c ∈ host, endsHost c = false) ∧
          ∀ c, (cutHost text).2.head? = some c → endsHost c = true) := by
  by_cases hslashes : ("//" : Chars) <+: text
  · obtain ⟨rest, rfl⟩ := hslashes
    obtain ⟨host, after, rfl, hhost, hafter⟩ := Text.exists_longest (!endsHost ·) rest
    have hfree : ∀ c ∈ host, endsHost c = false := fun c hc => by simpa using hhost c hc
    have hend : ∀ c, after.head? = some c → endsHost c = true := fun c hc => by
      simpa using hafter c hc
    have hcut : cutHost (("//" : Chars) ++ (host ++ after)) = (host, after) :=
      cutHost_append hfree hend
    rw [hcut]
    exact ⟨'/' :: '/' :: host, rfl, .inr ⟨host, rfl, hfree, hend⟩⟩
  · rw [cutHost_of_not_slashes hslashes]
    exact ⟨[], rfl, .inl ⟨rfl, hslashes⟩⟩

/-! ## Parameters -/

/-- Only what comes behind the last slash and a semicolon is taken away. -/
theorem withoutParameters_append
    (hpath : ∀ front behind, path = front ++ ';' :: behind → '/' ∈ behind)
    (hmarked : IsMarked ';' parameters) (hslash : '/' ∉ parameters) :
    withoutParameters (path ++ parameters) = path := by
  have htake {last : Chars} (hlast : ';' ∉ last) :
      (last ++ parameters).takeWhile (· ≠ ';') = last := by
    refine Text.takeWhile_append_of_head? (fun c hc => decide_eq_true fun heq => hlast (heq ▸ hc))
      fun next hnext => ?_
    rcases hmarked with rfl | ⟨rest, rfl⟩
    · cases hnext
    · cases hnext
      rfl
  rw [withoutParameters]
  cases hcut : Text.cutAtLast? '/' path with
  | none =>
    -- without a slash in the path there is no semicolon in it
    have hno : '/' ∉ path := Text.cutAtLast?_eq_none_iff.mp hcut
    have hfree : ';' ∉ path := fun hmem => by
      obtain ⟨front, behind, heq⟩ := List.append_of_mem hmem
      have hbehind := hpath front behind heq
      exact hno (heq ▸ List.mem_append_right _ (List.mem_cons_of_mem _ hbehind))
    have hnone : '/' ∉ path ++ parameters := by
      rw [List.mem_append, not_or]
      exact ⟨hno, hslash⟩
    rw [Text.cutAtLast?_eq_none_iff.mpr hnone]
    exact htake hfree
  | some cut =>
    obtain ⟨before, last⟩ := cut
    obtain ⟨rfl, hlast⟩ := Text.eq_of_cutAtLast? hcut
    have hfree : ';' ∉ last := fun hmem => by
      obtain ⟨front, behind, rfl⟩ := List.append_of_mem hmem
      have hbehind := hpath (before ++ '/' :: front) behind (by simp)
      exact hlast (List.mem_append_right _ (List.mem_cons_of_mem _ hbehind))
    have hnone : '/' ∉ last ++ parameters := by
      rw [List.mem_append, not_or]
      exact ⟨hlast, hslash⟩
    rw [List.append_assoc, List.cons_append, Text.cutAtLast?_append_cons _ hnone]
    dsimp only
    rw [htake hfree]

theorem exists_parameters (text : Chars) :
    ∃ path parameters, text = path ++ parameters ∧
      (∀ front behind, path = front ++ ';' :: behind → '/' ∈ behind) ∧
      IsMarked ';' parameters ∧ '/' ∉ parameters := by
  cases hcut : Text.cutAtLast? '/' text with
  | none =>
    obtain ⟨path, parameters, rfl, hpath, hmarked⟩ := exists_cut ';' text
    have hnone := Text.cutAtLast?_eq_none_iff.mp hcut
    rw [List.mem_append, not_or] at hnone
    refine ⟨path, parameters, rfl, fun front behind heq => ?_, hmarked, hnone.2⟩
    exact absurd (heq ▸ List.mem_append_right _ List.mem_cons_self) hpath
  | some cut =>
    obtain ⟨before, last⟩ := cut
    obtain ⟨rfl, hlast⟩ := Text.eq_of_cutAtLast? hcut
    obtain ⟨path, parameters, rfl, hpath, hmarked⟩ := exists_cut ';' last
    rw [List.mem_append, not_or] at hlast
    refine ⟨before ++ '/' :: path, parameters, by simp, fun front behind heq => ?_, hmarked,
      hlast.2⟩
    -- a semicolon of the path stands in front of the last slash, as there is none behind it
    rcases List.append_eq_append_iff.mp heq with ⟨middle, -, hrest⟩ | ⟨middle, -, hrest⟩
    · have hmem : ';' ∈ '/' :: path := hrest ▸ List.mem_append_right _ List.mem_cons_self
      exact absurd ((List.mem_cons.mp hmem).resolve_left (by decide)) hpath
    · have hmem : '/' ∈ ';' :: behind := hrest ▸ List.mem_append_right _ List.mem_cons_self
      exact (List.mem_cons.mp hmem).resolve_left (by decide)

/-! ## Main statements -/

/-- What follows the colon of the scheme. -/
theorem Address.Fits.cutScheme_cleaned (h : a.Fits) (htext : cleaned location = a.text) :
    cutScheme (cleaned location) = (Text.lower a.scheme, a.authority ++ a.afterHost) := by
  rw [htext, Address.text, cutScheme_append h.scheme]

/-- An address is one of a server. -/
theorem Address.Fits.scheme_parts (h : a.Fits) (htext : cleaned location = a.text) :
    (parts location).scheme ∈ serverSchemes := by
  have hscheme : (parts location).scheme = Text.lower a.scheme :=
    congrArg Prod.fst (h.cutScheme_cleaned htext)
  rw [hscheme]
  exact (lower_mem_serverSchemes_iff a.scheme).mpr h.scheme

/-- The path of an address is read as it is written, whatever stands in the query and the
    fragment. -/
theorem withoutParameters_parts (h : a.Fits) (htext : cleaned location = a.text) :
    withoutParameters (parts location).path = a.path := by
  have hhost : (cutHost (cutScheme (cleaned location)).2).2 = a.afterHost := by
    rw [h.cutScheme_cleaned htext, h.cutHost_eq]
  have hpath : (parts location).path = (cutOr '?' (cutOr '#' a.afterHost).1).1 := by
    rw [← hhost]
    rfl
  rw [hpath, Address.afterHost, cutOr_append h.fragment.2 h.fragment.1,
    cutOr_append h.query.2 h.query.1]
  exact withoutParameters_append h.path h.parameters.1 h.parameters.2

/-- Every location of a server can be written as an address. -/
theorem exists_address (h : (parts location).scheme ∈ serverSchemes) :
    ∃ a : Address, a.Fits ∧ cleaned location = a.text := by
  obtain ⟨scheme, hscheme, htext⟩ := exists_scheme h
  obtain ⟨authority, hrest, hauthority⟩ := exists_authority (cutScheme (cleaned location)).2
  -- a question mark behind the first number sign belongs to the fragment, so that is cut off first
  obtain ⟨front, fragment, hfront, hnoFragment, hfragment⟩ :=
    exists_cut '#' (cutHost (cutScheme (cleaned location)).2).2
  obtain ⟨before, query, rfl, hnoQuery, hquery⟩ := exists_cut '?' front
  obtain ⟨path, parameters, rfl, hpath, hparameters⟩ := exists_parameters before
  rw [hfront] at hauthority hrest
  refine ⟨⟨scheme, authority, path, parameters, query, fragment⟩, ?_, ?_⟩
  · exact ⟨hscheme, hauthority, hpath, hparameters, ⟨hquery, hnoQuery⟩, ⟨hfragment, hnoFragment⟩⟩
  · rw [htext, hrest]
    rfl

end ScriptReport.Url

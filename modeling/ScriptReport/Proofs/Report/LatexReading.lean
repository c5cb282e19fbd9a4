/-
  ScriptReport.Proofs.Report.LatexReading

  How the braces of a LaTeX text are read. A backslash takes the next character with it, a percent
  sign hides the rest of its line, and from the line end behind the beginning of a listing, of
  verbatim text or of a comment up to the end of that environment nothing is read at all.

  A text leads from one place to another if what comes behind it is read from there, whatever it is;
  so texts that lead on are put together one after another and in groups. Escaped text leads nowhere
  else wherever it is written (`leads_escape`), and lines that do not end their environment are not
  read (`leads_raw`). What is balanced on its own leads nowhere else between braces, inside of any
  groups (`leads_argument`).
-/

import ScriptReport.Proofs.Text.Occurrence
import ScriptReport.Report.Latex

namespace ScriptReport.Report.Latex

/-! ## Environments that are not read -/

/-- An environment whose lines stand for themselves. -/
inductive RawEnvironment where
  | listing
  | verbatim
  | comment
  deriving DecidableEq, Repr

/-- The name of the environment. -/
def RawEnvironment.name : RawEnvironment → Chars
  | .listing => "lstlisting"
  | .verbatim => "verbatim"
  | .comment => "comment"

/-- The text that begins the environment. -/
def RawEnvironment.beginText (e : RawEnvironment) : Chars := command "begin" e.name

/-- The text that ends the environment. -/
def RawEnvironment.endText (e : RawEnvironment) : Chars := command "end" e.name

/-- The environment that begins at the front of a text. -/
def begins? (text : Chars) : Option RawEnvironment :=
  [.listing, .verbatim, .comment].find? (·.beginText.isPrefixOf text)

/-! ## Reading -/

/-- What a text is read as. -/
inductive Mode where
  | text
  /-- The line that begins an environment, at the given depth. -/
  | options (e : RawEnvironment) (base : Nat)
  /-- The lines inside of an environment. -/
  | raw (e : RawEnvironment)
  deriving DecidableEq, Repr

/-- What becomes of the next character. -/
inductive Pending where
  | none
  /-- A backslash takes it. -/
  | escaped
  /-- It is hidden behind a percent sign, as all characters up to the line end. -/
  | hidden
  deriving DecidableEq, Repr

/-- A place in a text that is read: how many groups are open, and how the text goes on. -/
structure Place where
  depth : Nat := 0
  mode : Mode := .text
  pending : Pending := .none
  deriving DecidableEq, Repr

/-- The mode behind a backslash with which the given text starts. Environments begin in text. -/
def Mode.command (mode : Mode) (depth : Nat) (text : Chars) : Mode :=
  match begins? text, mode with
  | some e, .text => .options e depth
  | _, mode => mode

/-- The mode behind a line end. -/
def Mode.lineEnd (depth : Nat) : Mode → Mode
  | .options e base => if depth ≤ base then .raw e else .options e base
  | mode => mode

/-- The place behind a character that is read, if it does not close a group that is not open. -/
def Place.read? (p : Place) (c : Char) (rest : Chars) : Option Place :=
  if c = '\\' then
    -- the rest of the line that begins an environment is still read
    some { p with mode := p.mode.command p.depth (c :: rest), pending := .escaped }
  else if c = '%' then some { p with pending := .hidden }
  else if c = '\x7b' then some { p with depth := p.depth + 1 }
  else if c = '\x7d' then if p.depth = 0 then none else some { p with depth := p.depth - 1 }
  else if c = '\n' then some { p with mode := p.mode.lineEnd p.depth }
  else some p

/-- The place behind any character. -/
def Place.next? (p : Place) (c : Char) (rest : Chars) : Option Place :=
  match p.pending, p.mode with
  | .escaped, _ => some { p with pending := .none }
  | .hidden, _ => some { p with pending := if c = '\n' then .none else .hidden }
  -- only the end of the environment is looked for
  | .none, .raw e =>
    some (if e.endText.isPrefixOf (c :: rest) then { p with mode := .text, pending := .escaped }
      else p)
  | .none, _ => p.read? c rest

/-- The place behind a text. -/
def scan : Place → Chars → Option Place
  | p, [] => some p
  | p, c :: rest => (p.next? c rest).bind (scan · rest)

/-- Every group that is opened is closed, none is closed that is not open, and the text behind is
    read as it is without this one. -/
def IsBalanced (text : Chars) : Prop := scan {} text = some {}

instance (text : Chars) : Decidable (IsBalanced text) := inferInstanceAs (Decidable (_ = _))

/-! ## One character -/

/-- A character that only stands for itself. -/
def isOwn (c : Char) : Bool :=
  c != '\\' && c != '%' && c != '\x7b' && c != '\x7d' && c != '\n'

theorem isOwn_iff {c : Char} : isOwn c = true ↔
    c ≠ '\\' ∧ c ≠ '%' ∧ c ≠ '\x7b' ∧ c ≠ '\x7d' ∧ c ≠ '\n' := by
  simp only [isOwn, Bool.and_eq_true, bne_iff_ne, and_assoc]

theorem char_cases (c : Char) :
    c = '\\' ∨ c = '%' ∨ c = '\x7b' ∨ c = '\x7d' ∨ c = '\n' ∨ isOwn c = true := by
  rw [isOwn_iff]
  tauto

theorem read?_closing (p : Place) (rest : Chars) :
    p.read? '\x7d' rest = if p.depth = 0 then none else some { p with depth := p.depth - 1 } := rfl

theorem read?_own {c : Char} (hc : isOwn c = true) (p : Place) (rest : Chars) :
    p.read? c rest = some p := by
  obtain ⟨hbackslash, hpercent, hopening, hclosing, hline⟩ := isOwn_iff.mp hc
  rw [Place.read?, if_neg hbackslash, if_neg hpercent, if_neg hopening, if_neg hclosing,
    if_neg hline]

theorem isOwn_of_isDigit {c : Char} (h : c.isDigit = true) : isOwn c = true := by
  rcases char_cases c with rfl | rfl | rfl | rfl | rfl | hc
  · cases h
  · cases h
  · cases h
  · cases h
  · cases h
  · exact hc

/-! ## From place to place -/

/-- What comes behind the text is read from the second place if the text is read from the first. -/
def Leads (p : Place) (text : Chars) (q : Place) : Prop :=
  ∀ rest, scan p (text ++ rest) = scan q rest

variable {p q r : Place} {text a b : Chars} {c : Char} {e : RawEnvironment}

theorem Leads.nil : Leads p [] p := fun _ => rfl

theorem Leads.append (ha : Leads p a q) (hb : Leads q b r) : Leads p (a ++ b) r := by
  intro rest
  rw [List.append_assoc, ha, hb]

theorem Leads.cons (hc : ∀ rest, p.next? c rest = some q) (h : Leads q text r) :
    Leads p (c :: text) r := by
  intro rest
  rw [List.cons_append, scan, hc, Option.bind_some, h]

theorem Leads.isBalanced (h : Leads {} text {}) : IsBalanced text := by
  have hall := h []
  rwa [List.append_nil] at hall

theorem leads_concatMap {α : Type} {f : α → Chars} {xs : List α}
    (h : ∀ x ∈ xs, Leads p (f x) p) : Leads p (Text.concatMap f xs) p := by
  induction xs with
  | nil => exact Leads.nil
  | cons x rest ih =>
    rw [List.forall_mem_cons] at h
    exact h.1.append (ih h.2)

/-! ## Texts that can be read on their own -/

/-- The character ends what is looked for if it stands there at all. -/
def IsBorder (c : Char) : Prop :=
  ∀ e : RawEnvironment, c ∉ e.beginText.dropLast ∧ c ∉ e.endText.dropLast

theorem isBorder_brace : IsBorder '\x7d' := by
  intro e
  cases e <;> decide

theorem isBorder_lineEnd : IsBorder '\n' := by
  intro e
  cases e <;> decide

/-- A pattern that has the border at its end at most does not reach over a border. -/
theorem isPrefixOf_append_border {pattern : Chars} (hc : c ∉ pattern.dropLast)
    (hlast : text.getLast? = some c) (rest : Chars) :
    pattern.isPrefixOf (text ++ rest) = pattern.isPrefixOf text := by
  obtain ⟨front, rfl⟩ := List.getLast?_eq_some_iff.mp hlast
  rw [Bool.eq_iff_iff, List.isPrefixOf_iff_prefix, List.isPrefixOf_iff_prefix]
  refine ⟨fun h => ?_, fun h => h.trans (List.prefix_append _ _)⟩
  rcases List.prefix_or_prefix_of_prefix h (List.prefix_append (front ++ [c]) rest) with
    hle | ⟨more, rfl⟩
  · exact hle
  · rcases List.eq_nil_or_concat more with rfl | ⟨between, last, rfl⟩
    · rw [List.append_nil]
    · -- the border would stand inside of the pattern
      rw [List.concat_eq_append, ← List.append_assoc, List.dropLast_concat] at hc
      exact absurd (by simp) hc

theorem next?_append_border (hc : IsBorder c) {x : Char} (hlast : (x :: text).getLast? = some c)
    (p : Place) (rest : Chars) : p.next? x (text ++ rest) = p.next? x text := by
  have hbegins : begins? (x :: (text ++ rest)) = begins? (x :: text) := by
    unfold begins?
    congr 1
    funext e
    exact isPrefixOf_append_border (hc e).1 hlast rest
  have hends (e : RawEnvironment) :
      e.endText.isPrefixOf (x :: (text ++ rest)) = e.endText.isPrefixOf (x :: text) :=
    isPrefixOf_append_border (hc e).2 hlast rest
  unfold Place.next? Place.read? Mode.command
  simp only [hbegins, hends]

/-- A text that ends with a border leads to where it is read to on its own. -/
theorem leads_of_scan (hc : IsBorder c) (hlast : text.getLast? = some c)
    (h : scan p text = some q) : Leads p text q := by
  intro rest
  induction text generalizing p with
  | nil => cases hlast
  | cons x xs ih =>
    rw [scan] at h
    obtain ⟨m, hm, hrest⟩ := Option.bind_eq_some_iff.mp h
    rw [List.cons_append, scan, next?_append_border hc hlast, hm, Option.bind_some]
    -- what is left ends with the same border, unless nothing is left
    cases xs with
    | nil => rw [← Option.some.inj hrest, List.nil_append]
    | cons y ys => exact ih (by rwa [List.getLast?_cons_cons] at hlast) hrest

/-! ## Places inside of groups -/

/-- The mode with more groups around it. -/
def Mode.deepen (outer : Nat) : Mode → Mode
  | .options e base => .options e (base + outer)
  | mode => mode

/-- The place with more groups around it. -/
def Place.deepen (outer : Nat) (p : Place) : Place :=
  { p with depth := p.depth + outer, mode := p.mode.deepen outer }

theorem Mode.command_deepen (outer : Nat) (mode : Mode) (depth : Nat) (text : Chars) :
    (mode.deepen outer).command (depth + outer) text =
      (mode.command depth text).deepen outer := by
  unfold Mode.command
  cases begins? text <;> cases mode <;> rfl

theorem Mode.lineEnd_deepen (outer : Nat) (mode : Mode) (depth : Nat) :
    (mode.deepen outer).lineEnd (depth + outer) = (mode.lineEnd depth).deepen outer := by
  cases mode with
  | text => rfl
  | options e base =>
    simp only [Mode.deepen, Mode.lineEnd, Nat.add_le_add_iff_right]
    split <;> rfl
  | raw e => rfl

theorem read?_deepen (outer : Nat) {rest : Chars} (h : p.read? c rest = some q) :
    (p.deepen outer).read? c rest = some (q.deepen outer) := by
  -- a closing brace is the one character that depends on the depth
  rcases char_cases c with rfl | rfl | rfl | rfl | rfl | hc
  · cases h
    exact congrArg (fun mode => some (Place.mk _ mode .escaped)) (Mode.command_deepen outer _ _ _)
  · cases h
    rfl
  · cases h
    exact congrArg (fun depth => some (Place.mk depth _ _)) (Nat.add_right_comm _ _ _)
  · rw [read?_closing] at h ⊢
    split at h
    · cases h
    · next hdepth =>
      cases h
      have hpos : 1 ≤ p.depth := Nat.one_le_iff_ne_zero.mpr hdepth
      rw [if_neg (show (p.deepen outer).depth ≠ 0 from Nat.ne_of_gt (Nat.add_pos_left hpos _))]
      exact congrArg (fun depth => some (Place.mk depth _ _)) (Nat.sub_add_comm hpos)
  · cases h
    exact congrArg (fun mode => some (Place.mk _ mode _)) (Mode.lineEnd_deepen outer _ _)
  · rw [read?_own hc] at h ⊢
    rw [Option.some.inj h]

theorem next?_deepen (outer : Nat) {rest : Chars} (h : p.next? c rest = some q) :
    (p.deepen outer).next? c rest = some (q.deepen outer) := by
  obtain ⟨depth, mode, pending⟩ := p
  cases pending with
  | escaped => cases h; rfl
  | hidden => cases h; rfl
  | none =>
    cases mode with
    | raw e =>
      cases h
      simp only [Place.deepen, Mode.deepen, Place.next?]
      split <;> rfl
    | text => exact read?_deepen outer h
    | options e base => exact read?_deepen outer h

/-- A text is read inside of more groups as it is read outside of them. -/
theorem scan_deepen (outer : Nat) (h : scan p text = some q) :
    scan (p.deepen outer) text = some (q.deepen outer) := by
  induction text generalizing p with
  | nil => rw [← Option.some.inj h]; rfl
  | cons x xs ih =>
    rw [scan] at h ⊢
    obtain ⟨m, hm, hrest⟩ := Option.bind_eq_some_iff.mp h
    rw [next?_deepen outer hm, Option.bind_some, ih hrest]

/-- A place in running text, at the given depth. -/
def Place.inText (depth : Nat) : Place := { depth }

/-! ## Arguments -/

/-- A pattern that does not reach up to a brace behind the text does not reach over it. -/
theorem isPrefixOf_append_brace {pattern : Chars} (hc : '\x7d' ∉ pattern.dropLast)
    (hwhole : pattern ≠ text ++ ['\x7d']) (rest : Chars) :
    pattern.isPrefixOf (text ++ '\x7d' :: rest) = pattern.isPrefixOf text := by
  have hlast : (text ++ ['\x7d']).getLast? = some '\x7d' := List.getLast?_concat
  have hborder := isPrefixOf_append_border hc hlast rest
  rw [List.append_assoc, List.singleton_append] at hborder
  rw [hborder, Bool.eq_iff_iff, List.isPrefixOf_iff_prefix, List.isPrefixOf_iff_prefix,
    List.prefix_concat_iff, or_iff_right hwhole]

/-- What lacks the brace of a beginning leaves a group open. -/
theorem beginText_ne {depth : Nat} (h : scan ⟨depth, .text, .none⟩ text = some {}) :
    e.beginText ≠ text ++ ['\x7d'] := by
  intro heq
  have hopen : scan {} e.beginText.dropLast = some { depth := 1 } := by cases e <;> decide
  have hdeep := scan_deepen depth hopen
  rw [heq, List.dropLast_concat, Place.deepen, Place.deepen, Nat.zero_add] at hdeep
  have hplaces : 0 = 1 + depth := congrArg Place.depth (Option.some.inj (h.symm.trans hdeep))
  omega

/-- What lacks the brace of an end stays in the environment. -/
theorem endText_ne {depth : Nat} (h : scan ⟨depth, .raw e, .none⟩ text = some {}) :
    e.endText ≠ text ++ ['\x7d'] := by
  intro heq
  have hinside : scan ⟨0, .raw e, .none⟩ e.endText.dropLast = some ⟨0, .raw e, .none⟩ := by
    cases e <;> decide
  have hdeep := scan_deepen depth hinside
  rw [heq, List.dropLast_concat, Place.deepen, Nat.zero_add] at hdeep
  have hmodes := congrArg Place.mode (Option.some.inj (h.symm.trans hdeep))
  exact absurd hmodes Mode.noConfusion

/-- The reading of a balanced text does not depend on a brace behind it. -/
theorem next?_append_brace {x : Char} (h : scan p (x :: text) = some {}) (rest : Chars) :
    p.next? x (text ++ '\x7d' :: rest) = p.next? x text := by
  obtain ⟨depth, mode, pending⟩ := p
  cases pending with
  | escaped => rfl
  | hidden => rfl
  | none =>
    cases mode with
    | text =>
      have hbegins : begins? (x :: (text ++ '\x7d' :: rest)) = begins? (x :: text) := by
        unfold begins?
        congr 1
        funext e
        exact isPrefixOf_append_brace (isBorder_brace e).1 (beginText_ne h) rest
      show Place.read? _ x _ = Place.read? _ x _
      unfold Place.read? Mode.command
      rw [hbegins]
    | options e base =>
      have hmode (text : Chars) : (Mode.options e base).command depth text = .options e base := by
        unfold Mode.command
        cases begins? text <;> rfl
      show Place.read? _ x _ = Place.read? _ x _
      unfold Place.read?
      rw [hmode, hmode]
    | raw e =>
      have hend : e.endText.isPrefixOf (x :: (text ++ '\x7d' :: rest)) =
          e.endText.isPrefixOf (x :: text) :=
        isPrefixOf_append_brace (isBorder_brace e).2 (endText_ne h) rest
      show some (if _ then _ else _) = some (if _ then _ else _)
      rw [hend]

/-- A balanced text leads nowhere else in a group that is closed behind it. -/
theorem scan_append_brace (outer : Nat) (h : scan p text = some {}) (rest : Chars) :
    scan (p.deepen outer) (text ++ '\x7d' :: rest) = scan (.inText outer) ('\x7d' :: rest) := by
  induction text generalizing p with
  | nil =>
    rw [Option.some.inj h, Place.deepen, Nat.zero_add]
    rfl
  | cons x xs ih =>
    have hsame := next?_append_brace h rest
    rw [scan] at h
    obtain ⟨m, hm, hrest⟩ := Option.bind_eq_some_iff.mp h
    rw [List.cons_append, scan, next?_deepen outer (hsame.trans hm), Option.bind_some, ih hrest]

/-- A balanced argument is read in its braces as if it was not there. -/
theorem leads_argument (h : IsBalanced text) (depth : Nat) :
    Leads (.inText depth) (group text) (.inText depth) := by
  intro rest
  have hgroup : group text ++ rest = '\x7b' :: (text ++ '\x7d' :: rest) := by
    rw [group, List.append_assoc, List.singleton_append, List.cons_append]
  have hinside := scan_append_brace (depth + 1) h rest
  rw [Place.deepen, Nat.zero_add] at hinside
  rw [hgroup, scan]
  exact hinside

/-! ## Places where text is written -/

/-- Characters are read here. -/
def Place.Reads (p : Place) : Prop :=
  p.pending = .none ∧
    match p.mode with
    | .text => True
    | .options _ base => base ≤ p.depth
    | .raw _ => False

/-- Characters are read here, and lines too. -/
def Place.Flows (p : Place) : Prop :=
  p.pending = .none ∧
    match p.mode with
    | .text => True
    | .options _ base => base < p.depth
    | .raw _ => False

/-- The place in a group that is opened. -/
def Place.inner (p : Place) : Place := { p with depth := p.depth + 1 }

theorem Place.Flows.reads (h : p.Flows) : p.Reads := by
  obtain ⟨depth, mode, pending⟩ := p
  cases mode with
  | text => exact h
  | options e base => exact ⟨h.1, h.2.le⟩
  | raw e => exact h

theorem Place.Reads.inner (h : p.Reads) : p.inner.Flows := by
  obtain ⟨depth, mode, pending⟩ := p
  cases mode with
  | text => exact h
  | options e base => exact ⟨h.1, Nat.lt_succ_of_le h.2⟩
  | raw e => exact h

theorem flows_inText (depth : Nat) : (Place.inText depth).Flows := ⟨rfl, trivial⟩

theorem Place.Reads.next? (h : p.Reads) (c : Char) (rest : Chars) :
    p.next? c rest = p.read? c rest := by
  obtain ⟨depth, mode, pending⟩ := p
  obtain ⟨rfl, hmode⟩ := h
  cases mode with
  | text => rfl
  | options e base => rfl
  | raw e => exact hmode.elim

/-- Characters that only stand for themselves lead nowhere else. -/
theorem leads_own (h : p.Reads) (htext : text.all isOwn = true) : Leads p text p := by
  induction text with
  | nil => exact Leads.nil
  | cons c rest ih =>
    rw [List.all_cons, Bool.and_eq_true] at htext
    refine Leads.cons (fun more => ?_) (ih htext.2)
    rw [h.next?, read?_own htext.1]

theorem leads_lineEnd (h : p.Flows) : Leads p ['\n'] p := by
  refine Leads.cons (fun more => ?_) Leads.nil
  rw [h.reads.next?]
  obtain ⟨depth, mode, pending⟩ := p
  cases mode with
  | text => rfl
  | options e base =>
    have hmode : (Mode.options e base).lineEnd depth = .options e base :=
      if_neg (Nat.not_le.mpr h.2)
    exact congrArg (fun mode => some (Place.mk _ mode _)) hmode
  | raw e => exact h.2.elim

/-- No environment begins with another letter than that of the command. -/
theorem begins?_cons (hc : c ≠ 'b') (rest : Chars) : begins? ('\\' :: c :: rest) = none := by
  rw [begins?, List.find?_eq_none]
  intro e _
  rw [Bool.not_eq_true, ← Bool.not_eq_true, List.isPrefixOf_iff_prefix]
  intro hstarts
  have hletter := List.cons_prefix_cons.mp (List.cons_prefix_cons.mp hstarts).2
  exact hc hletter.1.symm

/-- A backslash and a character that it takes lead nowhere else. -/
theorem leads_escaped (h : p.Reads) (hc : c ≠ 'b') : Leads p ['\\', c] p := by
  intro rest
  obtain ⟨depth, mode, pending⟩ := p
  obtain ⟨rfl, -⟩ := id h
  -- no environment begins here, and the backslash takes the character
  have hmode : mode.command depth ('\\' :: c :: rest) = mode := by
    unfold Mode.command
    rw [begins?_cons hc]
  have hfirst : Place.next? ⟨depth, mode, .none⟩ '\\' (c :: rest) =
      some ⟨depth, mode, .escaped⟩ := by
    rw [h.next?]
    exact congrArg (fun mode => some (Place.mk depth mode .escaped)) hmode
  rw [List.cons_append, List.singleton_append, scan, hfirst, Option.bind_some, scan]
  rfl

/-- The name of a command that only stands for itself, and begins no environment. -/
def IsPlainName (name : Chars) : Prop :=
  name ≠ [] ∧ name.head? ≠ some 'b' ∧ name.all isOwn = true

instance (name : Chars) : Decidable (IsPlainName name) := inferInstanceAs (Decidable (_ ∧ _))

theorem leads_name {name : Chars} (h : p.Reads) (hname : IsPlainName name) :
    Leads p ('\\' :: name) p := by
  obtain ⟨hne, hhead, hown⟩ := hname
  obtain ⟨c, rest, rfl⟩ := List.exists_cons_of_ne_nil hne
  rw [List.all_cons, Bool.and_eq_true] at hown
  exact (leads_escaped h fun hc => hhead (congrArg some hc)).append (leads_own h hown.2)

/-- A group leads nowhere else if what is in it does not. -/
theorem leads_group (h : p.Reads) (htext : Leads p.inner text p.inner) :
    Leads p (group text) p := by
  have hopening : Leads p ['\x7b'] p.inner :=
    Leads.cons (fun _ => by rw [h.next?]; rfl) Leads.nil
  have hclosing : Leads p.inner ['\x7d'] p :=
    Leads.cons (fun _ => by rw [h.inner.reads.next?]; rfl) Leads.nil
  exact (hopening.append htext).append hclosing

/-- A command leads nowhere else if its argument does not. -/
theorem leads_command {name : Chars} (h : p.Reads) (hname : IsPlainName name)
    (htext : Leads p.inner text p.inner) : Leads p (command name text) p :=
  (leads_name h hname).append (leads_group h htext)

theorem leads_escapeChar (h : p.Flows) (c : Char) : Leads p (escapeChar c) p := by
  have hword {name : Chars} (hname : IsPlainName name) : Leads p (command name []) p :=
    leads_command h.reads hname Leads.nil
  unfold escapeChar
  split
  · exact hword (show IsPlainName "textbackslash" by decide)
  split
  · exact hword (show IsPlainName "textasciitilde" by decide)
  split
  · exact hword (show IsPlainName "textasciicircum" by decide)
  split
  · next hspecial =>
    refine leads_escaped h.reads ?_
    rintro rfl
    exact absurd hspecial (by decide)
  · next hbackslash _ _ hspecial =>
    -- what is not escaped is a line end or stands for itself
    rcases char_cases c with rfl | rfl | rfl | rfl | rfl | hc
    · exact absurd rfl hbackslash
    · exact absurd (by decide) hspecial
    · exact absurd (by decide) hspecial
    · exact absurd (by decide) hspecial
    · exact leads_lineEnd h
    · exact leads_own h.reads (by rw [List.all_cons, hc]; rfl)

/-- Escaped text neither closes a group nor hides anything. -/
theorem leads_escape (h : p.Flows) (text : Chars) : Leads p (escape text) p :=
  leads_concatMap fun c _ => leads_escapeChar h c

/-! ## Environments -/

/-- The text does not end the environment. -/
def RawEnvironment.Keeps (e : RawEnvironment) (text : Chars) : Prop :=
  Text.contains e.endText text = false

instance (e : RawEnvironment) (text : Chars) : Decidable (e.Keeps text) :=
  inferInstanceAs (Decidable (_ = _))

/-- The place inside of an environment that is not read. -/
def RawEnvironment.place (e : RawEnvironment) : Place := ⟨0, .raw e, .none⟩

theorem keeps_iff : e.Keeps text ↔ ¬ e.endText <:+: text := by
  rw [RawEnvironment.Keeps, ← Bool.not_eq_true, Text.contains_eq_true_iff]

theorem not_mem_tail_endText (e : RawEnvironment) : '\n' ∉ e.endText.tail := by
  cases e <;> decide

/-- Lines that do not end the environment are not read. -/
theorem leads_raw (h : e.Keeps text) : Leads e.place (text ++ "\n") e.place := by
  have hstays {x : Char} {more : Chars} (hend : e.endText.isPrefixOf (x :: more) = false) :
      e.place.next? x more = some e.place := by
    show some (if _ then _ else _) = _
    rw [hend]
    rfl
  induction text with
  | nil =>
    refine Leads.cons (fun more => hstays ?_) Leads.nil
    cases e <;> rfl
  | cons x xs ih =>
    rw [keeps_iff, List.infix_cons_iff, not_or, ← keeps_iff] at h
    intro rest
    -- the end text has no line end, so it does not reach over the one behind the lines
    have hend : e.endText.isPrefixOf (x :: (xs ++ '\n' :: rest)) = false := by
      rw [Text.isPrefixOf_append_cons (not_mem_tail_endText e), ← Bool.not_eq_true,
        List.isPrefixOf_iff_prefix]
      exact h.1
    have hrest := ih h.2 rest
    rw [List.append_assoc] at hrest
    rw [List.append_assoc, List.cons_append, scan]
    exact (congrArg (Option.bind · _) (hstays hend)).trans hrest

theorem getLast?_beginEnv (name options : Chars) :
    (beginEnv name options).getLast? = some '\n' := List.getLast?_concat

theorem getLast?_endEnv (name : Chars) : (endEnv name).getLast? = some '\n' :=
  List.getLast?_concat

/-- An environment that is not read leads nowhere else if its lines do not end it. -/
theorem leads_rawEnvironment {options body : Chars}
    (hbegin : Leads {} (beginEnv e.name options) e.place) (hbody : Leads e.place body e.place) :
    Leads {} (environment e.name options body) {} := by
  have hend : scan e.place (endEnv e.name) = some {} := by cases e <;> decide
  exact (hbegin.append hbody).append (leads_of_scan isBorder_lineEnd (getLast?_endEnv _) hend)

theorem leads_listing {options : Chars}
    (hbegin : Leads {} (beginEnv RawEnvironment.listing.name options) RawEnvironment.listing.place)
    (h : RawEnvironment.listing.Keeps text) : Leads {} (listing options text) {} :=
  leads_rawEnvironment (e := .listing) hbegin (leads_raw h)

theorem leads_beginEnv {name options : Chars} (h : scan p (beginEnv name options) = some q) :
    Leads p (beginEnv name options) q :=
  leads_of_scan isBorder_lineEnd (getLast?_beginEnv name options) h

theorem leads_environment {name body : Chars} (hbegin : IsBalanced (beginEnv name []))
    (hend : IsBalanced (endEnv name)) (hbody : Leads {} body {}) :
    Leads {} (environment name [] body) {} :=
  ((leads_beginEnv hbegin).append hbody).append
    (leads_of_scan isBorder_lineEnd (getLast?_endEnv name) hend)

end ScriptReport.Report.Latex

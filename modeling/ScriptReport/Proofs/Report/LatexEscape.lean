/-
  ScriptReport.Proofs.Report.LatexEscape

  Escaped text as a code. Ten characters are spelled out, all others stand for themselves
  (`spellings`). Every spelling begins with the one backslash that it has, and none is the beginning
  of another; so an escaped text tells which characters it was made of (`escape_injective`), also
  where these look like spellings. A character of an escaped text belongs to what is written for one
  character of the text (`exists_cut`), so it is enough to look at the ten spellings to know where
  backslashes, other special characters and braces can stand.

  Main statement: different texts have different escaped forms, texts are escaped piece by piece,
  and an escaped text is inert in every argument it is put into (`escape_isInert`).
-/

import ScriptReport.Proofs.Report.LatexReading

namespace ScriptReport.Report.Latex

/-! ## Spellings -/

/-- The characters that LaTeX text does not hold as they are, each with what is written for it. -/
def spellings : List (Char × Chars) :=
  [('\\', "\\textbackslash\x7b\x7d"), ('&', "\\&"), ('%', "\\%"), ('$', "\\$"), ('#', "\\#"),
   ('_', "\\_"), ('\x7b', "\\\x7b"), ('\x7d', "\\\x7d"), ('~', "\\textasciitilde\x7b\x7d"),
   ('^', "\\textasciicircum\x7b\x7d")]

/-- The characters that are spelled out. -/
def spelledOut : Chars := spellings.map Prod.fst

variable {a b c : Char} {s t text before after u v : Chars}

theorem escapeChar_spelling : ∀ e ∈ spellings, escapeChar e.1 = e.2 := by decide

/-- A character is spelled out or stands for itself. -/
theorem escapeChar_cases (c : Char) :
    (c, escapeChar c) ∈ spellings ∨ c ∉ spelledOut ∧ escapeChar c = [c] := by
  by_cases hc : c ∈ spelledOut
  · obtain ⟨e, he, rfl⟩ := List.mem_map.mp hc
    exact .inl (by rwa [escapeChar_spelling e he])
  · refine .inr ⟨hc, ?_⟩
    have hne {x : Char} (hx : x ∈ spelledOut) : c ≠ x := fun h => hc (h ▸ hx)
    have hothers : ¬ "&%$#_\x7b\x7d".toList.contains c = true := by
      have hsublist : "&%$#_\x7b\x7d".toList.Sublist spelledOut := by decide
      rw [List.contains_iff_mem]
      exact fun h => hc (hsublist.subset h)
    rw [escapeChar, if_neg (hne (by decide)), if_neg (hne (by decide)), if_neg (hne (by decide)),
      if_neg hothers]

theorem spelling_backslash : ∀ e ∈ spellings, e.2.head? = some '\\' ∧ '\\' ∉ e.2.tail := by decide

/-- A spelling begins with a backslash, and has no other. -/
theorem exists_tail (h : (c, escapeChar c) ∈ spellings) :
    ∃ tail, escapeChar c = '\\' :: tail ∧ '\\' ∉ tail := by
  obtain ⟨hhead, htail⟩ := spelling_backslash _ h
  obtain ⟨tail, heq⟩ := List.head?_eq_some_iff.mp hhead
  rw [heq] at htail
  exact ⟨tail, heq, htail⟩

/-- A character that stands for itself is no backslash. -/
theorem ne_backslash (h : c ∉ spelledOut) : c ≠ '\\' := by
  rintro rfl
  exact h (by decide)

theorem spellings_prefixFree : ∀ e ∈ spellings, ∀ f ∈ spellings, e.2 <+: f.2 → e = f := by decide

/-! ## Reading back -/

theorem escape_cons (c : Char) (text : Chars) : escape (c :: text) = escapeChar c ++ escape text :=
  rfl

/-- Texts are escaped piece by piece. -/
theorem escape_append (s t : Chars) : escape (s ++ t) = escape s ++ escape t := by
  rw [escape, Text.concatMap, List.map_append, List.flatten_append]
  rfl

theorem escapeChar_ne_nil (c : Char) : escapeChar c ≠ [] := by
  rcases escapeChar_cases c with hspelled | ⟨-, hown⟩
  · obtain ⟨tail, htail, -⟩ := exists_tail hspelled
    rw [htail]
    exact List.cons_ne_nil _ tail
  · rw [hown]
    exact List.cons_ne_nil c []

/-- What is written for a character is not the beginning of what is written for another. -/
theorem eq_of_begins_escapeChar (h : escapeChar a <+: escapeChar b) : a = b := by
  rcases escapeChar_cases a with ha | ⟨ha, hown⟩ <;> rcases escapeChar_cases b with hb | ⟨hb, hown'⟩
  case inl.inl => exact congrArg Prod.fst (spellings_prefixFree _ ha _ hb h)
  case inl.inr =>
    obtain ⟨tail, htail, -⟩ := exists_tail ha
    rw [htail, hown', List.cons_prefix_cons] at h
    exact absurd h.1.symm (ne_backslash hb)
  case inr.inl =>
    obtain ⟨tail, htail, -⟩ := exists_tail hb
    rw [htail, hown, List.cons_prefix_cons] at h
    exact absurd h.1 (ne_backslash ha)
  case inr.inr =>
    rw [hown, hown', List.cons_prefix_cons] at h
    exact h.1

theorem escapeChar_append_inj (h : escapeChar a ++ u = escapeChar b ++ v) : a = b ∧ u = v := by
  have hsame : a = b := by
    rcases List.prefix_or_prefix_of_prefix (List.prefix_append (escapeChar a) u)
      (h ▸ List.prefix_append (escapeChar b) v) with hle | hle
    · exact eq_of_begins_escapeChar hle
    · exact (eq_of_begins_escapeChar hle).symm
  subst hsame
  exact ⟨rfl, List.append_cancel_left h⟩

/-- An escaped text tells which text it was made of. -/
theorem escape_injective (h : escape s = escape t) : s = t := by
  induction s generalizing t with
  | nil =>
    cases t with
    | nil => rfl
    | cons b t => exact absurd (List.append_eq_nil_iff.mp h.symm).1 (escapeChar_ne_nil b)
  | cons a s ih =>
    cases t with
    | nil => exact absurd (List.append_eq_nil_iff.mp h).1 (escapeChar_ne_nil a)
    | cons b t =>
      -- what is written for the first characters tells them, whatever stands behind it
      obtain ⟨rfl, hrest⟩ := escapeChar_append_inj h
      rw [ih hrest]

/-! ## Where characters stand -/

/-- A character of two texts one after the other stands in the second one or in the first. -/
theorem cut_append (h : u ++ v = before ++ c :: after) :
    (∃ more, before = u ++ more ∧ v = more ++ c :: after) ∨
      ∃ right, u = before ++ c :: right ∧ after = right ++ v := by
  rcases List.append_eq_append_iff.mp h with hsecond | ⟨more, hu, hmore⟩
  · exact .inl hsecond
  · cases more with
    | nil => exact .inl ⟨[], by rw [hu, List.append_nil, List.append_nil], hmore.symm⟩
    | cons d right =>
      obtain ⟨rfl, hafter⟩ := List.cons.inj hmore
      exact .inr ⟨right, hu, hafter⟩

/-- A character of an escaped text stands in what is written for one character of the text. -/
theorem exists_cut (h : escape text = before ++ c :: after) :
    ∃ front x rest left right, text = front ++ x :: rest ∧ escapeChar x = left ++ c :: right ∧
      before = escape front ++ left ∧ after = right ++ escape rest := by
  induction text generalizing before with
  | nil => exact absurd h.symm (List.append_ne_nil_of_right_ne_nil _ (List.cons_ne_nil c after))
  | cons y text ih =>
    rw [escape_cons] at h
    -- it stands behind what is written for the first character, or in it
    rcases cut_append h with ⟨more, rfl, hmore⟩ | ⟨right, hy, rfl⟩
    · obtain ⟨front, x, rest, left, right, rfl, hx, rfl, rfl⟩ := ih hmore
      refine ⟨y :: front, x, rest, left, right, rfl, hx, ?_, rfl⟩
      rw [escape_cons, List.append_assoc]
    · exact ⟨[], y, text, before, right, rfl, hy, rfl, rfl⟩

/-- Where something stands that is spelled out, it stands in a spelling. -/
theorem mem_spellings_of_mem (hc : c ∈ spelledOut) (h : c ∈ escapeChar a) :
    (a, escapeChar a) ∈ spellings := by
  rcases escapeChar_cases a with hspelled | ⟨hnot, hown⟩
  · exact hspelled
  · rw [hown, List.mem_singleton] at h
    exact absurd (h ▸ hc) hnot

/-- Every backslash of an escaped text begins a spelling. -/
theorem backslash_begins (h : escape text = before ++ '\\' :: after) :
    ∃ front c spelling rest, (c, spelling) ∈ spellings ∧ text = front ++ c :: rest ∧
      before = escape front ∧ '\\' :: after = spelling ++ escape rest := by
  obtain ⟨front, x, rest, left, right, htext, hx, hbefore, hafter⟩ := exists_cut h
  have hspelled : (x, escapeChar x) ∈ spellings :=
    mem_spellings_of_mem (by decide) (hx ▸ List.mem_append_right left List.mem_cons_self)
  obtain ⟨tail, htail, hnot⟩ := exists_tail hspelled
  rcases List.append_eq_cons_iff.mp (hx.symm.trans htail) with ⟨rfl, -⟩ | ⟨more, -, rfl⟩
  · refine ⟨front, x, escapeChar x, rest, hspelled, htext, ?_, ?_⟩
    · rw [hbefore, List.append_nil]
    · rw [hx, hafter]
      rfl
  · -- it is not the first character of the spelling, which has no other backslash
    exact absurd (List.mem_append_right more List.mem_cons_self) hnot

/-- The special characters of LaTeX text besides the backslash and the braces. -/
def specials : Chars := "&%$#_~^"

theorem mem_spelledOut_of_special (hc : c ∈ specials) : c ∈ spelledOut := by
  have hsublist : specials.Sublist spelledOut := by decide
  exact hsublist.subset hc

/-- A spelling is a backslash and its character, or a word without special characters. -/
theorem spelling_shape : ∀ e ∈ spellings,
    e.2 = ['\\', e.1] ∨ e.2.all (!specials.contains ·) = true := by decide

/-- A special character stands in an escaped text only behind the backslash of its own spelling. -/
theorem special_behind (hc : c ∈ specials) (h : escape text = before ++ c :: after) :
    ∃ front rest, (c, ['\\', c]) ∈ spellings ∧ text = front ++ c :: rest ∧
      before = escape front ++ ['\\'] ∧ after = escape rest := by
  have hne : c ≠ '\\' := by
    rintro rfl
    exact absurd hc (by decide)
  obtain ⟨front, x, rest, left, right, rfl, hx, rfl, rfl⟩ := exists_cut h
  have hmem : c ∈ escapeChar x := hx ▸ List.mem_append_right left List.mem_cons_self
  have hentry := mem_spellings_of_mem (mem_spelledOut_of_special hc) hmem
  rcases spelling_shape _ hentry with hpair | hword
  · have hpair' : escapeChar x = ['\\', x] := hpair
    rw [hpair'] at hentry
    -- of the two characters of the spelling it is the second
    rcases List.append_eq_cons_iff.mp (hx.symm.trans hpair') with ⟨-, hfirst⟩ | ⟨more, rfl, hmore⟩
    · exact absurd (List.cons.inj hfirst).1 hne
    · obtain ⟨rfl, hright⟩ | ⟨-, hnil⟩ := List.append_eq_singleton_iff.mp hmore.symm
      · obtain ⟨rfl, rfl⟩ := List.cons.inj hright
        exact ⟨front, rest, hentry, rfl, rfl, rfl⟩
      · exact absurd hnil (List.cons_ne_nil _ right)
  · have hnot := List.all_eq_true.mp hword c hmem
    rw [Bool.not_eq_true', List.contains_eq_mem, decide_eq_false_iff_not] at hnot
    exact absurd hc hnot

/-! ## Braces -/

/-- Braces that close each other. -/
inductive IsNested : Chars → Prop where
  | nil : IsNested []
  | group {inner rest : Chars} (hinner : IsNested inner) (hrest : IsNested rest) :
      IsNested ('\x7b' :: (inner ++ '\x7d' :: rest))

/-- The braces of a text that do not stand directly behind a backslash, where `previous` stands in
    front of the text. -/
def bareBraces (previous : Char) : Chars → Chars
  | [] => []
  | c :: rest =>
    if (c = '\x7b' || c = '\x7d') && previous ≠ '\\' then c :: bareBraces c rest
    else bareBraces c rest

theorem bareBraces_append (previous : Char) (front rest : Chars) :
    bareBraces previous (front ++ rest) =
      bareBraces previous front ++ bareBraces (front.getLastD previous) rest := by
  induction front generalizing previous with
  | nil => rfl
  | cons c front ih =>
    rw [List.cons_append, bareBraces, bareBraces, ih, List.getLastD_cons]
    split <;> rfl

/-- The braces of a spelling are a pair, or escaped. -/
theorem bareBraces_spelling : ∀ e ∈ spellings,
    bareBraces '\\' e.2.tail = [] ∨ bareBraces '\\' e.2.tail = "\x7b\x7d" := by decide

/-- What is written for a character adds a pair of braces or none, whatever comes behind it. -/
theorem bareBraces_escapeChar (previous c : Char) (rest : Chars) :
    ∃ last, bareBraces previous (escapeChar c ++ rest) = bareBraces last rest ∨
      bareBraces previous (escapeChar c ++ rest) = '\x7b' :: '\x7d' :: bareBraces last rest := by
  rcases escapeChar_cases c with hspelled | ⟨hnot, hown⟩
  · obtain ⟨tail, htail, -⟩ := exists_tail hspelled
    have hbraces : bareBraces '\\' tail = [] ∨ bareBraces '\\' tail = "\x7b\x7d" := by
      have hspelling := bareBraces_spelling _ hspelled
      rwa [show (c, escapeChar c).2.tail = tail from congrArg List.tail htail] at hspelling
    -- the backslash is no brace, and what stands behind it is read behind a backslash
    have hsplit : bareBraces previous (escapeChar c ++ rest) =
        bareBraces '\\' tail ++ bareBraces (tail.getLastD '\\') rest := by
      rw [htail, List.cons_append, ← bareBraces_append]
      rfl
    refine ⟨tail.getLastD '\\', ?_⟩
    rw [hsplit]
    exact hbraces.imp (fun h => by rw [h]; rfl) (fun h => by rw [h]; rfl)
  · have hbrace : ¬ ((c = '\x7b' || c = '\x7d') && previous ≠ '\\') = true := by
      -- braces are spelled out
      intro h
      rw [Bool.and_eq_true, Bool.or_eq_true, decide_eq_true_iff, decide_eq_true_iff] at h
      rcases h.1 with rfl | rfl
      · exact hnot (by decide)
      · exact hnot (by decide)
    refine ⟨c, .inl ?_⟩
    rw [hown, List.singleton_append, bareBraces, if_neg hbrace]

/-- The braces of an escaped text close each other, but for those that are escaped themselves. -/
theorem isNested_bareBraces (previous : Char) (text : Chars) :
    IsNested (bareBraces previous (escape text)) := by
  -- for any previous character, as each character leaves another one in front of the rest
  induction text generalizing previous with
  | nil => exact .nil
  | cons c text ih =>
    rw [escape_cons]
    obtain ⟨last, heq | heq⟩ := bareBraces_escapeChar previous c (escape text)
    · rw [heq]
      exact ih last
    · rw [heq]
      exact .group .nil (ih last)

/-! ## Main statement -/

/-- The escaped form of the text can be put into any argument: what has a meaning of its own stands
    in it only as a part of a spelling. -/
structure IsInert (text : Chars) : Prop where
  /-- Every backslash begins the spelling of the character of the text that stands there. -/
  backslash : ∀ before after, escape text = before ++ '\\' :: after →
    ∃ front c spelling rest, (c, spelling) ∈ spellings ∧ text = front ++ c :: rest ∧
      before = escape front ∧ '\\' :: after = spelling ++ escape rest
  /-- A special character stands only directly behind the backslash of its own spelling, and nowhere
      at all if it is spelled by a word. -/
  special : ∀ c ∈ specials, ∀ before after, escape text = before ++ c :: after →
    ∃ front rest, (c, ['\\', c]) ∈ spellings ∧ text = front ++ c :: rest ∧
      before = escape front ++ ['\\'] ∧ after = escape rest
  /-- The braces that do not stand directly behind a backslash close each other. -/
  braces : ∀ previous, IsNested (bareBraces previous (escape text))
  /-- As an argument it neither closes the group around it nor hides anything behind it, wherever
      characters are read. -/
  argument : ∀ p : Place, p.Reads → Leads p (group (escape text)) p

/-- Different texts have different escaped forms, texts are escaped piece by piece, and what comes
    out is inert. -/
theorem escape_isInert (s t : Chars) :
    (escape s = escape t ↔ s = t) ∧ escape (s ++ t) = escape s ++ escape t ∧ IsInert s := by
  have hinert : IsInert s := by
    constructor
    case backslash => exact fun before after h => backslash_begins h
    case special => exact fun c hc before after h => special_behind hc h
    case braces => exact fun previous => isNested_bareBraces previous s
    case argument => exact fun p hp => leads_group hp (leads_escape hp.inner s)
  exact ⟨⟨escape_injective, congrArg escape⟩, escape_append s t, hinert⟩

/-- A text that looks like an escaped one is escaped once more. -/
example : escape "\\_ ~" = "\\textbackslash\x7b\x7d\\_ \\textasciitilde\x7b\x7d".toList := by decide

end ScriptReport.Report.Latex

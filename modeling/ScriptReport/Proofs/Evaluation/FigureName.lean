/-
  ScriptReport.Proofs.Evaluation.FigureName

  The path that a figure is printed to, and the path where it is looked for. The script of a call
  holds the first as a pattern in a literal, which the interpreter reads and fills with the number
  of the figure; the second is put together directly. Main statement:
  `printedPath_eq_figurePath_iff`: they are the same path if neither the prefix of figures nor
  their extension has a percent sign, and otherwise never.

  The directory may have quotes and percent signs: a quote is written twice in the literal, and a
  percent sign of the directory twice in the pattern. Percent signs of the prefix and of the
  extension are written once, so that one of them either starts no directive, or is lost with it.
-/

import ScriptReport.Evaluation.Interpreter
import ScriptReport.Proofs.Files.PathText

namespace ScriptReport.Evaluation.Interpreter

/-! ## Reading a script as the interpreter does -/

/-- Reads a literal behind its opening quote, up to its closing one: the text it stands for, and
    what comes behind it. Two quotes stand for one. -/
def readQuoted? : Chars → Option (Chars × Chars)
  | [] => none
  | '\'' :: '\'' :: rest => (readQuoted? rest).map fun (text, behind) => ('\'' :: text, behind)
  | '\'' :: rest => some ([], rest)
  | c :: rest => (readQuoted? rest).map fun (text, behind) => (c :: text, behind)

/-- Reads a literal. -/
def readLiteral? : Chars → Option (Chars × Chars)
  | '\'' :: rest => readQuoted? rest
  | _ => none

/-- What becomes of a pattern with a number: `%%` is a percent sign, and `%02d` the number in two
    digits at least. There is no other directive. -/
def formatted? (number : Nat) : Chars → Option Chars
  | [] => some []
  | '%' :: '%' :: rest => (formatted? number rest).map ('%' :: ·)
  | '%' :: '0' :: '2' :: 'd' :: rest => (formatted? number rest).map (Text.padded 2 number ++ ·)
  | '%' :: _ => none
  | c :: rest => (formatted? number rest).map (c :: ·)

/-- The script in front of the pattern that figures are printed to. -/
def scriptFront (code : Chars) (context : Path) : Chars :=
  Text.unlines
    ["if (exist (" ++ literal context.text ++ ", 'file') == 2)",
     "  load (" ++ literal context.text ++ ");", "endif", code,
     "__publish_figs__ = sort (findall (0, 'type', 'figure'));",
     "for __publish_i__ = 1:numel (__publish_figs__)", []] ++
    "  print (__publish_figs__(__publish_i__), sprintf ("

/-- The pattern that a script fills with the number of each figure, for the path to print it to. -/
def printPattern? (code : Chars) (context : Path) (script : Chars) : Option Chars := do
  let rest ← Text.afterOpening? (scriptFront code context) script
  let (pattern, rest) ← readLiteral? rest
  let _ ← Text.afterOpening? ", __publish_i__), " rest
  return pattern

/-- The path that a script prints a figure to. -/
def printedPath? (code : Chars) (context : Path) (number : Nat) (script : Chars) : Option Path :=
  ((printPattern? code context script).bind (formatted? number)).map Path.ofText

/-! ## Doubled characters -/

/-- The text with each `c` written twice. -/
def doubled (c : Char) : Chars → Chars
  | [] => []
  | x :: rest => if x = c then c :: c :: doubled c rest else x :: doubled c rest

theorem replace_eq_doubled (c : Char) (text : Chars) :
    Text.replace [c] [c, c] text = doubled c text := by
  induction text with
  | nil => rfl
  | cons x rest ih =>
    rw [Text.replace] at ih
    rw [Text.replace, Text.splitOn_singleton_cons, doubled]
    split
    · rw [Text.join_cons (Text.splitOn_ne_nil _ _), ih]
      rfl
    · rw [Text.join_consFirst, ih]

theorem readQuoted?_of_ne {c : Char} (hc : c ≠ '\'') (rest : Chars) :
    readQuoted? (c :: rest) =
      (readQuoted? rest).map fun (text, behind) => (c :: text, behind) := by
  rw [readQuoted?]
  · intro _ h
    exact absurd h hc
  · exact hc

theorem readQuoted?_doubled {behind : Chars} (hbehind : behind.head? ≠ some '\'')
    (text : Chars) :
    readQuoted? (doubled '\'' text ++ '\'' :: behind) = some (text, behind) := by
  induction text with
  | nil =>
    cases behind with
    | nil => rfl
    | cons c behind =>
      have hc : c ≠ '\'' := by simpa using hbehind
      rw [doubled, List.nil_append, readQuoted?]
      intro rest h
      exact hc (List.cons.inj h).1
  | cons c text ih =>
    rw [doubled]
    split
    · next hc => rw [List.cons_append, List.cons_append, hc, readQuoted?, ih]; rfl
    · next hc => rw [List.cons_append, readQuoted?_of_ne hc, ih]; rfl

/-- A literal is read as the text it is made from, unless another quote comes behind it. -/
theorem readLiteral?_literal {behind : Chars} (hbehind : behind.head? ≠ some '\'') (text : Chars) :
    readLiteral? (literal text ++ behind) = some (text, behind) := by
  have hliteral : literal text ++ behind = '\'' :: (doubled '\'' text ++ '\'' :: behind) := by
    rw [literal, show ("'" : Chars) = ['\''] from rfl, show ("''" : Chars) = ['\'', '\''] from rfl,
      replace_eq_doubled]
    simp
  rw [hliteral]
  exact readQuoted?_doubled hbehind text

/-- What is read from the script of a call is the pattern of its figures. -/
theorem printPattern?_script {i : Interpreter} {directory : Path}
    (hdirectory : i.figureDir = some directory) (counter : Nat) (code : Chars) (context : Path) :
    printPattern? code context (i.script counter code context) =
      some (i.figurePattern counter directory) := by
  obtain ⟨behind, hscript⟩ : ∃ behind, i.script counter code context = scriptFront code context ++
      (literal (i.figurePattern counter directory) ++ (", __publish_i__), " ++ behind)) := by
    refine ⟨literal ("-d" ++ i.imageFormat) ++ ");" ++ "\n" ++
      Text.unlines ["endfor", "close all;", "clear __publish_figs__ __publish_i__;",
        "save (" ++ literal context.text ++ ");"] ++ "\n", ?_⟩
    simp only [script, hdirectory, printLines, scriptFront, Text.unlines, Text.join,
      List.cons_append, List.nil_append, List.append_assoc]
  have hread : readLiteral? (literal (i.figurePattern counter directory) ++
      (", __publish_i__), " ++ behind)) =
        some (i.figurePattern counter directory, ", __publish_i__), " ++ behind) :=
    readLiteral?_literal (by simp) (i.figurePattern counter directory)
  rw [hscript, printPattern?, Text.afterOpening?_append, Option.bind_eq_bind, Option.bind_some,
    hread]
  simp only [Option.bind_eq_bind, Option.bind_some, Text.afterOpening?_append]
  rfl

/-! ## Numbers in names -/

theorem isDigit_of_mem_padded {width n : Nat} {c : Char} (h : c ∈ Text.padded width n) :
    c.isDigit = true := by
  rcases List.mem_append.mp h with hzero | hdigit
  · rw [List.eq_of_mem_replicate hzero]
    rfl
  · exact Nat.isDigit_of_mem_toDigits (by decide) (by decide) hdigit

theorem not_mem_padded {c : Char} (hc : c.isDigit = false) (width n : Nat) :
    c ∉ Text.padded width n := by
  intro hmem
  have hdigit : c.isDigit = true := isDigit_of_mem_padded hmem
  rw [hc] at hdigit
  cases hdigit

theorem padded_ne_nil (width n : Nat) : Text.padded width n ≠ [] :=
  List.append_ne_nil_of_right_ne_nil _ Nat.toDigits_ne_nil

/-! ## Filling a pattern -/

section Filling

variable {number : Nat} {front rest text out : Chars}

theorem formatted?_of_ne {c : Char} (hc : c ≠ '%') (rest : Chars) :
    formatted? number (c :: rest) = (formatted? number rest).map (c :: ·) := by
  rw [formatted?]
  · intro _ h
    exact absurd h hc
  · intro _ h
    exact absurd h hc
  · exact hc

/-- Without percent signs a text stands for itself. -/
theorem formatted?_append_of_not_mem (h : '%' ∉ front) :
    formatted? number (front ++ rest) = (formatted? number rest).map (front ++ ·) := by
  induction front with
  | nil => cases h : formatted? number rest <;> simp [h]
  | cons c front ih =>
    rw [List.mem_cons, not_or] at h
    rw [List.cons_append, formatted?_of_ne (Ne.symm h.1), ih h.2, Option.map_map]
    rfl

theorem formatted?_of_not_mem (h : '%' ∉ text) : formatted? number text = some text := by
  have happend : formatted? number (text ++ []) = (formatted? number []).map (text ++ ·) :=
    formatted?_append_of_not_mem h
  rwa [List.append_nil, formatted?, Option.map_some, List.append_nil] at happend

/-- A text with its percent signs doubled stands for itself. -/
theorem formatted?_doubled_append (text rest : Chars) :
    formatted? number (doubled '%' text ++ rest) = (formatted? number rest).map (text ++ ·) := by
  induction text with
  | nil => cases h : formatted? number rest <;> simp [h, doubled]
  | cons c text ih =>
    rw [doubled]
    split
    · next hc =>
      rw [List.cons_append, List.cons_append, formatted?, ih, Option.map_map, hc]
      rfl
    · next hc =>
      rw [List.cons_append, formatted?_of_ne hc, ih, Option.map_map]
      rfl

/-- A percent sign in front of what completes no directive has no meaning. -/
theorem formatted?_percent (hpercent : ¬ ['%'] <+: rest) (hnumber : ¬ ['0', '2', 'd'] <+: rest) :
    formatted? number ('%' :: rest) = none := by
  rw [formatted?]
  · rintro rest' rfl
    exact hpercent ⟨rest', rfl⟩
  · rintro rest' rfl
    exact hnumber ⟨rest', rfl⟩

/-- Where a pattern goes on with an underscore no directive reaches across. -/
theorem formatted?_append_underscore :
    formatted? number (front ++ '_' :: rest) =
      (formatted? number front).bind fun a =>
        (formatted? number rest).map fun b => a ++ '_' :: b := by
  have hborder {pattern tail : Chars} (h_ : '_' ∉ pattern)
      (h : pattern <+: tail ++ '_' :: rest) : pattern <+: tail := by
    rcases List.prefix_or_prefix_of_prefix h (List.prefix_append tail _) with hle | ⟨more, rfl⟩
    · exact hle
    · cases more with
      | nil => exact ⟨[], by simp⟩
      | cons c more =>
        have hmore : c :: more <+: '_' :: rest := (List.prefix_append_right_inj tail).mp h
        obtain ⟨rfl, -⟩ := List.cons_prefix_cons.mp hmore
        exact absurd (List.mem_append_right tail List.mem_cons_self) h_
  fun_induction formatted? number front with
  | case1 =>
    rw [List.nil_append, formatted?_of_ne (by decide)]
    rfl
  | case2 tail ih =>
    rw [List.cons_append, List.cons_append, formatted?, ih]
    cases formatted? number tail <;> simp [Function.comp_def]
  | case3 tail ih =>
    rw [List.cons_append, List.cons_append, List.cons_append, List.cons_append, formatted?, ih]
    cases formatted? number tail <;> simp [Function.comp_def]
  | case4 tail hpercent hnumber =>
    rw [List.cons_append, formatted?_percent]
    · rfl
    · intro h
      obtain ⟨more, hmore⟩ := hborder (by decide) h
      exact hpercent more hmore.symm
    · intro h
      obtain ⟨more, hmore⟩ := hborder (by decide) h
      exact hnumber more hmore.symm
  | case5 c tail hpercent hnumber hc ih =>
    rw [List.cons_append, formatted?_of_ne hc, ih]
    cases formatted? number tail <;> simp [Function.comp_def]

/-- Filling a pattern loses a percent sign with each directive. -/
theorem count_of_formatted? (h : formatted? number text = some out) :
    out.count '%' + (if '%' ∈ text then 1 else 0) ≤ text.count '%' := by
  have hdigits : (Text.padded 2 number).count '%' = 0 :=
    List.count_eq_zero.mpr (not_mem_padded (by decide) 2 number)
  fun_induction formatted? number text generalizing out with
  | case1 => cases h; simp
  | case2 tail ih =>
    obtain ⟨out', hout, rfl⟩ := Option.map_eq_some_iff.mp h
    have := ih hout
    simp only [List.count_cons_self, List.mem_cons_self, if_pos]
    omega
  | case3 tail ih =>
    obtain ⟨out', hout, rfl⟩ := Option.map_eq_some_iff.mp h
    have := ih hout
    simp [hdigits]
    omega
  | case4 => cases h
  | case5 c tail hpercent hnumber hc ih =>
    obtain ⟨out', hout, rfl⟩ := Option.map_eq_some_iff.mp h
    have := ih hout
    simpa [List.count_cons_of_ne hc, hc, Ne.symm hc] using this

theorem head?_of_formatted? (h : formatted? number text = some out) :
    out.head? = some '/' ↔ text.head? = some '/' := by
  fun_cases formatted? number text with
  | case1 => cases h; rfl
  | case2 tail =>
    rw [formatted?] at h
    obtain ⟨out', -, rfl⟩ := Option.map_eq_some_iff.mp h
    simp
  | case3 tail =>
    rw [formatted?] at h
    obtain ⟨out', -, rfl⟩ := Option.map_eq_some_iff.mp h
    -- the number starts with a digit
    have hslash : (Text.padded 2 number ++ out').head? ≠ some '/' := by
      obtain ⟨c, digits, hdigits⟩ := List.exists_cons_of_ne_nil (padded_ne_nil 2 number)
      have hc : c.isDigit = true := isDigit_of_mem_padded (hdigits ▸ List.mem_cons_self)
      rw [hdigits, List.cons_append, List.head?_cons, ne_eq, Option.some.injEq]
      rintro rfl
      cases hc
    simpa using hslash
  | case4 tail hpercent hnumber =>
    rw [formatted?] at h
    · cases h
    · exact hpercent
    · exact hnumber
  | case5 c tail hpercent hnumber hc =>
    rw [formatted?_of_ne hc] at h
    obtain ⟨out', -, rfl⟩ := Option.map_eq_some_iff.mp h
    simp

end Filling

/-! ## The pattern of figures -/

theorem getLast?_doubled (c : Char) (text : Chars) : (doubled c text).getLast? = text.getLast? := by
  induction text with
  | nil => rfl
  | cons x text ih =>
    rw [doubled]
    split
    · next hx => simp [List.getLast?_cons, ih, hx]
    · simp [List.getLast?_cons, ih]

theorem doubled_eq_nil_iff {c : Char} {text : Chars} : doubled c text = [] ↔ text = [] := by
  rw [← List.getLast?_eq_none_iff, getLast?_doubled, List.getLast?_eq_none_iff]

theorem formatted?_joinText {number : Nat} {name out : Chars}
    (h : formatted? number name = some out) (directory : Chars) :
    formatted? number (joinText (doubled '%' directory) name) = some (joinText directory out) := by
  rw [joinText, joinText, getLast?_doubled]
  simp only [doubled_eq_nil_iff, head?_of_formatted? h]
  split
  · exact h
  · split
    · rw [formatted?_doubled_append, h]
      rfl
    · rw [formatted?_doubled_append, formatted?_of_ne (by decide), h]
      rfl

theorem formatted?_joinText_eq_none {number : Nat} {name : Chars}
    (h : formatted? number name = none) (directory : Chars) :
    formatted? number (joinText (doubled '%' directory) name) = none := by
  rw [joinText]
  split
  · exact h
  · split
    · rw [formatted?_doubled_append, h]
      rfl
    · rw [formatted?_doubled_append, formatted?_of_ne (by decide), h]
      rfl

/-- A name in a directory as text denotes the path of that name from the directory. -/
theorem ofText_joinText {directory : Path} (h : directory.IsNormal) (name : Chars) :
    Path.ofText (joinText directory.text name) = directory.child name := by
  have hself : Path.ofText directory.text = directory := Path.ofText_text h
  have hroot : Path.rootOf directory.text = directory.root := congrArg Path.root hself
  have hparts : Path.partsOf directory.text = directory.parts := congrArg Path.parts hself
  rw [joinText, Path.child, Path.append, Path.isAbsolute_ofText]
  by_cases hname : name.head? = some '/'
  · rw [if_pos hname, if_pos (decide_eq_true hname)]
  · have habsolute : ¬ decide (name.head? = some '/') = true := by simpa using hname
    rw [if_neg hname, if_neg habsolute]
    -- the parts of the name come behind those of the directory, and the root is the directory's
    have hsplit {joined : Chars} (hr : Path.rootOf joined = Path.rootOf directory.text)
        (hp : Path.partsOf joined = Path.partsOf directory.text ++ Path.partsOf name) :
        Path.ofText joined =
          { directory with parts := directory.parts ++ (Path.ofText name).parts } := by
      rw [Path.ofText, hr, hp, hroot, hparts]
      rfl
    by_cases hnil : directory.text = []
    · rw [if_pos (by simp [hnil])]
      apply hsplit
      · exact Path.rootOf_append (.inl hname)
      · rw [hnil, List.nil_append, Path.partsOf_nil, List.nil_append]
    · by_cases hlast : directory.text.getLast? = some '/'
      · rw [if_pos (by simp [hlast])]
        obtain ⟨front, hfront⟩ := List.getLast?_eq_some_iff.mp hlast
        apply hsplit
        · exact Path.rootOf_append (.inl hname)
        · rw [hfront, List.append_assoc, List.singleton_append, Path.partsOf_append,
            Path.partsOf_append, Path.partsOf_nil, List.append_nil]
      · rw [if_neg (by simp [hnil, hlast])]
        apply hsplit
        · refine Path.rootOf_append (.inr ⟨directory.text.getLast hnil, List.getLast_mem hnil, ?_⟩)
          intro heq
          exact hlast (by rw [List.getLast?_eq_some_getLast hnil, heq])
        · exact Path.partsOf_append directory.text name

/-- The pattern of a figure's name, filled with its number. -/
theorem formatted?_figureName (i : Interpreter) (counter number : Nat) :
    formatted? number (i.figureName counter "%02d") =
      (formatted? number i.figurePrefix).bind fun front =>
        (formatted? number (extension i.imageFormat)).map fun back =>
          front ++ "_" ++ Text.padded 2 counter ++ "_" ++ Text.padded 2 number ++ "." ++ back := by
  have hcounter : '%' ∉ Text.padded 2 counter ++ "_" := by
    rw [List.mem_append, not_or]
    exact ⟨not_mem_padded (by decide) 2 counter, by decide⟩
  have hname : i.figureName counter "%02d" = i.figurePrefix ++ '_' ::
      ((Text.padded 2 counter ++ "_") ++ ('%' :: '0' :: '2' :: 'd' :: '.' ::
        extension i.imageFormat)) := by
    simp [figureName]
  rw [hname, formatted?_append_underscore, formatted?_append_of_not_mem hcounter, formatted?,
    formatted?_of_ne (by decide)]
  cases formatted? number i.figurePrefix <;>
    cases formatted? number (extension i.imageFormat) <;> simp

/-- How many percent signs a path has. -/
def percents (p : Path) : Nat := p.parts.flatten.count '%'

theorem percents_child (p : Path) (name : Chars) :
    percents (p.child name) =
      (if name.head? = some '/' then 0 else percents p) + name.count '%' := by
  have hname : (Path.partsOf name).flatten.count '%' = name.count '%' :=
    Path.count_flatten_partsOf (by decide) (by decide) name
  rw [percents, Path.child, Path.append, Path.isAbsolute_ofText]
  by_cases h : name.head? = some '/'
  · rw [if_pos (decide_eq_true h), if_pos h, Nat.zero_add]
    exact hname
  · rw [if_neg (by simpa using h), if_neg h, List.flatten_append, List.count_append, percents]
    exact congrArg _ hname

theorem head?_figureName (i : Interpreter) (counter : Nat) (index : Chars) :
    (i.figureName counter index).head? = (i.figurePrefix ++ "_").head? := by
  cases h : i.figurePrefix <;> simp [figureName, h]

/-- Around the prefix and the extension a name has no percent signs. -/
theorem count_percent_name (front : Chars) (counter number : Nat) (back : Chars) :
    (front ++ "_" ++ Text.padded 2 counter ++ "_" ++ Text.padded 2 number ++ "." ++ back).count '%' =
      front.count '%' + back.count '%' := by
  have hpadded (n : Nat) : (Text.padded 2 n).count '%' = 0 :=
    List.count_eq_zero.mpr (not_mem_padded (by decide) 2 n)
  have hline : ("_" : Chars).count '%' = 0 := rfl
  have hpoint : ("." : Chars).count '%' = 0 := rfl
  simp only [List.count_append, hpadded, hline, hpoint]
  omega

/-- A filled pattern with all percent signs of the name comes from one without directives beside
    that for the number. -/
theorem not_mem_of_formatted?_figureName {i : Interpreter} {counter number : Nat} {out : Chars}
    (hout : formatted? number (i.figureName counter "%02d") = some out)
    (hcount : out.count '%' = (i.figureName counter (Text.padded 2 number)).count '%') :
    '%' ∉ i.figurePrefix ∧ '%' ∉ extension i.imageFormat := by
  rw [formatted?_figureName] at hout
  obtain ⟨front, hfront, hmap⟩ := Option.bind_eq_some_iff.mp hout
  obtain ⟨back, hback, rfl⟩ := Option.map_eq_some_iff.mp hmap
  have hlostFront := count_of_formatted? hfront
  have hlostBack := count_of_formatted? hback
  rw [figureName, count_percent_name, count_percent_name] at hcount
  constructor
  · intro hmem
    rw [if_pos hmem] at hlostFront
    omega
  · intro hmem
    rw [if_pos hmem] at hlostBack
    omega

/-! ## Main statement -/

/-- The path that the script of a call prints a figure to, and the path where that figure is looked
    for, are the same exactly if neither the prefix nor the extension has a percent sign. -/
theorem printedPath_eq_figurePath_iff {i : Interpreter} {directory : Chars}
    (hdirectory : i.figureDir = some (Path.ofText directory)) (cwd : Place)
    (counter number : Nat) (code : Chars) (context : Path) :
    printedPath? code context number (i.script counter code context) =
        some (i.figurePath cwd counter number) ↔
      '%' ∉ i.figurePrefix ∧ '%' ∉ extension i.imageFormat := by
  have hnormal : (Path.ofText directory).IsNormal := Path.isNormal_ofText directory
  have hfigure : i.figurePath cwd counter number =
      (Path.ofText directory).child (i.figureName counter (Text.padded 2 number)) := by
    rw [figurePath, Interpreter.directory, hdirectory, Option.getD_some]
  have hpattern : i.figurePattern counter (Path.ofText directory) =
      joinText (doubled '%' (Path.ofText directory).text) (i.figureName counter "%02d") := by
    rw [figurePattern, show ("%" : Chars) = ['%'] from rfl, show ("%%" : Chars) = ['%', '%'] from rfl,
      replace_eq_doubled]
  rw [printedPath?, printPattern?_script hdirectory, hpattern, Option.bind_some, hfigure]
  constructor
  · intro heq
    obtain ⟨printed, hprinted, hsame⟩ := Option.map_eq_some_iff.mp heq
    cases hname : formatted? number (i.figureName counter "%02d") with
    | none =>
      rw [formatted?_joinText_eq_none hname] at hprinted
      cases hprinted
    | some out =>
      rw [formatted?_joinText hname] at hprinted
      cases hprinted
      rw [ofText_joinText hnormal] at hsame
      have hhead : out.head? = some '/' ↔
          (i.figureName counter (Text.padded 2 number)).head? = some '/' := by
        rw [head?_of_formatted? hname, head?_figureName, head?_figureName]
      have hpercents := congrArg percents hsame
      rw [percents_child, percents_child] at hpercents
      simp only [hhead, Nat.add_left_cancel_iff] at hpercents
      exact not_mem_of_formatted?_figureName hname hpercents
  · rintro ⟨hfront, hextension⟩
    have hname : formatted? number (i.figureName counter "%02d") =
        some (i.figureName counter (Text.padded 2 number)) := by
      rw [formatted?_figureName, formatted?_of_not_mem hfront, formatted?_of_not_mem hextension]
      rfl
    rw [formatted?_joinText hname, Option.map_some, ofText_joinText hnormal]

/-- Figures of a script in a directory with a quote and percent signs. -/
def quotedFigures : Interpreter where
  command := ["octave"]
  figureDir := some (Path.ofText "it's/100%d")
  figurePrefix := "bob's"
  imageFormat := "jpeg"

/-- The third figure of the second call is printed where it is looked for. -/
theorem printedPath_of_quotedFigures :
    printedPath? "plot (x)" (Path.ofText "c.mat") 3
        (quotedFigures.script 2 "plot (x)" (Path.ofText "c.mat")) =
      some (Path.ofText "it's/100%d/bob's_02_03.jpg") := by
  have hpath : quotedFigures.figurePath [] 2 3 = Path.ofText "it's/100%d/bob's_02_03.jpg" := by
    decide
  rw [← hpath]
  exact (printedPath_eq_figurePath_iff rfl [] 2 3 _ _).mpr (by decide)

/-- Figures of a script whose name has percent signs. -/
def percentFigures : Interpreter where
  command := ["octave"]
  figureDir := some (Path.ofText "figs")
  figurePrefix := "50%%"

/-- A figure of that script is printed under another name than the one it is looked for by. -/
theorem printedPath_ne_figurePath :
    printedPath? "plot (x)" (Path.ofText "c.mat") 1
        (percentFigures.script 1 "plot (x)" (Path.ofText "c.mat")) =
      some (Path.ofText "figs/50%_01_01.png") ∧
    percentFigures.figurePath [] 1 1 = Path.ofText "figs/50%%_01_01.png" ∧
    Path.ofText "figs/50%_01_01.png" ≠ Path.ofText "figs/50%%_01_01.png" := by
  refine ⟨?_, by decide, by decide⟩
  rw [printedPath?, printPattern?_script rfl]
  decide

end ScriptReport.Evaluation.Interpreter

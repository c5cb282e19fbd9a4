/-
  ScriptReport.Proofs.Evaluation.FigureList

  The figures of a number that stand on a disk. They are looked for by names that have the number of
  the call and count the figures up from one, until one of them is missing. Such a name has one part
  with both numbers (`label`), which different numbers make different. So each figure found has an
  entry of its own in the tree, and the search ends before its bound. Main statement:
  `figures_eq_ok_iff`.
-/

import ScriptReport.Proofs.Evaluation.FigureName
import ScriptReport.Proofs.Files.Entries
import ScriptReport.Proofs.Text.Occurrence
import Mathlib.Data.List.Nodup
import Mathlib.Data.List.Perm.Subperm
import Mathlib.Data.List.Range

namespace ScriptReport

namespace Evaluation.Interpreter

/-! ## Numbered parts -/

/-- The prefix of figures as parts and the beginning of a further one. -/
def folders (i : Interpreter) : List Chars × Chars :=
  match Text.cutAtLast? '/' i.figurePrefix with
  | some (front, stem) => (Path.partsOf front, stem)
  | none => ([], i.figurePrefix)

/-- The extension of figures as the end of a part and further parts. An image format with a slash
    makes such parts. -/
def ending (i : Interpreter) : Chars × List Chars :=
  match Text.cutAt? '/' (extension i.imageFormat) with
  | some (suffix, rest) => (suffix, Path.partsOf rest)
  | none => (extension i.imageFormat, [])

/-- The part of a figure's path that has its numbers. -/
def label (i : Interpreter) (counter index : Nat) : Chars :=
  i.folders.2 ++ "_" ++ Text.padded 2 counter ++ "_" ++ Text.padded 2 index ++ "." ++ i.ending.1

/-- The parts of a figure's path behind the numbered one. -/
def tail (i : Interpreter) : List Chars := i.ending.2

theorem folders_spec (i : Interpreter) : '/' ∉ i.folders.2 ∧
    ∀ rest, Path.partsOf (i.figurePrefix ++ rest) =
      i.folders.1 ++ Path.partsOf (i.folders.2 ++ rest) := by
  unfold folders
  cases hcut : Text.cutAtLast? '/' i.figurePrefix with
  | none => exact ⟨Text.cutAtLast?_eq_none_iff.mp hcut, fun rest => rfl⟩
  | some cut =>
    obtain ⟨heq, hnot⟩ := Text.eq_of_cutAtLast? hcut
    refine ⟨hnot, fun rest => ?_⟩
    rw [heq, List.append_assoc, List.cons_append, Path.partsOf_append]

theorem ending_spec (i : Interpreter) : '/' ∉ i.ending.1 ∧
    ∀ front, Path.partsOf (front ++ extension i.imageFormat) =
      Path.partsOf (front ++ i.ending.1) ++ i.ending.2 := by
  unfold ending
  cases hcut : Text.cutAt? '/' (extension i.imageFormat) with
  | none => exact ⟨Text.cutAt?_eq_none_iff.mp hcut, fun front => (List.append_nil _).symm⟩
  | some cut =>
    obtain ⟨heq, hnot⟩ := Text.eq_of_cutAt? hcut
    refine ⟨hnot, fun front => ?_⟩
    rw [heq, ← List.append_assoc, Path.partsOf_append]

theorem line_mem_label (i : Interpreter) (counter index : Nat) : '_' ∈ i.label counter index := by
  unfold label
  simp

theorem isPart_label (i : Interpreter) (counter index : Nat) :
    Path.IsPart (i.label counter index) := by
  have hline := i.line_mem_label counter index
  refine ⟨?_, ?_, ?_⟩
  · rintro hnil
    rw [hnil] at hline
    cases hline
  · rintro hpoint
    rw [hpoint] at hline
    exact absurd hline (by decide)
  · have hdigits (n : Nat) : '/' ∉ Text.padded 2 n := not_mem_padded (by decide) 2 n
    have hline : '/' ∉ ("_" : Chars) := by decide
    have hpoint : '/' ∉ ("." : Chars) := by decide
    unfold label
    simp only [List.mem_append, i.folders_spec.1, i.ending_spec.1, hdigits, hline, hpoint, or_self,
      not_false_eq_true]

theorem isName_label (i : Interpreter) (counter index : Nat) :
    FileTree.isName (i.label counter index) = true := by
  have hpart := i.isPart_label counter index
  rw [FileTree.isName_iff]
  refine ⟨?_, ?_⟩
  · simp [FileTree.stays, hpart.ne_nil, hpart.ne_point]
  · intro hup
    have hline := i.line_mem_label counter index
    rw [hup] at hline
    exact absurd hline (by decide)

theorem partsOf_figureName (i : Interpreter) (counter index : Nat) :
    Path.partsOf (i.figureName counter (Text.padded 2 index)) =
      i.folders.1 ++ i.label counter index :: i.tail := by
  have hname : i.figureName counter (Text.padded 2 index) =
      i.figurePrefix ++ ("_" ++ Text.padded 2 counter ++ "_" ++ Text.padded 2 index ++ "." ++
        extension i.imageFormat) := by
    simp only [figureName, List.append_assoc]
  have hlabel : i.folders.2 ++ ("_" ++ Text.padded 2 counter ++ "_" ++ Text.padded 2 index ++ ".") ++
      i.ending.1 = i.label counter index := by
    simp only [label, List.append_assoc]
  rw [hname, i.folders_spec.2, ← List.append_assoc, i.ending_spec.2, hlabel,
    Path.partsOf_of_isPart (i.isPart_label counter index)]
  rfl

theorem tail_eq_nil {i : Interpreter} (h : '/' ∉ extension i.imageFormat) : i.tail = [] := by
  rw [tail, ending, Text.cutAt?_eq_none_iff.mpr h]

/-- Without slashes in its prefix and extension a figure's name is its numbered part. -/
theorem label_eq_figureName {i : Interpreter} (hfront : '/' ∉ i.figurePrefix)
    (hextension : '/' ∉ extension i.imageFormat) (counter index : Nat) :
    i.label counter index = i.figureName counter (Text.padded 2 index) := by
  rw [label, folders, ending, Text.cutAtLast?_eq_none_iff.mpr hfront,
    Text.cutAt?_eq_none_iff.mpr hextension]
  rfl

/-- All figures have the numbered part in the same place of their paths. -/
theorem exists_figurePath_eq (i : Interpreter) (cwd : Place) :
    ∃ root front, ∀ counter index,
      i.figurePath cwd counter index = ⟨root, front ++ i.label counter index :: i.tail⟩ := by
  by_cases habsolute : (i.figurePrefix ++ "_").head? = some '/'
  · refine ⟨Path.rootOf (i.figurePrefix ++ "_"), i.folders.1, fun counter index => ?_⟩
    have hname : decide ((i.figureName counter (Text.padded 2 index)).head? = some '/') = true := by
      rw [head?_figureName]
      exact decide_eq_true habsolute
    have hroot : Path.rootOf (i.figureName counter (Text.padded 2 index)) =
        Path.rootOf (i.figurePrefix ++ "_") := by
      have hsplit : i.figureName counter (Text.padded 2 index) = (i.figurePrefix ++ "_") ++
          (Text.padded 2 counter ++ "_" ++ Text.padded 2 index ++ "." ++
            extension i.imageFormat) := by
        simp only [figureName, List.append_assoc]
      rw [hsplit]
      exact Path.rootOf_append (.inr ⟨'_', by simp, by decide⟩)
    rw [figurePath, Path.child, Path.append, Path.isAbsolute_ofText, if_pos hname, Path.ofText,
      partsOf_figureName, hroot]
  · refine ⟨(i.directory cwd).root, (i.directory cwd).parts ++ i.folders.1, fun counter index => ?_⟩
    have hname : ¬ decide ((i.figureName counter (Text.padded 2 index)).head? = some '/') = true := by
      rw [head?_figureName]
      simpa using habsolute
    rw [figurePath, Path.child, Path.append, Path.isAbsolute_ofText, if_neg hname, Path.ofText,
      partsOf_figureName, List.append_assoc]

/-! ## Different numbers -/

theorem padded_injective {width m n : Nat} (h : Text.padded width m = Text.padded width n) :
    m = n := by
  have hvalue (k : Nat) : Nat.ofDigitChars 10 (Text.padded width k) 0 = k := by
    unfold Text.padded
    rw [Nat.ofDigitChars_append, Nat.ofDigitChars_replicate_zero, Nat.mul_zero]
    exact Nat.ofDigitChars_ten_toDigits
  rw [← hvalue m, h, hvalue n]

/-- Digits that end at the same character are told by the whole text. -/
theorem padded_append_cancel {m n : Nat} {c : Char} {x y : Chars} (hc : c.isDigit = false)
    (h : Text.padded 2 m ++ c :: x = Text.padded 2 n ++ c :: y) : m = n ∧ x = y := by
  have hdigits (k : Nat) (rest : Chars) :
      (Text.padded 2 k ++ c :: rest).takeWhile Char.isDigit = Text.padded 2 k :=
    Text.takeWhile_append_of_head? (fun _ => isDigit_of_mem_padded) (by simpa using hc)
  have hpadded : Text.padded 2 m = Text.padded 2 n := by rw [← hdigits m x, h, hdigits]
  rw [hpadded] at h
  exact ⟨padded_injective hpadded, (List.cons.inj (List.append_cancel_left h)).2⟩

theorem label_injective {i : Interpreter} {counter counter' index index' : Nat}
    (h : i.label counter index = i.label counter' index') : counter = counter' ∧ index = index' := by
  have hcancel : Text.padded 2 counter ++ '_' :: (Text.padded 2 index ++ '.' :: i.ending.1) =
      Text.padded 2 counter' ++ '_' :: (Text.padded 2 index' ++ '.' :: i.ending.1) := by
    unfold label at h
    simpa using h
  obtain ⟨hcounter, hrest⟩ := padded_append_cancel (by decide) hcancel
  obtain ⟨hindex, -⟩ := padded_append_cancel (by decide) hrest
  exact ⟨hcounter, hindex⟩

/-- The name that a figure is listed by is the numbered part, unless further parts follow it. -/
theorem name_figurePath (i : Interpreter) (cwd : Place) (counter index : Nat) :
    (i.figurePath cwd counter index).name = i.tail.getLast?.getD (i.label counter index) := by
  obtain ⟨root, front, hpath⟩ := i.exists_figurePath_eq cwd
  rw [hpath, Path.name]
  cases htail : i.tail with
  | nil => simp
  | cons part rest => simp [List.getLast?_cons]

/-! ## Figures on a disk -/

/-- The figures of a number that stand on a disk, without a gap from the first one on. -/
structure AreFigures (i : Interpreter) (disk : Disk) (counter count : Nat) : Prop where
  exist : ∀ k < count, disk.hasEntry (i.figurePath disk.cwd counter (k + 1)) = .ok true
  missing : disk.hasEntry (i.figurePath disk.cwd counter (count + 1)) = .ok false

/-- The names of the first figures of a number. -/
def figureNames (i : Interpreter) (cwd : Place) (counter count : Nat) : List Chars :=
  (List.range count).map fun k => (i.figurePath cwd counter (k + 1)).name

theorem figureNames_eq (i : Interpreter) (cwd : Place) (counter count : Nat) :
    i.figureNames cwd counter count =
      (List.range count).map fun k => i.tail.getLast?.getD (i.label counter (k + 1)) := by
  unfold figureNames
  simp only [name_figurePath]

theorem figureNames_eq_nil_iff {i : Interpreter} {cwd : Place} {counter count : Nat} :
    i.figureNames cwd counter count = [] ↔ count = 0 := by
  rw [figureNames, List.map_eq_nil_iff, List.range_eq_nil]

/-- The figures of two numbers have no name in common, unless they are named by the parts behind
    the numbered ones. -/
theorem disjoint_figureNames_iff {i : Interpreter} {cwd cwd' : Place} {counter counter' m n : Nat}
    (hne : counter ≠ counter') :
    List.Disjoint (i.figureNames cwd counter m) (i.figureNames cwd' counter' n) ↔
      i.tail = [] ∨ m = 0 ∨ n = 0 := by
  rw [figureNames_eq, figureNames_eq]
  cases htail : i.tail.getLast? with
  | none =>
    have hnil : i.tail = [] := List.getLast?_eq_none_iff.mp htail
    refine ⟨fun _ => .inl hnil, fun _ name hm hn => ?_⟩
    obtain ⟨k, -, rfl⟩ := List.mem_map.mp hm
    obtain ⟨k', -, hlabel⟩ := List.mem_map.mp hn
    exact hne (label_injective hlabel).1.symm
  | some part =>
    have hnil : i.tail ≠ [] := by
      intro hnil
      rw [hnil] at htail
      cases htail
    constructor
    · intro hdisjoint
      by_contra hboth
      simp only [hnil, false_or, not_or] at hboth
      -- both lists have the last part
      have hmem {counter count : Nat} (hcount : count ≠ 0) :
          part ∈ (List.range count).map fun k => (some part).getD (i.label counter (k + 1)) :=
        List.mem_map.mpr ⟨0, List.mem_range.mpr (Nat.pos_of_ne_zero hcount), rfl⟩
      exact hdisjoint (hmem hboth.1) (hmem hboth.2)
    · rintro (h | rfl | rfl)
      · exact absurd h hnil
      · exact List.disjoint_nil_left _
      · exact List.disjoint_nil_right _

variable {i : Interpreter} {disk : Disk} {counter index count most : Nat} {names : List Chars}

/-- Figures that exist have entries with different names, so there are no more of them than
    entries. -/
theorem count_le_length
    (h : ∀ k < count, disk.hasEntry (i.figurePath disk.cwd counter (k + 1)) = .ok true) :
    count ≤ disk.tree.entries.length := by
  obtain ⟨root, front, hpath⟩ := i.exists_figurePath_eq disk.cwd
  have hnodup : ((List.range count).map fun k => i.label counter (k + 1)).Nodup := by
    refine List.Nodup.map ?_ List.nodup_range
    intro k k' hlabel
    have := (label_injective hlabel).2
    omega
  have hsubset : ((List.range count).map fun k => i.label counter (k + 1)) ⊆
      disk.tree.entries.filterMap fun entry => entry.1.getLast? := by
    intro part hpart
    obtain ⟨k, hk, rfl⟩ := List.mem_map.mp hpart
    have hexists := h k (List.mem_range.mp hk)
    obtain ⟨entry, hentry, hlast⟩ := Disk.hasName_of_hasEntry hexists
      (by rw [hpath]; simp) (i.isName_label counter (k + 1))
    exact List.mem_filterMap.mpr ⟨entry, hentry, hlast⟩
  have hle := (List.subperm_of_subset hnodup hsubset).length_le
  rw [List.length_map, List.length_range] at hle
  exact hle.trans (List.length_filterMap_le _ _)

theorem map_range_succ (f : Nat → Chars) (index count : Nat) :
    (List.range (count + 1)).map (fun k => f (index + k)) =
      f index :: (List.range count).map fun k => f (index + 1 + k) := by
  rw [List.range_succ_eq_map, List.map_cons, List.map_map, Nat.add_zero]
  refine congrArg (f index :: ·) (List.map_congr_left fun k _ => congrArg f ?_)
  omega

/-- The search from a number on: it stops at the first figure that is missing, or at its bound. -/
theorem figuresFrom_eq_ok_iff :
    i.figuresFrom disk counter index most = .ok names ↔
      ∃ count ≤ most,
        names = (List.range count).map (fun k => (i.figurePath disk.cwd counter (index + k)).name) ∧
        (∀ k < count, disk.hasEntry (i.figurePath disk.cwd counter (index + k)) = .ok true) ∧
        (count < most → disk.hasEntry (i.figurePath disk.cwd counter (index + count)) = .ok false) := by
  induction most generalizing index names with
  | zero =>
    rw [figuresFrom]
    constructor
    · intro h
      cases h
      exact ⟨0, Nat.le_refl 0, rfl, fun k hk => by omega, fun h => by omega⟩
    · rintro ⟨count, hle, rfl, -, -⟩
      obtain rfl : count = 0 := by omega
      rfl
  | succ most ih =>
    have hindex (k : Nat) : index + (k + 1) = index + 1 + k := by omega
    rw [figuresFrom]
    simp only [bind_eq_ok_iff]
    constructor
    · rintro ⟨found, hfound, h⟩
      cases found with
      | false =>
        obtain rfl : [] = names := pure_eq_ok_iff.mp h
        exact ⟨0, Nat.zero_le _, rfl, fun k hk => by omega, fun _ => hfound⟩
      | true =>
        obtain ⟨others, hothers, heq⟩ := bind_eq_ok_iff.mp h
        obtain ⟨count, hle, rfl, hexist, hmissing⟩ := ih.mp hothers
        refine ⟨count + 1, by omega, ?_, ?_, ?_⟩
        · rw [← pure_eq_ok_iff.mp heq]
          exact (map_range_succ (fun k => (i.figurePath disk.cwd counter k).name) index count).symm
        · intro k hk
          cases k with
          | zero => exact hfound
          | succ k => rw [hindex]; exact hexist k (by omega)
        · intro h
          rw [hindex]
          exact hmissing (by omega)
    · rintro ⟨count, hle, rfl, hexist, hmissing⟩
      cases count with
      | zero => exact ⟨false, hmissing (Nat.succ_pos most), rfl⟩
      | succ count =>
        refine ⟨true, hexist 0 (Nat.succ_pos count), bind_eq_ok_iff.mpr ⟨_, ih.mpr
          ⟨count, by omega, rfl, fun k hk => ?_, fun h => ?_⟩, pure_eq_ok_iff.mpr ?_⟩⟩
        · rw [← hindex]
          exact hexist (k + 1) (by omega)
        · rw [← hindex]
          exact hmissing (by omega)
        · exact (map_range_succ (fun k => (i.figurePath disk.cwd counter k).name) index count).symm

/-- What is listed is the names of the figures that stand there. -/
theorem figures_eq_ok_iff :
    i.figures disk counter = .ok names ↔
      ∃ count, AreFigures i disk counter count ∧ names = i.figureNames disk.cwd counter count := by
  rw [figures, figuresFrom_eq_ok_iff]
  simp only [Nat.add_comm 1]
  constructor
  · rintro ⟨count, hle, hnames, hexist, hmissing⟩
    -- with as many figures as the bound there would be more figures than entries
    have hcount := count_le_length hexist
    exact ⟨count, ⟨hexist, hmissing (by omega)⟩, hnames⟩
  · rintro ⟨count, hfigures, hnames⟩
    have hcount := count_le_length hfigures.exist
    exact ⟨count, by omega, hnames, hfigures.exist, fun _ => hfigures.missing⟩

end Evaluation.Interpreter

end ScriptReport

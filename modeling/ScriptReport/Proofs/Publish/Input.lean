/-
  ScriptReport.Proofs.Publish.Input

  What it means that a path from a user is accepted, that an included file is read or cannot be, and
  that a server has no text: one lemma for each operation and each way it ends, from which everything
  about it follows.
-/

import ScriptReport.Proofs.Success
import ScriptReport.Publish.Recover

namespace ScriptReport

theorem Path.below?_isNone_iff {base path : Path} :
    (base.below? path).isNone = true ↔ ¬ (path.root = base.root ∧ base.parts <+: path.parts) := by
  rw [below?, ← List.isPrefixOf_iff_prefix]
  split_ifs with h
  · simpa using h
  · simpa using h

namespace Publish

variable {disk : Disk} {name raw text : Chars} {script path root : Path} {lines : List Chars}
  {fault : Fault}

theorem onFiles_eq_ok_iff {α : Type} {x : Except FileFault α} {a : α} :
    onFiles x = .ok a ↔ x = .ok a := mapError_eq_ok_iff

theorem onFiles_eq_error_iff {α : Type} {x : Except FileFault α} :
    onFiles x = .error fault ↔ ∃ cause, x = .error cause ∧ fault = .file cause :=
  mapError_eq_error_iff

/-! ## Scripts -/

/-- A script is read if it is a file in UTF-8, and then by its lines. -/
theorem readScriptLines_eq_ok_iff :
    readScriptLines disk path = .ok lines ↔
      ∃ content text, disk.read path = .ok content ∧ Text.Utf8.decode content = .ok text ∧
        lines = Text.fileLines text := by
  simp only [readScriptLines, bind_eq_ok_iff, onFiles_eq_ok_iff]
  refine exists_congr fun content => ⟨fun ⟨hread, h⟩ => ?_, fun ⟨text, hread, hdecode, hlines⟩ => ?_⟩
  · split at h
    · next text hdecode => exact ⟨text, hread, hdecode, (pure_eq_ok_iff.mp h).symm⟩
    · cases h
  · rw [hdecode]
    exact ⟨hread, pure_eq_ok_iff.mpr hlines.symm⟩

/-- A script cannot be read if the file cannot, or if it is not in UTF-8. -/
theorem readScriptLines_eq_error_iff :
    readScriptLines disk path = .error fault ↔
      (∃ cause, disk.read path = .error cause ∧ fault = .file cause) ∨
      ∃ content malformed, disk.read path = .ok content ∧
        Text.Utf8.decode content = .error malformed ∧
        fault = .file (.undecodable malformed.atEnd) := by
  simp only [readScriptLines, bind_eq_error_iff, onFiles_eq_error_iff, onFiles_eq_ok_iff]
  refine or_congr_right (exists_congr fun content =>
    ⟨fun ⟨hread, h⟩ => ?_, fun ⟨malformed, hread, hdecode, hfault⟩ => ?_⟩)
  · split at h
    · exact absurd h pure_ne_error
    · next malformed hdecode => exact ⟨malformed, hread, hdecode, (Except.error.inj h).symm⟩
  · rw [hdecode, hfault]
    exact ⟨hread, rfl⟩

/-! ## Included files -/

/-- An include is accepted if its final path lies at or below that of the script directory. -/
theorem resolveInclude_eq_ok_iff :
    resolveInclude disk name script = .ok path ↔
      '\x00' ∉ name ∧ ∃ base, disk.resolve false script.parent = .ok base ∧
        disk.resolve false (base.append (Path.ofText name)) = .ok path ∧
        path.root = base.root ∧ base.parts <+: path.parts := by
  simp only [resolveInclude, bind_eq_ok_iff, check_eq_ok_iff, onFiles_eq_ok_iff, pure_eq_ok_iff,
    Path.below?_isNone_iff, Decidable.not_not, List.contains_iff_mem]
  refine and_congr_right fun _ => exists_congr fun base => and_congr_right fun _ => ?_
  constructor
  · rintro ⟨_, hfinal, hbelow, rfl⟩
    exact ⟨hfinal, hbelow⟩
  · rintro ⟨hfinal, hbelow⟩
    exact ⟨path, hfinal, hbelow, rfl⟩

/-- An include is refused for a null character, if the directory or the include has no final path, and
    if it lies outside the directory. -/
theorem resolveInclude_eq_error_iff :
    resolveInclude disk name script = .error fault ↔
      '\x00' ∈ name ∧ fault = .input .nullInInclude ∨ '\x00' ∉ name ∧
        ((∃ cause, disk.resolve false script.parent = .error cause ∧ fault = .file cause) ∨
        ∃ base, disk.resolve false script.parent = .ok base ∧
          ((∃ cause, disk.resolve false (base.append (Path.ofText name)) = .error cause ∧
              fault = .file cause) ∨
          ∃ final, disk.resolve false (base.append (Path.ofText name)) = .ok final ∧
            ¬ (final.root = base.root ∧ base.parts <+: final.parts) ∧
            fault = .input (.includeOutside name))) := by
  simp only [resolveInclude, bind_eq_error_iff, check_eq_error_iff, onFiles_eq_error_iff,
    onFiles_eq_ok_iff, pure_ne_error, Path.below?_isNone_iff, List.contains_iff_mem, and_false,
    or_false]

/-- The text of an included file is that of its lines. -/
theorem readInclude_eq_ok_iff :
    readInclude disk name script = .ok text ↔
      ∃ path content decoded, resolveInclude disk name script = .ok path ∧
        disk.read path = .ok content ∧ Text.Utf8.decode content = .ok decoded ∧
        text = Text.unlines (Text.fileLines decoded) := by
  simp only [readInclude, bind_eq_ok_iff, pure_eq_ok_iff, readScriptLines_eq_ok_iff]
  constructor
  · rintro ⟨path, hpath, _, ⟨content, decoded, hread, hdecode, rfl⟩, rfl⟩
    exact ⟨path, content, decoded, hpath, hread, hdecode, rfl⟩
  · rintro ⟨path, content, decoded, hpath, hread, hdecode, rfl⟩
    exact ⟨path, hpath, _, ⟨content, decoded, hread, hdecode, rfl⟩, rfl⟩

theorem readInclude_eq_error_iff :
    readInclude disk name script = .error fault ↔
      resolveInclude disk name script = .error fault ∨
      ∃ path, resolveInclude disk name script = .ok path ∧
        readScriptLines disk path = .error fault := by
  simp only [readInclude, bind_eq_error_iff, pure_ne_error, and_false, exists_false, or_false]

/-! ## Paths from users -/

/-- A path is accepted below a root only if its final path lies at or below that of the root. -/
theorem exists_of_safeInputPath (h : safeInputPath disk raw (some root) = .ok path) :
    ∃ given base, disk.expandHome (Path.ofText raw) = .ok given ∧
      disk.resolve false given = .ok path ∧ disk.resolve true root = .ok base ∧
      path.root = base.root ∧ base.parts <+: path.parts := by
  simp only [safeInputPath, bind_eq_ok_iff, check_eq_ok_iff, onFiles_eq_ok_iff, pure_eq_ok_iff,
    Path.below?_isNone_iff, Decidable.not_not] at h
  obtain ⟨-, -, given, hgiven, -, final, hfinal, base, hbase, hbelow, -, -, -, -, -, -, rfl⟩ := h
  exact ⟨given, base, hgiven, hfinal, hbase, hbelow⟩

/-! ## Servers -/

/-- No text comes back from a server if the exchange fails, or if the answer is not in its character
    set. -/
theorem fault_of_readReply {reply : NetworkReply} (h : readReply reply = .error fault) :
    (∃ cause, fault = .unreachable cause) ∨ ∃ cause, fault = .charset cause := by
  cases reply with
  | failure reason => exact .inl ⟨_, (Except.error.inj h).symm⟩
  | refused message => exact .inl ⟨_, (Except.error.inj h).symm⟩
  | broken flaw message => exact .inl ⟨_, (Except.error.inj h).symm⟩
  | body content charset =>
    obtain ⟨cause, -, rfl⟩ := mapError_eq_error_iff.mp h
    exact .inr ⟨cause, rfl⟩

end Publish

end ScriptReport

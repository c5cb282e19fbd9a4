/-
  ScriptReport.Proofs.Settings.Accepted

  What a configuration promises that was read from a document. Its two comment texts are single
  characters, its format exists, and its limit is not negative. So the options drawn from it pass
  their own check: what is validated in two places agrees.
-/

import ScriptReport.Proofs.Script.CommentLine
import ScriptReport.Proofs.Success
import ScriptReport.Settings.Load
import Mathlib.Tactic.Common

namespace ScriptReport

open Text (Wide)
open Yaml (Cell Document Value)

/-- The configuration is one that a run can work with. -/
structure Config.IsUsable (config : Config) : Prop where
  comments : ∃ a b, config.comments = Script.singles [a, b]
  format : ∃ f : Format, config.format = f.name
  limit : isLimit (.ofInt? config.maxOutputLines) = true

/-- Options drawn from a usable configuration are valid. -/
theorem Config.IsUsable.options {config : Config} (h : config.IsUsable) :
    (Options.ofConfig config).isValid = true := by
  obtain ⟨f, hformat⟩ := h.format
  rw [Options.isValid, Options.ofConfig, hformat, Format.ofName?_name, h.limit]
  rfl

/-- Drawing options from a usable configuration succeeds. -/
theorem Config.IsUsable.fromConfig {config : Config} (h : config.IsUsable) :
    Options.fromConfig config [] = .ok (Options.ofConfig config) := by
  have hcheck := Options.check_of_isValid h.options
  have hnone : (Options.Draft.ofOptions (Options.ofConfig config)).overrideAll [] =
      .ok (Options.Draft.ofOptions (Options.ofConfig config)) := rfl
  rw [Options.fromConfig, hnone]
  simp only [bind, Except.bind, hcheck, Options.Draft.toOptions_ofOptions]
  rfl

/-! ## Single keys -/

/-- One code point becomes one character. -/
theorem Text.Wide.toChars_of_length_one {text : Wide} (h : text.length = 1) :
    ∃ c, text.toChars = [c] := by
  obtain ⟨p, rfl⟩ := List.length_eq_one_iff.mp h
  cases p with
  | char c => exact ⟨c, rfl⟩
  | surrogate n => exact ⟨Text.replacementChar, rfl⟩

namespace WrittenConfig

variable {cells : Array Cell} {value : Value} {entries : List (Value × Value)}

theorem readComments_ok {comments : List Wide} (h : readComments cells value = .ok comments) :
    ∃ a b, comments.map Wide.toChars = Script.singles [a, b] := by
  unfold readComments at h
  split at h
  · next first second _ =>
    obtain ⟨a, -, h⟩ := bind_eq_ok_iff.mp h
    obtain ⟨b, -, h⟩ := bind_eq_ok_iff.mp h
    split_ifs at h with hdistinct
    · cases h
    · cases h
      rw [Bool.or_eq_true, Bool.or_eq_true, not_or, not_or, decide_eq_true_iff, decide_eq_true_iff,
        not_not, not_not] at hdistinct
      obtain ⟨c, hc⟩ := Text.Wide.toChars_of_length_one hdistinct.1.1
      obtain ⟨d, hd⟩ := Text.Wide.toChars_of_length_one hdistinct.1.2
      exact ⟨c, d, by rw [List.map_cons, List.map_cons, List.map_nil, hc, hd]; rfl⟩
  · cases h

theorem readFormat_ok {format : Chars} (h : readFormat cells value = .ok format) :
    ∃ f : Format, format = f.name := by
  obtain ⟨text, -, h⟩ := bind_eq_ok_iff.mp h
  split at h
  · next f _ =>
    cases h
    exact ⟨f, rfl⟩
  · cases h

theorem readLimit_ok {limit : Option Int} (h : readLimit cells value = .ok limit) :
    isLimit (.ofInt? limit) = true := by
  unfold readLimit at h
  split at h
  · cases h
    rfl
  · next n =>
    split_ifs at h with hnegative
    cases h
    simpa [Datum.ofInt?, isLimit] using hnegative
  · cases h

/-- The value of a key is what its reader accepts, or the usual one. -/
theorem field_ok {α : Type} {key : Chars} {usual a : α} {read : ValueReader α}
    (h : (match Value.lookup? key entries with
      | some value => read cells value
      | none => .ok usual) = .ok a) :
    (∃ value, read cells value = .ok a) ∨ a = usual := by
  split at h
  · next value _ => exact .inl ⟨value, h⟩
  · cases h
    exact .inr rfl

/-! ## Whole configurations -/

theorem isUsable_of_ofEntries {written : WrittenConfig}
    (h : ofEntries cells entries = .ok written) : written.toConfig.IsUsable := by
  unfold ofEntries at h
  simp only [bind_eq_ok_iff] at h
  -- only three of the keys say something that a run depends on
  obtain ⟨comments, hcomments, format, hformat, _, -, _, -, _, -, _, -, limit, hlimit, _, -, _, -,
    _, -, _, -, h⟩ := h
  cases h
  constructor
  case comments =>
    rcases field_ok hcomments with ⟨value, hread⟩ | rfl
    · exact readComments_ok hread
    · exact ⟨'%', '#', rfl⟩
  case format =>
    rcases field_ok hformat with ⟨value, hread⟩ | rfl
    · exact readFormat_ok hread
    · exact ⟨.html, rfl⟩
  case limit =>
    rcases field_ok hlimit with ⟨value, hread⟩ | rfl
    · exact readLimit_ok hread
    · rfl

/-- A configuration that is accepted is usable, whatever document it was read from. -/
theorem isUsable_of_ofDocument {document : Document} {written : WrittenConfig}
    (h : ofDocument document = .ok written) : written.toConfig.IsUsable := by
  unfold ofDocument at h
  split at h
  · exact isUsable_of_ofEntries h
  · split at h
    · exact isUsable_of_ofEntries h
    · cases h
  · cases h

end WrittenConfig

end ScriptReport

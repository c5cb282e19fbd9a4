/-
  ScriptReport.Proofs.Publish.ReportLocation

  Which locations are taken for those of reports. A location leads to an address of a server, of
  which the path counts, or to a file (`LeadsTo`). The rule is that the last extension of the file
  name starts with `htm` or is `tex`, capital letters counting as small ones (`NamesReport`). It is
  looked at in lower case, and only by its first letters, so that longer extensions that start with
  `tex` are taken as well (`HasLongTex`); and a location that cannot be split into the parts of an
  address is never taken, even if it is a file. Main statement: `recover_answers`.
-/

import Mathlib
import ScriptReport.Proofs.Files.PathText
import ScriptReport.Proofs.Publish.Input
import ScriptReport.Proofs.Report.SourceRecovery
import ScriptReport.Proofs.Success
import ScriptReport.Proofs.Text.LowerCase
import ScriptReport.Proofs.Url.AddressParts
import ScriptReport.Publish.Recover

namespace ScriptReport.Publish

/-! ## Extensions -/

/-- The name is the last piece between slashes that is neither empty nor a point. -/
def IsFileName (text name : Chars) : Prop :=
  ∃ before after, Text.splitOn "/" text = before ++ name :: after ∧ name ≠ [] ∧ name ≠ ['.'] ∧
    ∀ piece ∈ after, piece = [] ∨ piece = ['.']

/-- The extension stands behind the last point of the name, which is neither its first nor its last
    character. -/
def IsExtension (name extension : Chars) : Prop :=
  ∃ stem, name = stem ++ '.' :: extension ∧ stem ≠ [] ∧ extension ≠ [] ∧ '.' ∉ extension

/-- The last extension of the file name, with capital letters as small ones. -/
def HasExtension (text extension : Chars) : Prop :=
  ∃ name written, IsFileName text name ∧ IsExtension name written ∧
    Text.foldAscii written = extension

/-- The file name is that of a report. -/
def NamesReport (text : Chars) : Prop :=
  ∃ extension, HasExtension text extension ∧ (("htm" : Chars) <+: extension ∨ extension = "tex")

/-- The extension is longer than that of a report in LaTeX. -/
def HasLongTex (text : Chars) : Prop :=
  ∃ extension, HasExtension text extension ∧ ("tex" : Chars) <+: extension ∧ extension ≠ "tex"

/-- The file name is that of a report, or its extension only starts like one. -/
def IsTaken (text : Chars) : Prop := NamesReport text ∨ HasLongTex text

/-! ## Sites -/

/-- Where a report is. -/
inductive Site where
  | file (text : Chars)
  | server (location : Chars) (address : Url.Address)

namespace Site

/-- The text that ends with the file name. -/
def path : Site → Chars
  | file text => text
  | server _ address => address.path

/-- The report is on a server. -/
def isServer : Site → Bool
  | file _ => false
  | server _ _ => true

/-- The report as it is read. -/
def reading : Site → World → Except Fault Text.Wide
  | file text, w => (readReportFile w.disk (Path.ofText text)).map Text.Wide.ofChars
  | server _ _, w => readReply w.network

/-- What is called no report, if it is none. -/
def name : Site → Chars
  | file text => (Path.ofText text).name
  | server location _ => location

end Site

/-- The site of a location. Every text that is no address of a server stands for a file. -/
inductive LeadsTo (location : Chars) : Site → Prop
  | server (address : Url.Address) (fits : address.Fits)
    (written : Url.cleaned location = address.text) : LeadsTo location (.server location address)
  | file (other : ∀ address : Url.Address, address.Fits → Url.cleaned location ≠ address.text) :
    LeadsTo location (.file location)

/-! ## Answers -/

/-- The answers are those of a rule for paths. If the path is accepted, the report is read and its
    script is given; any other path is refused, whatever there is to be read. -/
structure Decides (rule : Chars → Prop) (site : Site) (answer : World → Except Fault Text.Wide) :
    Prop where
  accepted : rule site.path → ∀ w, answer w = site.reading w >>= Report.extractWide
  refused : ¬ rule site.path → ∀ w, answer w = .error (.input (.noReport site.name))

/-- What recovering the script of a location answers. -/
structure Answers (location : Chars) (site : Site) : Prop where
  decides : ∀ parts, Url.split location = .ok parts → Decides IsTaken site (recoverWide · location)
  stops : ∀ fault, Url.split location = .error fault →
    ∀ w, recoverWide w location = .error (.location fault)
  rule_iff : Decides NamesReport site (recoverWide · location) ↔
    (∃ parts, Url.split location = .ok parts) ∧ ¬ HasLongTex site.path

variable {location text name extension : Chars} {site : Site} {w : World} {fault : Fault}
  {answer : World → Except Fault Text.Wide}

/-! ## File names -/

/-- What is left out between the slashes of a path text. -/
theorem not_part_iff (piece : Chars) :
    ¬ (decide (piece ≠ []) && decide (piece ≠ ['.'])) = true ↔ piece = [] ∨ piece = ['.'] := by
  rw [Bool.and_eq_true, decide_eq_true_eq, decide_eq_true_eq, not_and_or, not_not, not_not]

theorem isFileName_iff : IsFileName text name ↔ (Path.ofText text).parts.getLast? = some name := by
  rw [List.getLast?_eq_some_iff, IsFileName]
  show _ ↔ ∃ before, Path.partsOf text = before ++ [name]
  rw [Path.partsOf]
  constructor
  · rintro ⟨before, after, hsplit, hne, hpoint, hafter⟩
    rw [hsplit, List.filter_append, List.filter_cons_of_pos (by simp [hne, hpoint]),
      List.filter_eq_nil_iff.mpr fun piece hmem => (not_part_iff piece).mpr (hafter piece hmem)]
    exact ⟨_, rfl⟩
  · rintro ⟨before, hparts⟩
    obtain ⟨front, rest, hsplit, -, hrest⟩ := List.filter_eq_append_iff.mp hparts
    obtain ⟨skipped, after, rfl, -, hname, hafter⟩ := List.filter_eq_cons_iff.mp hrest
    rw [Bool.and_eq_true, decide_eq_true_eq, decide_eq_true_eq] at hname
    refine ⟨front ++ skipped, after, ?_, hname.1, hname.2, fun piece hmem => ?_⟩
    · rw [hsplit, List.append_assoc]
    · exact (not_part_iff piece).mp (List.filter_eq_nil_iff.mp hafter piece hmem)

theorem isExtension_iff : IsExtension name extension ↔ (Path.splitName name).2 = '.' :: extension := by
  rw [Path.splitName]
  constructor
  · rintro ⟨stem, rfl, hstem, hextension, hpoint⟩
    rw [Text.cutAtLast?_append_cons stem hpoint]
    dsimp only
    rw [if_neg (by simp [hstem, hextension])]
  · intro h
    split at h
    · next stem behind hcut =>
      obtain ⟨rfl, hpoint⟩ := Text.eq_of_cutAtLast? hcut
      split_ifs at h with hempty
      cases h
      simp only [Bool.or_eq_true, decide_eq_true_eq, not_or] at hempty
      exact ⟨stem, rfl, hempty.1, hempty.2, hpoint⟩
    · cases h

/-- A suffix starts with a point. -/
theorem suffix_eq (path : Path) : path.suffix = [] ∨ ∃ extension, path.suffix = '.' :: extension := by
  rw [Path.suffix, Path.splitName]
  split
  · next stem extension hcut =>
    split_ifs
    · exact .inl rfl
    · exact .inr ⟨extension, rfl⟩
  · exact .inl rfl

theorem hasExtension_iff :
    HasExtension text extension ↔
      Text.foldAscii (Path.ofText text).suffix = '.' :: extension := by
  have hpoint (behind : Chars) :
      Text.foldAscii ('.' :: behind) = '.' :: Text.foldAscii behind := rfl
  constructor
  · rintro ⟨name, written, hname, hwritten, rfl⟩
    rw [Path.suffix, Path.name, isFileName_iff.mp hname, Option.getD_some,
      isExtension_iff.mp hwritten, hpoint]
  · intro h
    rcases suffix_eq (Path.ofText text) with hnone | ⟨written, hwritten⟩
    · rw [hnone] at h
      cases h
    · rw [hwritten, hpoint, List.cons.injEq] at h
      rw [Path.suffix, Path.name] at hwritten
      cases hlast : (Path.ofText text).parts.getLast? with
      | none =>
        rw [hlast] at hwritten
        cases hwritten
      | some name =>
        rw [hlast, Option.getD_some] at hwritten
        exact ⟨name, written, isFileName_iff.mpr hlast, isExtension_iff.mpr hwritten, h.2⟩

theorem HasExtension.unique {other : Chars} (h : HasExtension text extension)
    (hother : HasExtension text other) : extension = other := by
  have heq := (hasExtension_iff.mp h).symm.trans (hasExtension_iff.mp hother)
  exact (List.cons.inj heq).2

/-- No file name is that of a report and has a longer extension. -/
theorem NamesReport.not_hasLongTex (h : NamesReport text) : ¬ HasLongTex text := by
  obtain ⟨extension, hextension, hreport⟩ := h
  rintro ⟨other, hother, hstarts, hlonger⟩
  obtain rfl := hextension.unique hother
  rcases hreport with hhtm | htex
  · -- the first letters are different ones
    have hletters := List.prefix_of_prefix_length_le hhtm hstarts (Nat.le_refl 3)
    exact absurd hletters (by decide)
  · exact hlonger htex

/-- The suffix in lower case starts with that of a report. -/
theorem prefix_lower_suffix_iff {letters : Chars} (h : Text.IsPattern ('.' :: letters)) :
    '.' :: letters <+: Text.lower (Path.ofText text).suffix ↔
      ∃ extension, HasExtension text extension ∧ letters <+: extension := by
  rw [Text.lower, Text.prefix_lowerFrom_iff h]
  constructor
  · rintro ⟨rest, hrest⟩
    exact ⟨letters ++ rest, hasExtension_iff.mpr hrest.symm, List.prefix_append letters rest⟩
  · rintro ⟨extension, hextension, hletters⟩
    rw [hasExtension_iff.mp hextension]
    exact List.cons_prefix_cons.mpr ⟨rfl, hletters⟩

theorem hasReportSuffix_iff (text : Chars) :
    hasReportSuffix (Path.ofText text) = true ↔ IsTaken text := by
  have hhtm : Text.IsPattern ('.' :: ("htm" : Chars)) := .of_all (by decide) (by decide) (by decide)
  have htex : Text.IsPattern ('.' :: ("tex" : Chars)) := .of_all (by decide) (by decide) (by decide)
  have hsuffixes : hasReportSuffix (Path.ofText text) = true ↔
      (∃ extension, HasExtension text extension ∧ ("htm" : Chars) <+: extension) ∨
        ∃ extension, HasExtension text extension ∧ ("tex" : Chars) <+: extension := by
    rw [← prefix_lower_suffix_iff hhtm, ← prefix_lower_suffix_iff htex, hasReportSuffix,
      reportSuffixes]
    simp only [List.any_cons, List.any_nil, Bool.or_false, Bool.or_eq_true,
      List.isPrefixOf_iff_prefix]
    rfl
  rw [hsuffixes]
  constructor
  · rintro (⟨extension, hextension, hstarts⟩ | ⟨extension, hextension, hstarts⟩)
    · exact .inl ⟨extension, hextension, .inl hstarts⟩
    · by_cases hlonger : extension = "tex"
      · exact .inl ⟨extension, hextension, .inr hlonger⟩
      · exact .inr ⟨extension, hextension, hstarts, hlonger⟩
  · rintro (⟨extension, hextension, hstarts | rfl⟩ | ⟨extension, hextension, hstarts, -⟩)
    · exact .inl ⟨extension, hextension, hstarts⟩
    · exact .inr ⟨"tex", hextension, List.prefix_refl _⟩
    · exact .inr ⟨extension, hextension, hstarts⟩

/-! ## Reading -/

/-- The fault is one of the location: it is refused, or is none. -/
def IsLocationFault : Fault → Prop
  | .location _ | .input (.noReport _) => True
  | _ => False

/-- What is read does not lead to a fault of the location. -/
theorem not_isLocationFault_of_reading
    (h : (site.reading w >>= Report.extractWide) = .error fault) : ¬ IsLocationFault fault := by
  rcases bind_eq_error_iff.mp h with hread | ⟨report, -, hsource⟩
  · cases site with
    | file text =>
      rw [Site.reading, map_eq_error_iff] at hread
      rcases bind_eq_error_iff.mp hread with hfile | ⟨content, -, hpure⟩
      · obtain ⟨cause, -, rfl⟩ := mapError_eq_error_iff.mp hfile
        exact not_false
      · exact absurd hpure pure_ne_error
    | server location address =>
      rcases fault_of_readReply hread with ⟨cause, rfl⟩ | ⟨cause, rfl⟩ <;> exact not_false
  · rcases Report.fault_of_extractWide hsource with rfl | rfl | ⟨digits, rfl⟩ <;> exact not_false

/-! ## Decisions -/

/-- The answer of a site: its report is read, or its name is refused. -/
def Site.recovered (site : Site) (w : World) : Except Fault Text.Wide :=
  if hasReportSuffix (Path.ofText site.path) then site.reading w >>= Report.extractWide
  else .error (.input (.noReport site.name))

theorem decides_isTaken (h : ∀ w, answer w = site.recovered w) : Decides IsTaken site answer where
  accepted htaken w := by rw [h, Site.recovered, if_pos ((hasReportSuffix_iff _).mpr htaken)]
  refused hnot w := by rw [h, Site.recovered, if_neg (mt (hasReportSuffix_iff _).mp hnot)]

/-- A world without files. -/
instance : Inhabited World := ⟨{ disk := { tree := ⟨[]⟩, cwd := [], home := "/" } }⟩

/-- What is taken is what the rule accepts exactly if the extension is not a longer one. -/
theorem Decides.namesReport_iff (h : Decides IsTaken site answer) :
    Decides NamesReport site answer ↔ ¬ HasLongTex site.path := by
  constructor
  · intro hrule hlonger
    -- what is read in any world tells a refusal from a report
    have hread := h.accepted (.inr hlonger) default
    rw [hrule.refused (fun hreport => hreport.not_hasLongTex hlonger) default] at hread
    exact not_isLocationFault_of_reading hread.symm trivial
  · intro hlonger
    exact ⟨fun hreport => h.accepted (.inl hreport),
      fun hnot => h.refused (not_or.mpr ⟨hnot, hlonger⟩)⟩

/-- Where the location is none, the rule is not followed. -/
theorem not_decides_of_location {cause : Url.LocationFault}
    (h : answer w = .error (.location cause)) : ¬ Decides NamesReport site answer := by
  intro hrule
  by_cases hreport : NamesReport site.path
  · have hread := hrule.accepted hreport w
    rw [h] at hread
    exact not_isLocationFault_of_reading hread.symm trivial
  · have hrefused := hrule.refused hreport w
    rw [h] at hrefused
    cases hrefused

/-! ## Locations -/

theorem exists_leadsTo (location : Chars) : ∃ site, LeadsTo location site := by
  by_cases haddress : ∃ a : Url.Address, a.Fits ∧ Url.cleaned location = a.text
  · obtain ⟨a, hfits, htext⟩ := haddress
    exact ⟨_, .server a hfits htext⟩
  · exact ⟨_, .file fun a hfits htext => haddress ⟨a, hfits, htext⟩⟩

/-- A location that can be split is on a server if it leads to one. -/
theorem LeadsTo.isUrl_eq (hsite : LeadsTo location site)
    (h : Url.split location = .ok (Url.parts location)) : isUrl location = .ok site.isServer := by
  have hurl : isUrl location = .ok (decide ((Url.parts location).scheme ∈ Url.serverSchemes)) := by
    rw [isUrl, h]
    show Except.ok _ = _
    rw [Url.serverSchemes, Except.ok.injEq, Bool.eq_iff_iff, Bool.or_eq_true, decide_eq_true_eq,
      decide_eq_true_eq, decide_eq_true_eq, List.mem_pair]
  rw [hurl]
  cases hsite with
  | server a hfits htext => rw [decide_eq_true (hfits.scheme_parts htext), Site.isServer]
  | file hother =>
    -- with the scheme of a server there would be an address
    have hscheme : (Url.parts location).scheme ∉ Url.serverSchemes := fun hmem => by
      obtain ⟨a, hfits, htext⟩ := Url.exists_address hmem
      exact hother a hfits htext
    rw [decide_eq_false hscheme, Site.isServer]

/-- What is looked at for the extension is the path of the site. -/
theorem LeadsTo.isReportPath_eq (hsite : LeadsTo location site)
    (h : Url.split location = .ok (Url.parts location)) :
    isReportPath location = .ok (hasReportSuffix (Path.ofText site.path)) := by
  rw [isReportPath, hsite.isUrl_eq h]
  cases hsite with
  | server a hfits htext =>
    rw [h, Site.path, ← Url.withoutParameters_parts hfits htext]
    rfl
  | file hother => rfl

theorem LeadsTo.recover_eq (hsite : LeadsTo location site)
    (h : Url.split location = .ok (Url.parts location)) (w : World) :
    recoverWide w location = site.recovered w := by
  rw [recoverWide, hsite.isUrl_eq h, hsite.isReportPath_eq h, Site.recovered]
  cases hsite <;> cases hasReportSuffix _ <;> rfl

theorem recover_of_location {cause : Url.LocationFault} (h : Url.split location = .error cause)
    (w : World) : recoverWide w location = .error (.location cause) := by
  rw [recoverWide, isUrl, h]
  rfl

theorem recoverFile_eq (text : Chars) (w : World) :
    (recoverFile w.disk (Path.ofText text)).map Text.Wide.ofChars =
      (Site.file text).recovered w := by
  rw [recoverFile, Site.recovered, Site.path]
  cases hasReportSuffix (Path.ofText text) with
  | false => rfl
  | true =>
    show Except.map _ (readReportFile w.disk (Path.ofText text) >>= Report.extractSource) =
      ((readReportFile w.disk (Path.ofText text)).map Text.Wide.ofChars) >>= Report.extractWide
    cases readReportFile w.disk (Path.ofText text) with
    | error fault => rfl
    | ok report => exact (Report.extractWide_ofChars report).symm

theorem LeadsTo.answers (hsite : LeadsTo location site) : Answers location site := by
  have hdecides : ∀ parts, Url.split location = .ok parts →
      Decides IsTaken site (recoverWide · location) := fun parts h => by
    obtain rfl := Url.eq_parts_of_split h
    exact decides_isTaken (hsite.recover_eq h)
  refine ⟨hdecides, fun cause h => recover_of_location h, ?_⟩
  cases hsplit : Url.split location with
  | ok parts =>
    rw [(hdecides parts hsplit).namesReport_iff]
    exact (and_iff_right ⟨parts, rfl⟩).symm
  | error cause =>
    -- the rule asks for a script or a refusal, and there is neither
    refine iff_of_false (not_decides_of_location (recover_of_location hsplit default)) ?_
    rintro ⟨⟨parts, hparts⟩, -⟩
    cases hparts

/-! ## Main statement -/

/-- Every location leads to a site. If it can be split into parts, it is decided on by its path: the
    report is read, or the location is refused without a look at what there is to be read. The rule
    for extensions is what decides exactly if, besides, the extension is not a longer one that
    starts with `tex`. A path that is given as such is decided on in the same way. -/
theorem recover_answers (location : Chars) :
    (∃ site, LeadsTo location site) ∧ (∀ site, LeadsTo location site → Answers location site) ∧
      Decides IsTaken (.file location)
        (fun w => (recoverFile w.disk (Path.ofText location)).map Text.Wide.ofChars) ∧
      (Decides NamesReport (.file location)
        (fun w => (recoverFile w.disk (Path.ofText location)).map Text.Wide.ofChars) ↔
          ¬ HasLongTex location) := by
  have hfile := decides_isTaken (recoverFile_eq location)
  exact ⟨exists_leadsTo location, fun _ hsite => hsite.answers, hfile, hfile.namesReport_iff⟩

/-- Two files with reports. The extension of one is longer than that of a report; the text of the
    other cannot be split into the parts of an address. -/
def twoReports : World where
  disk := {
    tree := ⟨[
      (["notes.texi"], .file (Text.Utf8.encode
        ("##### SOURCE BEGIN #####\nx = 1;\n##### SOURCE END #####"))),
      (["x:"], .directory),
      (["x:", "["], .directory),
      (["x:", "[", "a.html"], .file (Text.Utf8.encode
        ("##### SOURCE BEGIN #####\ny = 2;\n##### SOURCE END #####")))]⟩
    cwd := []
    home := "/" }

theorem leadsTo_file_of_scheme (h : (Url.parts location).scheme ∉ Url.serverSchemes) :
    LeadsTo location (.file location) :=
  .file fun _ hfits htext => h (hfits.scheme_parts htext)

/-- A file that is no report by its name is read as one, and a report cannot be recovered for a
    bracket in its path. -/
theorem recover_against_extension :
    LeadsTo "notes.texi" (.file "notes.texi") ∧ ¬ NamesReport "notes.texi" ∧
      recoverWide twoReports "notes.texi" = .ok (.ofChars "x = 1;") ∧
      LeadsTo "x://[/a.html" (.file "x://[/a.html") ∧ NamesReport "x://[/a.html" ∧
      (Site.file "x://[/a.html").recovered twoReports = .ok (.ofChars "y = 2;") ∧
      recoverWide twoReports "x://[/a.html" = .error (.location .loneBracket) := by
  have htexi : HasLongTex "notes.texi" :=
    ⟨"texi", hasExtension_iff.mpr (by decide), by decide, by decide⟩
  refine ⟨leadsTo_file_of_scheme (by decide), fun h => h.not_hasLongTex htexi, by cbv,
    leadsTo_file_of_scheme (by decide), ?_, by cbv, by cbv⟩
  exact ⟨"html", hasExtension_iff.mpr (by decide), .inl (by decide)⟩

end ScriptReport.Publish

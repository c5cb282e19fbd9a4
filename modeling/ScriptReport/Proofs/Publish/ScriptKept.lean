/-
  ScriptReport.Proofs.Publish.ScriptKept

  Publishing and the script itself. Nothing keeps the report from being written over its script, and
  a link from the one to the other is enough for that (`script_overwritten`). But this is the only
  way in which a run changes the script, code that it runs aside; and it takes a link at the name
  of either, or a report that goes to the directory of the script and a script that has the
  extension of the report: main statement `script_kept_or_replaced`.
-/

import ScriptReport.Proofs.Files.LastStep
import ScriptReport.Proofs.Publish.Input
import ScriptReport.Proofs.Publish.ReportFile
import ScriptReport.Proofs.Publish.RoundTrip
import ScriptReport.Proofs.Text.Utf8
import ScriptReport.Settings.Load

namespace ScriptReport.Publish

open ScriptReport.Script ScriptReport.Evaluation

variable {σ κ : Type} {evaluator : Interpreter → Evaluator (σ × World) κ} {config : Config}
  {given : Option Options} {path script : Path} {s s' : σ} {w w' : World} {disk before : Disk}
  {answer : Except Fault Path} {p : Plan} {o : Options} {place : Place} {content : Text.Octets}

/-! ## Plans -/

/-- A plan is made for a file with an accepted extension. -/
theorem plan_facts (h : plan config given disk path = .ok p) :
    disk.resolve false path = .ok p.script ∧ disk.hasFile p.script = .ok true ∧
      Text.lower p.script.suffix ∈ config.scriptSuffixes ∧
      p.output = outputPath p.script p.options := by
  simp only [plan, bind_eq_ok_iff, onFiles_eq_ok_iff] at h
  obtain ⟨script, hscript, found, hfound, h⟩ := h
  cases found with
  | false => cases h
  | true =>
    simp only [Bool.not_true, Bool.false_eq_true, if_false, bind_eq_ok_iff] at h
    obtain ⟨_, hsuffix, h⟩ := h
    rw [checkSuffix] at hsuffix
    split_ifs at hsuffix with haccepted
    -- the options are given, or they are those of the configuration
    have hplan : p.script = script ∧ p.output = outputPath script p.options := by
      cases given with
      | none =>
        obtain ⟨options, -, h⟩ := bind_eq_ok_iff.mp h
        cases h
        exact ⟨rfl, rfl⟩
      | some options =>
        cases h
        exact ⟨rfl, rfl⟩
    obtain ⟨rfl, houtput⟩ := hplan
    exact ⟨hscript, hfound, List.contains_iff_mem.mp haccepted, houtput⟩

/-- The script of a plan is a file at some place. -/
theorem exists_place_of_plan (h : plan config given disk path = .ok p) :
    ∃ place content, disk.locate true p.script = .ok place ∧
      disk.tree.get? place = some (.file content) := by
  obtain ⟨content, hlook⟩ := Disk.hasFile_eq_true_iff.mp (plan_facts h).2.1
  obtain ⟨place, hlocate, hfile⟩ := Disk.place_of_look hlook
  exact ⟨place, content, hlocate, hfile⟩

/-! ## The path of the report -/

/-- The extension of a report. -/
def reportSuffix (o : Options) : Chars :=
  if o.format = Format.latex.name then ".tex" else ".html"

theorem length_reportSuffix (o : Options) :
    4 ≤ (reportSuffix o).length ∧ '/' ∉ reportSuffix o := by
  unfold reportSuffix
  split_ifs
  · decide
  · decide

/-- The name of a report is a name. -/
theorem isPart_report (hslash : '/' ∉ script.name) (o : Options) :
    Path.IsPart (script.stem ++ reportSuffix o) ∧
      FileTree.isName (script.stem ++ reportSuffix o) = true := by
  obtain ⟨hlength, hsuffix⟩ := length_reportSuffix o
  have hlong : (script.stem ++ reportSuffix o).length > 2 := by
    rw [List.length_append]
    omega
  have hne_of_short (short : Chars) (hshort : short.length ≤ 2) :
      script.stem ++ reportSuffix o ≠ short := by
    rintro rfl
    omega
  have hstem : '/' ∉ script.stem := by
    rw [← Path.splitName_append script.name, List.mem_append, not_or] at hslash
    exact hslash.1
  refine ⟨⟨hne_of_short [] (by decide), hne_of_short ['.'] (by decide), ?_⟩, ?_⟩
  · rw [List.mem_append, not_or]
    exact ⟨hstem, hsuffix⟩
  · rw [FileTree.isName_iff]
    refine ⟨?_, hne_of_short _ (by decide)⟩
    rw [FileTree.stays, Bool.or_eq_true, decide_eq_true_eq, decide_eq_true_eq, not_or]
    exact ⟨hne_of_short [] (by decide), hne_of_short ['.'] (by decide)⟩

/-- The report lies in the output directory, by the name of the script with its own extension. -/
theorem name_outputPath (hslash : '/' ∉ script.name) (o : Options) :
    (outputPath script o).parts ≠ [] ∧
      (outputPath script o).name = script.stem ++ reportSuffix o := by
  have hpart := (isPart_report hslash o).1
  have hpath : outputPath script o =
      (script.parent.append (Path.ofText o.resolvedOutputDir)).child
        (script.stem ++ reportSuffix o) := rfl
  rw [hpath, Path.child_of_isPart hpart, Path.name]
  refine ⟨List.concat_ne_nil _ _, ?_⟩
  rw [List.getLast?_concat]
  rfl

/-- If the report has the name of the script, the script has the extension of the report. -/
theorem suffix_of_name_eq (h : script.stem ++ reportSuffix o = script.name) :
    script.suffix = reportSuffix o := by
  have hname : script.stem ++ script.suffix = script.name := Path.splitName_append script.name
  exact List.append_cancel_left (hname.trans h.symm)

/-! ## Reports that meet their script -/

/-- Why the path of a report leads to the place of its script: on the disk `before`, on which the
    report is written, a link has its name; or on the first disk a link has the name of the
    script; or both lie in one directory, and the script has the extension of the report. -/
inductive MeetsScript (config : Config) (disk before : Disk) (p : Plan) : Prop where
  | reportLink (h : before.HasLinkAt p.output)
  | scriptLink (h : disk.HasLinkAt p.script)
  | sameDirectory {directory : Place} (script : disk.LeadsTo p.script.parent directory)
      (report : before.LeadsTo p.output.parent directory) (name_eq : p.output.name = p.script.name)
      (suffix_eq : p.script.suffix = reportSuffix p.options)
      (accepted : Text.lower (reportSuffix p.options) ∈ config.scriptSuffixes)

theorem meetsScript_of_locate (hsound : disk.tree.IsSound)
    (hplan : plan config given disk path = .ok p) (hscript : disk.locate true p.script = .ok place)
    (hfile : disk.tree.get? place = some (.file content))
    (hreport : before.locate true p.output = .ok place) : MeetsScript config disk before p := by
  obtain ⟨hresolve, -, haccepted, houtput⟩ := plan_facts hplan
  have hleads := Disk.leadsTo_of_locate hscript
  obtain ⟨hparts, hname⟩ := hleads.isName_of_file (Disk.isAbsolute_of_resolve hresolve) hfile
  rcases hleads.last_step hparts hname with ⟨directory, hdirectory, hplace⟩ | hlink
  · -- the name of the script is that of an entry of the tree
    have hentry := hsound.names_of_get? hfile p.script.name
      (by rw [hplace]; exact List.mem_append_right directory List.mem_cons_self)
    obtain ⟨houtparts, houtname⟩ := name_outputPath hentry.2.1 p.options
    rw [← houtput] at houtparts houtname
    have hisname : FileTree.isName p.output.name = true := by
      rw [houtname]
      exact (isPart_report hentry.2.1 p.options).2
    rcases (Disk.leadsTo_of_locate hreport).last_step houtparts hisname with
      ⟨outside, hother, hsame⟩ | hlink
    · -- both places are one, and so are the directories and the names
      obtain ⟨rfl, hnames⟩ := List.append_inj' (hplace.symm.trans hsame) rfl
      have hnames := (List.cons.inj hnames).1
      have hsuffix := suffix_of_name_eq (houtname.symm.trans hnames.symm)
      rw [hsuffix] at haccepted
      exact .sameDirectory hdirectory hother hnames.symm hsuffix haccepted
    · exact .reportLink hlink
  · exact .scriptLink hlink

/-! ## Main statement -/

/-- A run comes to its report: the directories are made, the script is read, and its lines give the
    text; the disk behind them is the one on which it is written. -/
inductive MakesReport (evaluator : Interpreter → Evaluator (σ × World) κ) (config : Config) (s : σ)
    (w : World) (p : Plan) : Chars → Disk → Prop where
  | intro {ready : Disk} {lines : List Chars} {text : Chars}
      (made : w.disk.makeDirectories p.output.parent = (ready, none))
      (read : readScriptLines ready p.script = .ok lines)
      (report : (p.textRun evaluator config ready lines s w).report = .ok text) :
      MakesReport evaluator config s w p text
        (p.textRun evaluator config ready lines s w).state.2.disk

/-- The run has put its report in the place of the script. -/
structure ReplacesScript (evaluator : Interpreter → Evaluator (σ × World) κ) (config : Config)
    (given : Option Options) (path : Path) (s : σ) (w w' : World) (answer : Except Fault Path)
    (p : Plan) (place : Place) (before : Disk) : Prop where
  /-- The report is written behind the code of the script, if that is run. -/
  before_eq : w.disk.AddsDirectories before ∨
    ∃ ready doc, RunsCode evaluator config given path s w p ready doc before
  answer_eq : answer = .ok p.output
  located : before.locate true p.output = .ok place
  report : ∃ text, MakesReport evaluator config s w p text before ∧
    w'.disk.tree.get? place = some (.file (Text.Utf8.encode text))
  reason : MeetsScript config w.disk before p

/-- The report is written on the disk with its directories, or behind the code of the script. -/
theorem MakesReport.before_eq {text : Chars} (h : MakesReport evaluator config s w p text before)
    (hplan : plan config given w.disk path = .ok p) :
    w.disk.AddsDirectories before ∨
      ∃ ready doc, RunsCode evaluator config given path s w p ready doc before := by
  cases h with
  | intro made read report =>
    rcases disk_of_textRun hplan made read rfl with heq | ⟨doc, hruns⟩
    · rw [heq]
      exact .inl (Disk.addsDirectories_of_makeDirectories made).1
    · exact .inr ⟨_, doc, hruns⟩

theorem MakesReport.replacesScript {text : Chars}
    (h : MakesReport evaluator config s w p text before) (hsound : w.disk.tree.IsSound)
    (hplan : plan config given w.disk path = .ok p) (hscript : w.disk.locate true p.script = .ok place)
    (hfile : w.disk.tree.get? place = some (.file content))
    (hlocate : before.locate true p.output = .ok place)
    (hwritten : w'.disk.tree.get? place = some (.file (Text.Utf8.encode text))) :
    ReplacesScript evaluator config given path s w w' (.ok p.output) p place before where
  before_eq := h.before_eq hplan
  answer_eq := rfl
  located := hlocate
  report := ⟨text, h, hwritten⟩
  reason := meetsScript_of_locate hsound hplan hscript hfile hlocate

/-- A run that is refused a plan changes nothing. Otherwise the script is a file, and the run leaves it
    as it was, unless its code has changed it, or the report is written in its place; that needs a
    link at the name of either, or an output directory that is the one of the script together
    with an accepted extension that is the one of the report. -/
theorem script_kept_or_replaced (hsound : w.disk.tree.IsSound)
    (h : publishWith evaluator config given path s w = (answer, s', w')) :
    (∀ fault, plan config given w.disk path = .error fault → w' = w) ∧
    ∀ p, plan config given w.disk path = .ok p →
      ∃ place content, w.disk.locate true p.script = .ok place ∧
        w.disk.tree.get? place = some (.file content) ∧
        (w'.disk.tree.get? place = some (.file content) ∨
          (∃ after, IsEndedByCode evaluator config given path s w after fun disk =>
            disk.tree.get? place = some (.file content)) ∨
          ∃ before, ReplacesScript evaluator config given path s w w' answer p place before) := by
  have hrun := isPublishing_of_publishWith h
  refine ⟨fun fault hplan => ?_, fun p hplan => ?_⟩
  · cases hrun with
    | unplanned => rfl
    | noDirectory planned => cases hplan.symm.trans planned
    | unread planned => cases hplan.symm.trans planned
    | stopped planned => cases hplan.symm.trans planned
    | unwritten planned => cases hplan.symm.trans planned
    | written planned => cases hplan.symm.trans planned
  obtain ⟨place, content, hscript, hfile⟩ := exists_place_of_plan hplan
  refine ⟨place, content, hscript, hfile, ?_⟩
  cases hanswer : answer with
  | error fault =>
    -- a run that is stopped leaves all files as they are
    rw [hanswer] at h
    have hkept := holds_of_error (P := fun disk => disk.tree.get? place = some (.file content)) h
      hfile fun ready hadds _ => hadds.get?_file_iff.mpr hfile
    exact hkept.imp_right fun hcode => .inl ⟨_, hcode⟩
  | ok output =>
    rw [hanswer] at hrun
    cases hrun with
    | @written p' ready after lines run text planned made read run_eq report write =>
      cases hplan.symm.trans planned
      have hready :=
        (Disk.addsDirectories_of_makeDirectories made).1.get?_file_iff.mpr hfile
      rcases holds_of_textRun (P := fun disk => disk.tree.get? place = some (.file content))
        planned made read run_eq hready with hbefore | hcode
      · obtain ⟨target, hlocate, hne, rfl⟩ := Disk.place_of_write write
        by_cases hsame : place = target
        · -- the report has been written to the place of the script
          subst hsame
          have hmakes : MakesReport evaluator config s w p text run.state.2.disk := by
            rw [← run_eq] at report ⊢
            exact .intro made read report
          refine .inr (.inr ⟨_, hmakes.replacesScript hsound hplan hscript hfile hlocate ?_⟩)
          rw [FileTree.get?_set _ hne, if_pos rfl]
        · left
          rw [FileTree.get?_set _ hne, if_neg hsame]
          exact hbefore
      · exact .inr (.inl ⟨_, hcode⟩)

/-! ## A script that is overwritten -/

/-- A run that gets to its report and can write it ends with its path. -/
theorem publishWith_of_report {ready disk : Disk} {lines : List Chars} {text : Chars}
    (hplan : plan config given w.disk path = .ok p)
    (hmade : w.disk.makeDirectories p.output.parent = (ready, none))
    (hread : readScriptLines ready p.script = .ok lines)
    (hreport : (p.textRun evaluator config ready lines s w).report = .ok text)
    (hwrite : (p.textRun evaluator config ready lines s w).state.2.disk.write p.output
      (Text.Utf8.encode text) = .ok disk) :
    (publishWith evaluator config given path s w).1 = .ok p.output ∧
      (publishWith evaluator config given path s w).2.2.disk = disk := by
  rw [Plan.textRun] at hreport hwrite
  rw [publishWith, hplan]
  simp only [hmade, hread, hreport]
  have hwarned (after : World) (warnings : List Warning) : (after.warn warnings).disk = after.disk :=
    rfl
  rw [hwarned, hwrite]
  exact ⟨rfl, rfl⟩

/-- A report in HTML is longer than what follows its script. -/
theorem length_report_html (showCode : Bool) (doc : Document) :
    Report.htmlEnding.length ≤ (Report.report .html showCode doc).length := by
  rw [Report.report_html, Report.htmlReport, List.length_append]
  exact Nat.le_add_left _ _

/-- A script, a link to it in the place of its report, and an empty configuration. -/
def linkedReport : World where
  disk := {
    tree := ⟨[
      (["a.m"], .file (Text.Utf8.encode "x = 1;\n")),
      (["html"], .directory),
      (["html", "a.html"], .link "../a.m"),
      (["c.yml"], .file [])]⟩
    cwd := []
    home := "/" }

theorem isSound_linkedReport : linkedReport.disk.tree.IsSound where
  names := by decide
  targets := by
    intro entry hentry target htarget hnull
    have hall : ∀ entry ∈ linkedReport.disk.tree.entries, entry.2 = .link "../a.m" ∨
        ∀ target, entry.2 ≠ .link target := by
      simp [linkedReport]
    rcases hall entry hentry with hlink | hnone
    · rw [hlink] at htarget
      cases htarget
      exact absurd hnull (by decide)
    · exact hnone target htarget

/-- The plan for the script. -/
def linkedPlan : Plan where
  script := Path.ofText "/a.m"
  options := unevaluated .html
  output := Path.ofText "/html/a.html"

theorem plan_linkedReport :
    plan {} (some (unevaluated .html)) linkedReport.disk (Path.ofText "a.m") = .ok linkedPlan := by
  cbv

/-- The report is written to the place of the script, which has been shorter. -/
theorem publish_linkedReport :
    ∃ report, 7 < report.length ∧
      (publish {} (some (unevaluated .html)) (Path.ofText "a.m") linkedReport).1 =
        .ok linkedPlan.output ∧
      (publish {} (some (unevaluated .html)) (Path.ofText "a.m") linkedReport).2.disk =
        { linkedReport.disk with
          tree := linkedReport.disk.tree.set ["a.m"] (.file (Text.Utf8.encode report)) } := by
  have hmade : linkedReport.disk.makeDirectories linkedPlan.output.parent =
      (linkedReport.disk, none) := by cbv
  have hread : readScriptLines linkedReport.disk linkedPlan.script = .ok ["x = 1;"] := by cbv
  have hlocate : linkedReport.disk.locate true linkedPlan.output = .ok ["a.m"] := by cbv
  obtain ⟨doc, warnings, hprepare⟩ : ∃ doc warnings,
      prepare ["%", "#"] "a.m" (some ⟨linkedReport.disk, linkedPlan.script⟩) ["x = 1;"] =
        (doc, warnings, none) := by
    refine ⟨_, _, Prod.ext rfl (Prod.ext rfl ?_)⟩
    cbv
  have hrun : linkedPlan.textRun Interpreter.evaluator {} linkedReport.disk ["x = 1;"] 0 linkedReport =
      ⟨warnings, .ok (Report.report .html true doc), (0, linkedReport)⟩ :=
    publishText_of_prepare hprepare rfl rfl
  have hwrite := Disk.write_of_locate (by decide) hlocate (by decide)
    (Text.Utf8.encode (Report.report .html true doc))
  obtain ⟨hanswer, hafter⟩ := publishWith_of_report (s := 0) plan_linkedReport hmade hread
    (by rw [hrun]) (by rw [hrun]; exact hwrite)
  have hlength := length_report_html true doc
  have hending : 7 < Report.htmlEnding.length := by decide
  exact ⟨Report.report .html true doc, by omega, hanswer, hafter⟩

theorem encode_ne_of_length {report : Chars} (h : 7 < report.length) :
    Text.Utf8.encode report ≠ Text.Utf8.encode "x = 1;\n" := by
  intro hsame
  have htext := congrArg Text.Utf8.decode hsame
  rw [Text.Utf8.decode_encode, Text.Utf8.decode_encode] at htext
  rw [Except.ok.inj htext] at h
  exact absurd h (by decide)

/-- The run has put the report in the place of the script, for the link. -/
theorem script_kept_or_replaced_of_linkedReport :
    ∃ before, ReplacesScript Interpreter.evaluator {} (some (unevaluated .html)) (Path.ofText "a.m")
      0 linkedReport (publish {} (some (unevaluated .html)) (Path.ofText "a.m") linkedReport).2
      (publish {} (some (unevaluated .html)) (Path.ofText "a.m") linkedReport).1 linkedPlan ["a.m"]
      before := by
  obtain ⟨report, hlength, -, hafter⟩ := publish_linkedReport
  have hscript : linkedReport.disk.locate true linkedPlan.script = .ok ["a.m"] := by cbv
  obtain ⟨-, hcases⟩ := script_kept_or_replaced isSound_linkedReport
    (publishWith_interpreter {} (some (unevaluated .html)) (Path.ofText "a.m") linkedReport)
  obtain ⟨place, content, hlocate, hfile, hkept | ⟨after, hcode⟩ | hreplaced⟩ :=
    hcases linkedPlan plan_linkedReport
  · -- the report stands there now
    cases hscript.symm.trans hlocate
    rw [hafter, FileTree.get?_set _ (by decide), if_pos rfl, ← hfile] at hkept
    have hcontent : linkedReport.disk.tree.get? ["a.m"] =
        some (.file (Text.Utf8.encode "x = 1;\n")) := by decide
    rw [hcontent] at hkept
    cases encode_ne_of_length hlength (Node.file.inj (Option.some.inj hkept))
  · -- no code is run
    obtain ⟨p, ready, doc, hruns, -⟩ := hcode
    cases plan_linkedReport.symm.trans hruns.planned
    cases hruns.asked_for
  · cases hscript.symm.trans hlocate
    exact hreplaced

/-- With the configuration that an empty file gives, the report is written over its script. -/
theorem script_overwritten :
    Config.load linkedReport.disk (Path.ofText "c.yml") = .ok {} ∧
      (unevaluated .html).isValid = true ∧
      linkedReport.disk.read (Path.ofText "a.m") = .ok (Text.Utf8.encode "x = 1;\n") ∧
      (publish {} (some (unevaluated .html)) (Path.ofText "a.m") linkedReport).1 =
        .ok (Path.ofText "/html/a.html") ∧
      ∃ content,
        (publish {} (some (unevaluated .html)) (Path.ofText "a.m") linkedReport).2.disk.read
          (Path.ofText "a.m") = .ok content ∧ content ≠ Text.Utf8.encode "x = 1;\n" := by
  obtain ⟨report, hlength, hanswer, hafter⟩ := publish_linkedReport
  refine ⟨by cbv, by decide, by cbv, hanswer, Text.Utf8.encode report, ?_,
    encode_ne_of_length hlength⟩
  have hold : linkedReport.disk.locate true (Path.ofText "a.m") = .ok ["a.m"] := by cbv
  have hwrite := Disk.write_of_locate (by decide) hold (by decide) (Text.Utf8.encode report)
  rw [hafter]
  exact Disk.read_of_write (FileTree.stands_nil linkedReport.disk.tree) hwrite

end ScriptReport.Publish

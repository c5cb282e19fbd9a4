/-
  ScriptReport.Proofs.Publish.RoundTrip

  Publishing a script and recovering it from the report. Neither included files nor results change
  the script that a document keeps, so the report of the lines ends with just these lines, and
  whether they come back depends on what was rendered before. Main statements: the exact condition
  for HTML (`html_round_trip_iff`) and for LaTeX (`latex_round_trip_iff`), and in each format a
  script that does not come back. In HTML every script without raw HTML does
  (`html_round_trip_of_hasNoRaw`).
-/

import ScriptReport.Proofs.Publish.Filling

namespace ScriptReport.Publish

open ScriptReport.Script ScriptReport.Evaluation ScriptReport.Report
open ScriptReport.Report.Html (HasNoRaw)

variable {σ κ : Type}

/-! ## Reports of lines -/

theorem read_sourceLines (comments : List Chars) (sourceName : Chars) (lines : List Chars) :
    (Script.read comments sourceName lines).1.sourceLines = lines := by
  unfold Script.read
  simp only
  split <;> rfl

theorem Fills.sourceText_eq {comments : List Chars} {sourceName : Chars} {lines : List Chars}
    {doc : Document} (h : Fills (Script.read comments sourceName lines).1 doc) :
    doc.sourceText = Text.unlines lines := by
  rw [Document.sourceText, h.sourceLines_eq, read_sourceLines]

theorem reportOf_format {o : Options} {format : Format} (h : o.format = format.name)
    (doc : Document) : reportOf o doc = .ok (Report.report format o.showCode doc) := by
  rw [reportOf, h, Format.ofName?_name]

theorem documentOf_eq_read {comments : List Chars} {lines : List Chars}
    (hshort : hasCutShortLine comments lines = false) (sourceName : Chars) :
    documentOf comments sourceName lines = .ok (Script.read comments sourceName lines) := by
  rw [documentOf, hshort]
  rfl

/-- Without a directory for included files, the document is as it is read. -/
theorem prepare_eq_read {comments : List Chars} {lines : List Chars}
    (hshort : hasCutShortLine comments lines = false) (sourceName : Chars) :
    prepare comments sourceName none lines =
      ((Script.read comments sourceName lines).1, (Script.read comments sourceName lines).2,
        none) := by
  rw [prepare, documentOf_eq_read hshort]

/-- A document whose code runs to the end gets its report. -/
theorem publishText_of_prepare {comments : List Chars} {o : Options} {sourceName : Chars}
    {base : Option IncludeBase} {e : Evaluator σ κ} {lines : List Chars} {s : σ} {doc : Document}
    {warnings : List Warning} {format : Format}
    (hprepare : prepare comments sourceName base lines = (doc, warnings, none))
    (hrun : (evaluateIf e o doc s).2.1 = none) (hformat : o.format = format.name) :
    publishText comments o sourceName base e lines s =
      ⟨warnings, .ok (Report.report format o.showCode (evaluateIf e o doc s).1),
        (evaluateIf e o doc s).2.2⟩ := by
  rw [publishText, hprepare]
  simp only
  -- the run is taken apart, so that its fault is seen to be none
  rcases hevaluated : evaluateIf e o doc s with ⟨later, fault, after⟩
  rw [hevaluated] at hrun
  cases hrun
  simp only [reportOf_format hformat]

/-- Options for a report that runs no code. -/
def unevaluated (format : Format) : Options := { format := format.name, evalCode := false }

/-- The report of a script that runs no code, with the default configuration. -/
def plainRun (format : Format) (lines : List Chars) : TextRun Unit :=
  publishText ["%", "#"] (unevaluated format) [] none (Evaluator.idle Unit Unit ()) lines ()

theorem plainRun_report {lines : List Chars}
    (hshort : hasCutShortLine ["%", "#"] lines = false) (format : Format) :
    (plainRun format lines).report =
      .ok (Report.report format true (Script.read ["%", "#"] [] lines).1) :=
  congrArg TextRun.report (publishText_of_prepare (prepare_eq_read hshort []) rfl rfl)

/-! ## HTML -/

/-- The script comes back from its report in HTML exactly if no opener is rendered before the
    comment that keeps it. -/
theorem html_round_trip_iff {comments : List Chars} {o : Options} {sourceName : Chars}
    {base : Option IncludeBase} {e : Evaluator σ κ} {lines : List Chars} {s : σ} {report : Chars}
    (hformat : o.format = Format.html.name)
    (hreport : (publishText comments o sourceName base e lines s).report = .ok report) :
    ∃ before, report = htmlReport before (Text.unlines lines) ∧
      (extractSource report = .ok (Text.unlines lines) ↔
        Text.contains htmlOpener before = false) := by
  obtain ⟨doc, hfills, hdoc⟩ := exists_fills_of_report hreport
  rw [reportOf_format hformat, report_html, hfills.sourceText_eq] at hdoc
  cases hdoc
  exact ⟨_, rfl, extractSource_htmlReport_iff _ _⟩

/-- A script with the lines that mark a script in a report, in its text and in its code. -/
def markedScript : List Chars :=
  ["%% Marks", "% ##### SOURCE BEGIN #####", "", "x = 1;", "##### SOURCE BEGIN #####",
    "##### SOURCE END #####"]

/-- Its code prints the marks, too. -/
def printsMarks : Rehearsal Nat where
  replies := [{ outputLines := ["##### SOURCE BEGIN #####", "##### SOURCE END #####", "-->"] }]

/-- The report of the script, the code being run. -/
def markedRun (format : Format) : TextRun (Rehearsal Nat) :=
  publishText ["%", "#"] { format := format.name } [] none (scripted 0 none true) markedScript
    printsMarks

/-- The document of the script behind its run. -/
def markedDocument (format : Format) : Document :=
  (evaluateIf (scripted 0 none true) { format := format.name }
    (Script.read ["%", "#"] [] markedScript).1 printsMarks).1

theorem markedRun_report (format : Format) :
    (markedRun format).report = .ok (Report.report format true (markedDocument format)) := by
  have hshort : hasCutShortLine ["%", "#"] markedScript = false := by decide +kernel
  refine congrArg TextRun.report (publishText_of_prepare (prepare_eq_read hshort []) ?_ rfl)
  cases format <;> decide +kernel

theorem sourceText_markedDocument (format : Format) :
    (markedDocument format).sourceText = Text.unlines markedScript := by
  cases format <;> decide +kernel

/-- A script that holds and prints the marks comes back from its report in HTML. -/
theorem html_round_trip_of_markedScript :
    ∃ report, (markedRun .html).report = .ok report ∧
      extractSource report = .ok (Text.unlines markedScript) := by
  have hreport := markedRun_report .html
  obtain ⟨before, hbefore, hiff⟩ := html_round_trip_iff rfl hreport
  refine ⟨_, hreport, hiff.mpr ?_⟩
  rw [report_html, sourceText_markedDocument] at hbefore
  rw [← htmlReport_cancel hbefore]
  decide +kernel

/-- A script without raw HTML comes back from its report in HTML, whatever the files that it
    includes hold and whatever its code prints. -/
theorem html_round_trip_of_hasNoRaw {comments : List Chars} {o : Options} {sourceName : Chars}
    {base : Option IncludeBase} {e : Evaluator σ κ} {lines : List Chars} {s : σ} {report : Chars}
    (hformat : o.format = Format.html.name)
    (hreport : (publishText comments o sourceName base e lines s).report = .ok report)
    (hraw : HasNoRaw (Script.read comments sourceName lines).1) :
    extractSource report = .ok (Text.unlines lines) := by
  obtain ⟨doc, hfills, hdoc⟩ := exists_fills_of_report hreport
  rw [reportOf_format hformat] at hdoc
  cases hdoc
  rw [← hfills.sourceText_eq]
  exact Html.extractSource_report_of_hasNoRaw (hfills.hasNoRaw hraw) o.showCode

/-- A script whose markup for HTML holds an opener. -/
def regionScript : List Chars :=
  ["%% T", "% <html>", "% <!--", "% ##### SOURCE BEGIN #####", "% </html>"]

/-- The opener in the markup is taken for that of the footer. -/
theorem html_round_trip_fails :
    (unevaluated .html).isValid = true ∧
      ∃ report, (plainRun .html regionScript).report = .ok report ∧
        extractSource report ≠ .ok (Text.unlines regionScript) := by
  refine ⟨by decide, _, plainRun_report (by decide +kernel) .html, ?_⟩
  -- the region is rendered as it stands
  have hbody : htmlOpener <:+:
      (renderBody Html.backEnd true (Script.read ["%", "#"] [] regionScript).1.body {}).1 := by
    rw [← Text.contains_eq_true_iff]
    decide +kernel
  have hfound : Text.contains htmlOpener
      (htmlFront true (Script.read ["%", "#"] [] regionScript).1) = true :=
    Text.contains_eq_true_iff.mpr (hbody.trans (renderBody_infix_htmlFront _ _))
  rw [report_html, Document.sourceText, read_sourceLines, Ne, extractSource_htmlReport_iff, hfound]
  exact Bool.noConfusion

/-! ## LaTeX -/

/-- The script comes back from its report in LaTeX exactly if there is no opener of HTML in the
    report, and none of LaTeX before the environment that keeps the script. -/
theorem latex_round_trip_iff {comments : List Chars} {o : Options} {sourceName : Chars}
    {base : Option IncludeBase} {e : Evaluator σ κ} {lines : List Chars} {s : σ} {report : Chars}
    (hformat : o.format = Format.latex.name)
    (hreport : (publishText comments o sourceName base e lines s).report = .ok report) :
    ∃ before, report = latexReport before (Text.unlines lines) ∧
      (extractSource report = .ok (Text.unlines lines) ↔
        Text.contains htmlOpener report = false ∧ Text.contains latexOpener before = false) := by
  obtain ⟨doc, hfills, hdoc⟩ := exists_fills_of_report hreport
  rw [reportOf_format hformat, report_latex, hfills.sourceText_eq] at hdoc
  cases hdoc
  exact ⟨_, rfl, extractSource_latexReport_iff _ _⟩

/-- A script that holds and prints the marks comes back from its report in LaTeX. -/
theorem latex_round_trip_of_markedScript :
    ∃ report, (markedRun .latex).report = .ok report ∧
      extractSource report = .ok (Text.unlines markedScript) := by
  have hreport := markedRun_report .latex
  obtain ⟨before, hbefore, hiff⟩ := latex_round_trip_iff rfl hreport
  rw [report_latex, sourceText_markedDocument] at hreport hbefore hiff
  rw [← latexReport_cancel hbefore] at hiff
  exact ⟨_, hreport, hiff.mpr ⟨by decide +kernel, by decide +kernel⟩⟩

/-- A script with a comment block that holds an opener of HTML. -/
def blockCommentScript : List Chars :=
  ["%\x7b", "<!--", "##### SOURCE BEGIN #####", "%\x7d", "x = 1;"]

/-- The opener of HTML in the listing is taken for that of a footer. -/
theorem latex_round_trip_fails :
    (unevaluated .latex).isValid = true ∧
      ∃ report, (plainRun .latex blockCommentScript).report = .ok report ∧
        extractSource report ≠ .ok (Text.unlines blockCommentScript) := by
  refine ⟨by decide, _, plainRun_report (by decide +kernel) .latex, ?_⟩
  have hscript : htmlOpener <:+: Text.unlines blockCommentScript := by
    rw [← Text.contains_eq_true_iff]
    decide
  have hfound : Text.contains htmlOpener (latexReport
      (latexFront true (Script.read ["%", "#"] [] blockCommentScript).1)
      (Text.unlines blockCommentScript)) = true :=
    Text.contains_eq_true_iff.mpr (hscript.trans (List.infix_append _ _ _))
  rw [report_latex, Document.sourceText, read_sourceLines, Ne, extractSource_latexReport_iff,
    hfound]
  exact fun h => Bool.noConfusion h.1

end ScriptReport.Publish

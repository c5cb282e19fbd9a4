/-
  ScriptReport.Proofs.Publish.ReportFile

  What a run of the publisher does to the files. A run makes directories, runs the code of the
  script, and writes the report as its last step (`isPublishing_of_publishWith`). So a run that is
  stopped at one of its steps leaves each file as it was, an earlier report among them, and adds
  none; only the code itself can have changed one. Main statement: `reports_kept_of_error`. The last
  step is taken as a whole: on a disk here there is always room for what is written.
-/

import ScriptReport.Proofs.Evaluation.WrittenFiles
import ScriptReport.Publish.Report

namespace ScriptReport.Publish

open ScriptReport.Script ScriptReport.Evaluation

variable {σ κ : Type} {evaluator : Interpreter → Evaluator (σ × World) κ} {config : Config}
  {given : Option Options} {path : Path} {s s' : σ} {w w' : World} {answer : Except Fault Path}
  {fault : Fault} {place : Place} {content : Text.Octets} {P : Disk → Prop}

/-! ## Runs -/

/-- The lines of a script published as a plan asks for, on the disk on which its directories have
    been made. -/
def Plan.textRun (p : Plan) (evaluator : Interpreter → Evaluator (σ × World) κ) (config : Config)
    (ready : Disk) (lines : List Chars) (s : σ) (w : World) : TextRun (σ × World) :=
  publishText config.comments p.options p.script.name (some ⟨ready, p.script⟩)
    (evaluator (p.interpreter config)) lines (s, { w with disk := ready })

/-- Everything a run can do: it is stopped before the directories of the report are made, while they
    are made, by the script, by its report, or when the report is written; or it writes the report. -/
inductive IsPublishing (evaluator : Interpreter → Evaluator (σ × World) κ) (config : Config)
    (given : Option Options) (path : Path) (s : σ) (w : World) :
    Except Fault Path → σ → World → Prop where
  | unplanned {fault : Fault} (planned : plan config given w.disk path = .error fault) :
      IsPublishing evaluator config given path s w (.error fault) s w
  | noDirectory {p : Plan} {ready : Disk} {fault : FileFault}
      (planned : plan config given w.disk path = .ok p)
      (made : w.disk.makeDirectories p.output.parent = (ready, some fault)) :
      IsPublishing evaluator config given path s w (.error (.file fault)) s { w with disk := ready }
  | unread {p : Plan} {ready : Disk} {fault : Fault}
      (planned : plan config given w.disk path = .ok p)
      (made : w.disk.makeDirectories p.output.parent = (ready, none))
      (read : readScriptLines ready p.script = .error fault) :
      IsPublishing evaluator config given path s w (.error fault) s { w with disk := ready }
  | stopped {p : Plan} {ready : Disk} {lines : List Chars} {run : TextRun (σ × World)} {fault : Fault}
      (planned : plan config given w.disk path = .ok p)
      (made : w.disk.makeDirectories p.output.parent = (ready, none))
      (read : readScriptLines ready p.script = .ok lines)
      (run_eq : p.textRun evaluator config ready lines s w = run)
      (report : run.report = .error fault) :
      IsPublishing evaluator config given path s w (.error fault) run.state.1
        (run.state.2.warn run.warnings)
  | unwritten {p : Plan} {ready : Disk} {lines : List Chars} {run : TextRun (σ × World)}
      {text : Chars} {fault : FileFault}
      (planned : plan config given w.disk path = .ok p)
      (made : w.disk.makeDirectories p.output.parent = (ready, none))
      (read : readScriptLines ready p.script = .ok lines)
      (run_eq : p.textRun evaluator config ready lines s w = run)
      (report : run.report = .ok text)
      (write : run.state.2.disk.write p.output (Text.Utf8.encode text) = .error fault) :
      IsPublishing evaluator config given path s w (.error (.file fault)) run.state.1
        (run.state.2.warn run.warnings)
  | written {p : Plan} {ready disk : Disk} {lines : List Chars} {run : TextRun (σ × World)}
      {text : Chars} (planned : plan config given w.disk path = .ok p)
      (made : w.disk.makeDirectories p.output.parent = (ready, none))
      (read : readScriptLines ready p.script = .ok lines)
      (run_eq : p.textRun evaluator config ready lines s w = run)
      (report : run.report = .ok text)
      (write : run.state.2.disk.write p.output (Text.Utf8.encode text) = .ok disk) :
      IsPublishing evaluator config given path s w (.ok p.output) run.state.1
        { run.state.2.warn run.warnings with disk }

theorem isPublishing_of_publishWith
    (h : publishWith evaluator config given path s w = (answer, s', w')) :
    IsPublishing evaluator config given path s w answer s' w' := by
  -- the run is taken apart from its first step to its last, each of which can stop it
  rw [publishWith] at h
  split at h
  · next fault hplan =>
    cases h
    exact .unplanned hplan
  next p hplan =>
  split at h
  · next ready fault hmade =>
    cases h
    exact .noDirectory hplan hmade
  next ready hmade =>
  split at h
  · next fault hread =>
    cases h
    exact .unread hplan hmade hread
  next lines hread =>
  obtain ⟨run, hrun⟩ : ∃ run, p.textRun evaluator config ready lines s w = run := ⟨_, rfl⟩
  have hrun' := hrun
  rw [Plan.textRun] at hrun'
  simp only [hrun'] at h
  split at h
  · next fault hreport =>
    cases h
    exact .stopped hplan hmade hread hrun hreport
  next text hreport =>
  split at h
  · next fault hwrite =>
    cases h
    exact .unwritten hplan hmade hread hrun hreport hwrite
  · next disk hwrite =>
    cases h
    exact .written hplan hmade hread hrun hreport hwrite

/-! ## The code of a script -/

/-- The state behind the lines of a script is that behind their document. -/
theorem state_of_prepare {comments : List Chars} {o : Options} {name : Chars}
    {base : Option IncludeBase} {lines : List Chars} {doc : Document} {warnings : List Warning}
    (h : prepare comments name base lines = (doc, warnings, none)) (e : Evaluator σ κ) (s : σ) :
    (publishText comments o name base e lines s).state = (evaluateIf e o doc s).2.2 := by
  rw [publishText, h]
  rcases hrun : evaluateIf e o doc s with ⟨later, none | fault, after⟩
  · simp only [hrun]
  · simp only [hrun]

/-- How the code of a script is run: on the disk `ready`, on which the directories of the report have
    been made, for the document of the script; `after` is the disk behind it. -/
structure RunsCode (evaluator : Interpreter → Evaluator (σ × World) κ) (config : Config)
    (given : Option Options) (path : Path) (s : σ) (w : World) (p : Plan) (ready : Disk)
    (doc : Document) (after : Disk) : Prop where
  planned : plan config given w.disk path = .ok p
  made : w.disk.makeDirectories p.output.parent = (ready, none)
  prepared : ∃ lines warnings, readScriptLines ready p.script = .ok lines ∧
    prepare config.comments p.script.name (some ⟨ready, p.script⟩) lines = (doc, warnings, none)
  asked_for : p.options.evalCode = true
  after_eq : after = (evaluate (evaluator (p.interpreter config)) p.options doc
    (s, { w with disk := ready })).2.2.2.disk

/-- The lines of a script leave the disk as it was, or its code is run once. -/
theorem disk_of_textRun {p : Plan} {ready : Disk} {lines : List Chars} {run : TextRun (σ × World)}
    (hplan : plan config given w.disk path = .ok p)
    (hmade : w.disk.makeDirectories p.output.parent = (ready, none))
    (hread : readScriptLines ready p.script = .ok lines)
    (hrun : p.textRun evaluator config ready lines s w = run) :
    run.state.2.disk = ready ∨
      ∃ doc, RunsCode evaluator config given path s w p ready doc run.state.2.disk := by
  subst hrun
  rw [Plan.textRun]
  rcases hprepare : prepare config.comments p.script.name (some ⟨ready, p.script⟩) lines with
    ⟨doc, warnings, none | fault⟩
  · rw [state_of_prepare hprepare, evaluateIf]
    by_cases heval : p.options.evalCode = true
    · rw [if_pos heval]
      exact .inr ⟨doc, hplan, hmade, ⟨lines, warnings, hread, hprepare⟩, heval, rfl⟩
    · rw [if_neg heval]
      exact .inl rfl
  · -- the run is stopped before its code
    rw [publishText, hprepare]
    exact .inl rfl

/-! ## What holds behind a run -/

/-- Running the code of the script has ended what held of the disk; `after` is the disk behind it. -/
def IsEndedByCode (evaluator : Interpreter → Evaluator (σ × World) κ) (config : Config)
    (given : Option Options) (path : Path) (s : σ) (w : World) (after : Disk) (P : Disk → Prop) :
    Prop :=
  ∃ p ready doc, RunsCode evaluator config given path s w p ready doc after ∧ P ready ∧ ¬ P after

/-- What holds of the disk with the directories of the report holds behind the lines of the script,
    unless running its code ends it. -/
theorem holds_of_textRun {p : Plan} {ready : Disk} {lines : List Chars} {run : TextRun (σ × World)}
    (hplan : plan config given w.disk path = .ok p)
    (hmade : w.disk.makeDirectories p.output.parent = (ready, none))
    (hread : readScriptLines ready p.script = .ok lines)
    (hrun : p.textRun evaluator config ready lines s w = run) (hready : P ready) :
    P run.state.2.disk ∨
      IsEndedByCode evaluator config given path s w run.state.2.disk P := by
  by_cases hafter : P run.state.2.disk
  · exact .inl hafter
  · rcases disk_of_textRun hplan hmade hread hrun with hsame | ⟨doc, hruns⟩
    · rw [hsame] at hafter
      exact absurd hready hafter
    · exact .inr ⟨p, ready, doc, hruns, hready, hafter⟩

/-- What holds of the disk and is not ended when directories are added holds behind a run that is
    stopped, unless running the code of the script ends it. -/
theorem holds_of_error
    (h : publishWith evaluator config given path s w = (.error fault, s', w')) (hstart : P w.disk)
    (hkept : ∀ ready, w.disk.AddsDirectories ready → ready.cwd = w.disk.cwd → P ready) :
    P w'.disk ∨ IsEndedByCode evaluator config given path s w w'.disk P := by
  -- whether the directories could all be made or not
  have hready {p : Plan} {ready : Disk} {stopped : Option FileFault}
      (hmade : w.disk.makeDirectories p.output.parent = (ready, stopped)) : P ready := by
    obtain ⟨hadds, hcwd⟩ := Disk.addsDirectories_of_makeDirectories hmade
    exact hkept ready hadds hcwd
  generalize hanswer : Except.error fault = answer at h
  cases isPublishing_of_publishWith h with
  | unplanned => exact .inl hstart
  | noDirectory _ made => exact .inl (hready made)
  | unread _ made => exact .inl (hready made)
  | stopped planned made read run_eq =>
    exact holds_of_textRun planned made read run_eq (hready made)
  | unwritten planned made read run_eq =>
    exact holds_of_textRun planned made read run_eq (hready made)
  | written => cases hanswer

theorem publishWith_interpreter (config : Config) (given : Option Options) (path : Path) (w : World) :
    publishWith Interpreter.evaluator config given path 0 w =
      ((publish config given path w).1,
        (publishWith Interpreter.evaluator config given path 0 w).2.1,
        (publish config given path w).2) := rfl

/-- A run that is stopped by a fault of one of its steps, with whatever evaluator, leaves at each place
    the file that stood there, and no other; and what was read at the path of the report is read
    there still. Only the code of the script can have changed that, if it was run; and if it was run by
    the interpreter, then only one of its processes, or the removal of its context file. -/
theorem reports_kept_of_error (config : Config) (given : Option Options) (path : Path) (w : World) :
    (∀ {σ κ : Type} (evaluator : Interpreter → Evaluator (σ × World) κ) (s s' : σ) (fault : Fault)
      (w' : World), publishWith evaluator config given path s w = (.error fault, s', w') →
      (∀ place, w.disk.KeepsFile w'.disk place ∨
        IsEndedByCode evaluator config given path s w w'.disk fun disk =>
          w.disk.KeepsFile disk place) ∧
      ∀ p content, plan config given w.disk path = .ok p → w.disk.read p.output = .ok content →
        w'.disk.read p.output = .ok content ∨
          IsEndedByCode evaluator config given path s w w'.disk fun disk =>
            disk.read p.output = .ok content) ∧
    ∀ (fault : Fault) (w' : World), publish config given path w = (.error fault, w') →
      ∀ place, w.disk.KeepsFile w'.disk place ∨
        ∃ p ready doc, RunsCode Interpreter.evaluator config given path 0 w p ready doc w'.disk ∧
          (p.interpreter config).Alters p.options doc (0, { w with disk := ready }) place := by
  have hplaces {σ κ : Type} {evaluator : Interpreter → Evaluator (σ × World) κ} {s s' : σ}
      {fault : Fault} {w' : World}
      (h : publishWith evaluator config given path s w = (.error fault, s', w')) (place : Place) :
      w.disk.KeepsFile w'.disk place ∨
        IsEndedByCode evaluator config given path s w w'.disk fun disk =>
          w.disk.KeepsFile disk place := by
    apply holds_of_error (P := fun disk => w.disk.KeepsFile disk place) h
    · exact Disk.keepsFile_of_eq rfl
    · exact fun ready hadds _ => hadds.keepsFile place
  constructor
  · intro σ κ evaluator s s' fault w' h
    refine ⟨hplaces h, fun p content hplan hread => ?_⟩
    apply holds_of_error (P := fun disk => disk.read p.output = .ok content) h hread
    exact fun ready hadds hcwd => hadds.read_eq hcwd hread
  · intro fault w' h place
    have hrun := publishWith_interpreter config given path w
    rw [h] at hrun
    refine (hplaces hrun place).imp_right ?_
    rintro ⟨p, ready, doc, hruns, hheld, hended⟩
    refine ⟨p, ready, doc, hruns, ?_⟩
    -- otherwise the code would have left the file as it was
    by_contra hnot
    have hcode := Interpreter.keepsFile_of_evaluate hnot
    have hafter := hruns.after_eq
    apply hended
    rw [hafter]
    exact hheld.trans hcode

/-- A script that fails, and the report of an earlier run. -/
def failsAgain : World where
  disk := {
    tree := ⟨[
      (["a.m"], .file (Text.Utf8.encode "x = 1;\n")),
      (["html"], .directory),
      (["html", "a.html"], .file (Text.Utf8.encode "earlier"))]⟩
    cwd := []
    home := "/" }
  replies := [{ status := 1, errors := "error: x undefined" }]

/-- Options under which the failure is not caught. -/
def uncaught : Options := { catchError := false }

set_option maxRecDepth 4000 in
/-- The report of the earlier run is read behind the failure. -/
theorem reports_kept_of_error_of_failsAgain :
    ∃ fault w', publish {} (some uncaught) (Path.ofText "a.m") failsAgain = (.error fault, w') ∧
      w'.disk.read (Path.ofText "/html/a.html") = .ok (Text.Utf8.encode "earlier") := by
  -- the process of the code writes nothing
  obtain ⟨hfault, hafter⟩ :
      (publish {} (some uncaught) (Path.ofText "a.m") failsAgain).1 =
          .error (.evaluation "x undefined" []) ∧
        (publish {} (some uncaught) (Path.ofText "a.m") failsAgain).2.disk.read
          (Path.ofText "/html/a.html") = .ok (Text.Utf8.encode "earlier") := by cbv
  have hplan : plan {} (some uncaught) failsAgain.disk (Path.ofText "a.m") =
      .ok ⟨Path.ofText "/a.m", uncaught, Path.ofText "/html/a.html"⟩ := by cbv
  have hread : failsAgain.disk.read (Path.ofText "/html/a.html") =
      .ok (Text.Utf8.encode "earlier") := by cbv
  have hrun := publishWith_interpreter {} (some uncaught) (Path.ofText "a.m") failsAgain
  rw [hfault] at hrun
  refine ⟨_, _, Prod.ext hfault rfl, ?_⟩
  rcases ((reports_kept_of_error {} (some uncaught) (Path.ofText "a.m") failsAgain).1
    Interpreter.evaluator 0 _ _ _ hrun).2 _ _ hplan hread with hkept | ⟨p, ready, doc, -, -, hended⟩
  · exact hkept
  · exact absurd hafter hended

end ScriptReport.Publish

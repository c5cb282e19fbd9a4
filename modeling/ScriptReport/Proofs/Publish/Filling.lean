/-
  ScriptReport.Proofs.Publish.Filling

  What becomes of a document between reading its script and rendering it. Included files put texts
  in items, and running the code puts results in segments of code; both leave alone the lines of the
  script, and which items are raw HTML. Main statement: the document that a report of lines is made
  from is the one read from these lines, filled in (`exists_fills_of_report`).
-/

import ScriptReport.Proofs.Evaluation.Results
import ScriptReport.Proofs.Report.HtmlPage
import ScriptReport.Publish.Report

namespace ScriptReport.Publish

open ScriptReport.Script ScriptReport.Evaluation ScriptReport.Report
open ScriptReport.Report.Html (HasNoRaw isRaw isTame)

variable {σ κ : Type}

/-! ## Included files and results -/

/-- Reading the included files makes no item raw. -/
theorem map_isRaw_includeInItems (disk : Disk) (script : Path) (items : List Item) :
    (includeInItems disk script items).1.map isRaw = items.map isRaw := by
  fun_induction includeInItems disk script items with
  | case1 => rfl
  | case2 path text rest content _ items warnings fault hrest ih =>
    rw [hrest] at ih
    rw [List.map_cons, List.map_cons, ih]
    rfl
  | case3 path text rest fault _ _ items warnings later hrest ih =>
    rw [hrest] at ih
    rw [List.map_cons, List.map_cons, ih]
  | case4 => rfl
  | case5 item rest _ items warnings fault hrest ih =>
    rw [hrest] at ih
    rw [List.map_cons, List.map_cons, ih]

/-- A header is tame by what kinds of items stand under it. -/
theorem isTame_header (h : HeaderSegment) :
    isTame (.header h) = (h.content.map isRaw).all (! ·) := by
  rw [isTame, List.all_map]
  rfl

theorem map_isTame_includeInSegments (disk : Disk) (script : Path) (segments : List Segment) :
    (includeInSegments disk script segments).1.map isTame = segments.map isTame := by
  induction segments with
  | nil => rfl
  | cons segment rest ih =>
    cases segment with
    | code c => exact congrArg (true :: ·) ih
    | header h =>
      have hcontent := map_isRaw_includeInItems disk script h.content
      rw [includeInSegments]
      split
      · next hitems =>
        rw [hitems] at hcontent
        rw [List.map_cons, List.map_cons, isTame_header, isTame_header, ← hcontent]
      · next hitems =>
        rw [hitems] at hcontent
        rw [List.map_cons, List.map_cons, isTame_header, isTame_header, ← hcontent, ih]

/-- Results say nothing about what stands under a header. -/
theorem isTame_bare (segment : Segment) : isTame segment.bare = isTame segment := by
  cases segment with
  | code c => rfl
  | header h => rfl

/-! ## Filling in -/

/-- `later` is `doc` with included texts and results filled in: it keeps the script, and where
    there is raw HTML. -/
structure Fills (doc later : Document) : Prop where
  sourceLines_eq : later.sourceLines = doc.sourceLines
  intro_eq : later.intro.map isRaw = doc.intro.map isRaw
  body_eq : later.body.map isTame = doc.body.map isTame

theorem Fills.refl (doc : Document) : Fills doc doc := ⟨rfl, rfl, rfl⟩

theorem Fills.trans {a b c : Document} (hab : Fills a b) (hbc : Fills b c) : Fills a c :=
  ⟨hbc.sourceLines_eq.trans hab.sourceLines_eq, hbc.intro_eq.trans hab.intro_eq,
    hbc.body_eq.trans hab.body_eq⟩

theorem Fills.hasNoRaw {doc later : Document} (h : Fills doc later) (hraw : HasNoRaw doc) :
    HasNoRaw later := by
  have hintro : ∀ raw ∈ doc.intro.map isRaw, raw = false := List.forall_mem_map.mpr hraw.1
  have hbody : ∀ tame ∈ doc.body.map isTame, tame = true := List.forall_mem_map.mpr hraw.2
  rw [← h.intro_eq] at hintro
  rw [← h.body_eq] at hbody
  exact ⟨List.forall_mem_map.mp hintro, List.forall_mem_map.mp hbody⟩

theorem fills_resolveIncludes (disk : Disk) (script : Path) (doc : Document) :
    Fills doc (resolveIncludes disk script doc).1 := by
  have hintro := map_isRaw_includeInItems disk script doc.intro
  have hbody := map_isTame_includeInSegments disk script doc.body
  unfold resolveIncludes
  split
  · next hitems =>
    rw [hitems] at hintro
    exact ⟨rfl, hintro, rfl⟩
  · next hitems =>
    rw [hitems] at hintro
    exact ⟨rfl, hintro, hbody⟩

theorem fills_evaluateIf (e : Evaluator σ κ) (o : Options) (doc : Document) (s : σ) :
    Fills doc (evaluateIf e o doc s).1 := by
  unfold evaluateIf
  split
  · -- a run changes results only
    have hbare := evaluate_bare e o doc s
    have hlines := congrArg Document.sourceLines hbare
    have hintro := congrArg (fun later : Document => later.intro.map isRaw) hbare
    have hbody := congrArg (fun later : Document => later.body.map isTame) hbare
    simp only [Document.bare, List.map_map, Function.comp_def, isTame_bare] at hbody
    exact ⟨hlines, hintro, hbody⟩
  · exact Fills.refl doc

theorem fills_prepare {comments : List Chars} {sourceName : Chars}
    {base : Option IncludeBase} {lines : List Chars} {doc : Document} {warnings : List Warning}
    (h : prepare comments sourceName base lines = (doc, warnings, none)) :
    Fills (Script.read comments sourceName lines).1 doc := by
  unfold prepare at h
  split at h
  · cases h
  · next doc' _ hread =>
    unfold documentOf at hread
    split_ifs at hread
    rw [Except.ok.inj hread]
    cases base with
    | none =>
      cases h
      exact Fills.refl doc
    | some base =>
      rw [← show (resolveIncludes base.disk base.script doc').1 = doc from congrArg Prod.fst h]
      exact fills_resolveIncludes base.disk base.script doc'

/-- A report of lines is the report of the document read from them, filled in. -/
theorem exists_fills_of_report {comments : List Chars} {o : Options} {sourceName : Chars}
    {base : Option IncludeBase} {e : Evaluator σ κ} {lines : List Chars} {s : σ} {report : Chars}
    (h : (publishText comments o sourceName base e lines s).report = .ok report) :
    ∃ doc, Fills (Script.read comments sourceName lines).1 doc ∧ reportOf o doc = .ok report := by
  unfold publishText at h
  split at h
  · cases h
  · next hprepare =>
    split at h
    · cases h
    · next doc _ _ doc' _ hrun =>
      refine ⟨doc', (fills_prepare hprepare).trans ?_, h⟩
      rw [← show (evaluateIf e o doc s).1 = doc' from congrArg Prod.fst hrun]
      exact fills_evaluateIf e o doc s

end ScriptReport.Publish

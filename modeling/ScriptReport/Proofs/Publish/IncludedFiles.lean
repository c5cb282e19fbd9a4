/-
  ScriptReport.Proofs.Publish.IncludedFiles

  The files that a script includes. Reading one of them gives its text, leaves it out with a warning,
  or stops the run; just which it is depends on the files (`readInclude_eq_ok_iff`, `stops_iff`).
  Main statement: unless an include stops the run, every include of a script is filled or left out,
  and the report is made (`resolveIncludes_read`). There are includes that stop it
  (`resolveIncludes_stops`).
-/

import Mathlib
import ScriptReport.Proofs.Files.Resolution
import ScriptReport.Proofs.Publish.Input
import ScriptReport.Proofs.Publish.RoundTrip
import ScriptReport.Proofs.Script.AsRead

namespace ScriptReport.Publish

open ScriptReport.Script ScriptReport.Evaluation ScriptReport.Report

variable {σ κ : Type} {disk : Disk} {script : Path} {path : Chars}

/-! ## One file -/

/-- The include stops the run: some path has no final path, or the file is not in UTF-8. -/
inductive Stops (disk : Disk) (script : Path) (path : Chars) : Prop where
  | directory {fault : FileFault} (hnull : '\x00' ∉ path)
      (hdirectory : disk.resolve false script.parent = .error fault)
  | target {base : Path} {fault : FileFault} (hnull : '\x00' ∉ path)
      (hbase : disk.resolve false script.parent = .ok base)
      (htarget : disk.resolve false (base.append (Path.ofText path)) = .error fault)
  | content {target : Path} {content : Text.Octets} {malformed : Text.Utf8.Fault}
      (htarget : resolveInclude disk path script = .ok target)
      (hread : disk.read target = .ok content)
      (hdecode : Text.Utf8.decode content = .error malformed)

/-- No fault of spelling out a path is recovered from. -/
theorem isRecoverable_of_resolve {given : Path} {fault : FileFault}
    (h : disk.resolve false given = .error fault) : isRecoverable (.file fault) = false := by
  obtain rfl | ⟨text, rfl⟩ := Disk.fault_of_resolve h
  · rfl
  · rfl

/-- At a final path only the system refuses to read, and this is recovered from. -/
theorem isRecoverable_of_read {given final : Path} {fault : FileFault}
    (hfinal : disk.resolve false given = .ok final) (h : disk.read final = .error fault) :
    isRecoverable (.file fault) = true := by
  obtain hlook | ⟨cause, rfl⟩ := Disk.fault_of_read h
  · obtain rfl | ⟨cause, rfl⟩ := Disk.fault_of_look hlook
    · exact absurd hlook (Disk.look_of_resolve hfinal)
    · rfl
  · rfl

/-- The includes that stop the run are those that fail for a reason not recovered from. -/
theorem stops_iff : Stops disk script path ↔
    ∃ fault, readInclude disk path script = .error fault ∧ isRecoverable fault = false := by
  constructor
  · rintro (⟨hnull, hdirectory⟩ | ⟨hnull, hbase, htarget⟩ | ⟨htarget, hread, hdecode⟩)
    · have hresolve := resolveInclude_eq_error_iff.mpr (.inr ⟨hnull, .inl ⟨_, hdirectory, rfl⟩⟩)
      exact ⟨_, readInclude_eq_error_iff.mpr (.inl hresolve), isRecoverable_of_resolve hdirectory⟩
    · have hresolve := resolveInclude_eq_error_iff.mpr
        (.inr ⟨hnull, .inr ⟨_, hbase, .inl ⟨_, htarget, rfl⟩⟩⟩)
      exact ⟨_, readInclude_eq_error_iff.mpr (.inl hresolve), isRecoverable_of_resolve htarget⟩
    · have hlines := readScriptLines_eq_error_iff.mpr (.inr ⟨_, _, hread, hdecode, rfl⟩)
      exact ⟨_, readInclude_eq_error_iff.mpr (.inr ⟨_, htarget, hlines⟩), rfl⟩
  · rintro ⟨fault, hfault, hrecoverable⟩
    obtain hresolve | ⟨target, htarget, hlines⟩ := readInclude_eq_error_iff.mp hfault
    · obtain ⟨-, rfl⟩ | ⟨hnull, ⟨_, hdirectory, rfl⟩ | ⟨base, hbase, h⟩⟩ :=
        resolveInclude_eq_error_iff.mp hresolve
      · cases hrecoverable
      · exact .directory hnull hdirectory
      · obtain ⟨_, hfinal, rfl⟩ | ⟨_, -, -, rfl⟩ := h
        · exact .target hnull hbase hfinal
        · cases hrecoverable
    · obtain ⟨cause, hread, rfl⟩ | ⟨content, malformed, hread, hdecode, rfl⟩ :=
        readScriptLines_eq_error_iff.mp hlines
      · obtain ⟨-, base, -, hfinal, -⟩ := resolveInclude_eq_ok_iff.mp htarget
        rw [isRecoverable_of_read hfinal hread] at hrecoverable
        cases hrecoverable
      · exact .content htarget hread hdecode

theorem not_stops_of_ok {content : Chars} (h : readInclude disk path script = .ok content) :
    ¬ Stops disk script path := by
  intro hstops
  obtain ⟨fault, hfault, -⟩ := stops_iff.mp hstops
  rw [h] at hfault
  cases hfault

theorem stops_iff_of_error {fault : Fault} (h : readInclude disk path script = .error fault) :
    Stops disk script path ↔ isRecoverable fault = false := by
  rw [stops_iff, h]
  constructor
  · rintro ⟨fault', hfault, hrecoverable⟩
    rwa [Except.error.inj hfault]
  · exact fun hrecoverable => ⟨fault, rfl, hrecoverable⟩

/-! ## All files -/

/-- The path of the file that an item includes. -/
def includePath? : Item → Option Chars
  | .included path _ => some path
  | _ => none

/-- The paths of the files that the items include, in order. -/
def includePaths (items : List Item) : List Chars := items.filterMap includePath?

/-- The item with the text of the file that it includes, if that can be read. -/
def fill (disk : Disk) (script : Path) : Item → Item
  | .included path _ => .included path (readInclude disk path script).toOption
  | item => item

/-- The warning for a file that cannot be included. -/
def leftOut? (disk : Disk) (script : Path) (path : Chars) : Option Warning :=
  match readInclude disk path script with
  | .ok _ => none
  | .error fault => some (.cannotInclude path fault.message)

/-- The warnings for the files that cannot be included, in order. -/
def leftOut (disk : Disk) (script : Path) (items : List Item) : List Warning :=
  (includePaths items).filterMap (leftOut? disk script)

theorem includePaths_included (path : Chars) (text : Option Chars) (rest : List Item) :
    includePaths (.included path text :: rest) = path :: includePaths rest := rfl

theorem includePaths_cons_of_ne {item : Item} (h : ∀ path text, item = .included path text → False)
    (rest : List Item) : includePaths (item :: rest) = includePaths rest := by
  cases item with
  | included path text => exact (h path text rfl).elim
  | _ => rfl

theorem fill_of_ne {item : Item} (h : ∀ path text, item = .included path text → False) :
    fill disk script item = item := by
  cases item with
  | included path text => exact (h path text rfl).elim
  | _ => rfl

theorem includePaths_append (front back : List Item) :
    includePaths (front ++ back) = includePaths front ++ includePaths back :=
  List.filterMap_append

theorem leftOut_append (front back : List Item) :
    leftOut disk script (front ++ back) = leftOut disk script front ++ leftOut disk script back := by
  rw [leftOut, includePaths_append, List.filterMap_append]
  rfl

/-- Reading the included files goes through if none of them stops the run. -/
theorem includeInItems_fault_iff (disk : Disk) (script : Path) (items : List Item) :
    (includeInItems disk script items).2.2 = none ↔
      ∀ path ∈ includePaths items, ¬ Stops disk script path := by
  fun_induction includeInItems disk script items with
  | case1 => exact ⟨fun _ _ h => absurd h List.not_mem_nil, fun _ => rfl⟩
  | case2 path text rest content hread items warnings fault hrest ih =>
    -- the file is read
    rw [hrest] at ih
    rw [includePaths_included, List.forall_mem_cons, ← ih]
    exact ⟨fun h => ⟨not_stops_of_ok hread, h⟩, And.right⟩
  | case3 path text rest fault hread hrecoverable items warnings later hrest ih =>
    -- the file is left out
    rw [hrest] at ih
    have hgoes : ¬ Stops disk script path := by
      rw [stops_iff_of_error hread, hrecoverable]
      exact Bool.noConfusion
    rw [includePaths_included, List.forall_mem_cons, ← ih]
    exact ⟨fun h => ⟨hgoes, h⟩, And.right⟩
  | case4 path text rest fault hread hrecoverable =>
    -- the file stops the run
    have hstops : Stops disk script path :=
      (stops_iff_of_error hread).mpr (Bool.eq_false_iff.mpr hrecoverable)
    rw [includePaths_included, List.forall_mem_cons]
    exact ⟨fun h => absurd h (Option.some_ne_none _), fun h => absurd hstops h.1⟩
  | case5 item rest hitem items warnings fault hrest ih =>
    rw [hrest] at ih
    rw [includePaths_cons_of_ne hitem, ← ih]

/-- If reading the included files goes through, each of them is filled in or left out. -/
theorem includeInItems_eq {items : List Item} (hunread : AreUnread items)
    (h : (includeInItems disk script items).2.2 = none) :
    includeInItems disk script items =
      (items.map (fill disk script), leftOut disk script items, none) := by
  fun_induction includeInItems disk script items with
  | case1 => rfl
  | case2 path text rest content hread items warnings fault hrest ih =>
    have hih := hrest.symm.trans (ih (List.forall_mem_cons.mp hunread).2 (hrest ▸ h))
    have hfill : fill disk script (.included path text) = .included path (some content) := by
      rw [fill, hread]
      rfl
    have hwarnings : leftOut disk script (.included path text :: rest) =
        leftOut disk script rest := List.filterMap_cons_none (by rw [leftOut?, hread])
    cases hih
    rw [List.map_cons, hfill, hwarnings]
  | case3 path text rest fault hread hrecoverable items warnings later hrest ih =>
    obtain ⟨hitem, hrestUnread⟩ := List.forall_mem_cons.mp hunread
    have hih := hrest.symm.trans (ih hrestUnread (hrest ▸ h))
    have hfill : fill disk script (.included path text) = .included path text := by
      cases text with
      | none =>
        rw [fill, hread]
        rfl
      | some text => cases hitem
    have hwarnings : leftOut disk script (.included path text :: rest) =
        .cannotInclude path fault.message :: leftOut disk script rest :=
      List.filterMap_cons_some (by rw [leftOut?, hread])
    cases hih
    rw [List.map_cons, hfill, hwarnings]
  | case4 => cases h
  | case5 item rest hitem items warnings fault hrest ih =>
    have hih := hrest.symm.trans (ih (List.forall_mem_cons.mp hunread).2 (hrest ▸ h))
    cases hih
    rw [List.map_cons, fill_of_ne hitem, leftOut, leftOut, includePaths_cons_of_ne hitem]

/-! ## Documents -/

/-- The segment with each item under a header changed. -/
def mapContent (f : Item → Item) : Segment → Segment
  | .code c => .code c
  | .header h => .header { h with content := h.content.map f }

/-- The document with each of its items changed. -/
def mapItems (f : Item → Item) (doc : Document) : Document :=
  { doc with intro := doc.intro.map f, body := doc.body.map (mapContent f) }

theorem items_mapItems (f : Item → Item) (doc : Document) :
    (mapItems f doc).items = doc.items.map f := by
  have hcontent (segment : Segment) :
      (mapContent f segment).content = segment.content.map f := by
    cases segment with
    | code c => rfl
    | header h => rfl
  rw [Document.items, Document.items, List.map_append, List.map_flatMap, mapItems, List.flatMap_map]
  simp only [hcontent]

theorem includeInSegments_fault_iff (disk : Disk) (script : Path) (segments : List Segment) :
    (includeInSegments disk script segments).2.2 = none ↔
      ∀ path ∈ includePaths (segments.flatMap Segment.content), ¬ Stops disk script path := by
  induction segments with
  | nil => exact ⟨fun _ _ h => absurd h List.not_mem_nil, fun _ => rfl⟩
  | cons segment rest ih =>
    cases segment with
    | code c => exact ih
    | header h =>
      have hheader := includeInItems_fault_iff disk script h.content
      rw [List.flatMap_cons, includePaths_append, List.forall_mem_append, ← ih, Segment.content,
        ← hheader, includeInSegments]
      split
      · next hitems =>
        rw [hitems]
        exact ⟨fun h => absurd h (Option.some_ne_none _), fun h => absurd h.1 (Option.some_ne_none _)⟩
      · next hitems =>
        rw [hitems]
        exact ⟨fun h => ⟨rfl, h⟩, And.right⟩

theorem includeInSegments_eq {segments : List Segment}
    (hunread : AreUnread (segments.flatMap Segment.content))
    (h : (includeInSegments disk script segments).2.2 = none) :
    includeInSegments disk script segments =
      (segments.map (mapContent (fill disk script)),
        leftOut disk script (segments.flatMap Segment.content), none) := by
  induction segments with
  | nil => rfl
  | cons segment rest ih =>
    rw [List.flatMap_cons] at hunread ⊢
    cases segment with
    | code c =>
      rw [includeInSegments, ih hunread h]
      rfl
    | header header =>
      obtain ⟨hheader, hrest⟩ := List.forall_mem_append.mp hunread
      rw [includeInSegments] at h ⊢
      split at h
      · cases h
      · next content warnings hitems =>
        have hcontent := includeInItems_eq hheader (congrArg (·.2.2) hitems)
        rw [Segment.content, hitems] at hcontent
        cases hcontent
        simp only [ih hrest h, leftOut_append]
        rfl

theorem resolveIncludes_fault_iff (doc : Document) :
    (resolveIncludes disk script doc).2.2 = none ↔
      ∀ path ∈ includePaths doc.items, ¬ Stops disk script path := by
  have hintro := includeInItems_fault_iff disk script doc.intro
  have hbody := includeInSegments_fault_iff disk script doc.body
  rw [Document.items, includePaths_append, List.forall_mem_append, ← hintro, ← hbody,
    resolveIncludes]
  split
  · next hitems =>
    rw [hitems]
    exact ⟨fun h => absurd h (Option.some_ne_none _), fun h => absurd h.1 (Option.some_ne_none _)⟩
  · next hitems =>
    rw [hitems]
    exact ⟨fun h => ⟨rfl, h⟩, And.right⟩

theorem resolveIncludes_eq {doc : Document} (hunread : AreUnread doc.items)
    (h : (resolveIncludes disk script doc).2.2 = none) :
    resolveIncludes disk script doc =
      (mapItems (fill disk script) doc, leftOut disk script doc.items, none) := by
  obtain ⟨hintro, hbody⟩ := List.forall_mem_append.mp hunread
  rw [resolveIncludes] at h ⊢
  split at h
  · cases h
  · next intro warnings hitems =>
    have hfilled := includeInItems_eq hintro (congrArg (·.2.2) hitems)
    rw [hitems] at hfilled
    cases hfilled
    simp only [includeInSegments_eq hbody h, Document.items, leftOut_append]
    rfl

/-! ## Reports -/

/-- A file that is left out shows nothing. -/
theorem renderItem_leftOut (format : Format) (path : Chars) :
    renderItem (backEnd format) (.included path none) = [] := by
  cases format with
  | html => rfl
  | latex => rfl

/-- The report of a script whose included files are all filled in or left out. -/
theorem publishText_of_resolveIncludes {comments : List Chars} {o : Options} {sourceName : Chars}
    {e : Evaluator σ κ} {lines : List Chars} {s : σ} {format : Format} {filled : Document}
    {more : List Warning} (hshort : hasCutShortLine comments lines = false)
    (hformat : o.format = format.name)
    (hincludes : resolveIncludes disk script (Script.read comments sourceName lines).1 =
      (filled, more, none))
    (hrun : (evaluateIf e o filled s).2.1 = none) :
    publishText comments o sourceName (some ⟨disk, script⟩) e lines s =
      ⟨(Script.read comments sourceName lines).2 ++ more,
        .ok (report format o.showCode (evaluateIf e o filled s).1),
        (evaluateIf e o filled s).2.2⟩ := by
  refine publishText_of_prepare ?_ hrun hformat
  rw [prepare, documentOf_eq_read hshort]
  simp only [hincludes]

/-! ## Main statement -/

/-- Resolving the included files of a script goes through unless one of them stops it. Then each
    include that has a readable text inside the directory is filled in, and every other one is left
    out with one warning, in order; and the report is made, in which it shows nothing. -/
theorem resolveIncludes_read (disk : Disk) (script : Path) (comments : List Chars)
    (sourceName : Chars) (lines : List Chars) :
    let doc := (Script.read comments sourceName lines).1
    let warnings := (Script.read comments sourceName lines).2
    let filled := mapItems (fill disk script) doc
    ((resolveIncludes disk script doc).2.2 = none ↔
      ∀ path ∈ includePaths doc.items, ¬ Stops disk script path) ∧
    ((∀ path ∈ includePaths doc.items, ¬ Stops disk script path) →
      resolveIncludes disk script doc = (filled, leftOut disk script doc.items, none) ∧
      ∀ (σ κ : Type) (o : Options) (format : Format) (e : Evaluator σ κ) (s : σ),
        hasCutShortLine comments lines = false → o.format = format.name →
        (evaluateIf e o filled s).2.1 = none →
        publishText comments o sourceName (some ⟨disk, script⟩) e lines s =
          ⟨warnings ++ leftOut disk script doc.items,
            .ok (report format o.showCode (evaluateIf e o filled s).1),
            (evaluateIf e o filled s).2.2⟩) ∧
    (∀ path text, readInclude disk path script = .ok text ↔
      '\x00' ∉ path ∧ ∃ base target content decoded,
        disk.resolve false script.parent = .ok base ∧
        disk.resolve false (base.append (Path.ofText path)) = .ok target ∧
        target.root = base.root ∧ base.parts <+: target.parts ∧
        disk.read target = .ok content ∧ Text.Utf8.decode content = .ok decoded ∧
        text = Text.unlines (Text.fileLines decoded)) ∧
    ∀ format path, renderItem (backEnd format) (.included path none) = [] := by
  intro doc warnings filled
  have hfault : (resolveIncludes disk script doc).2.2 = none ↔
      ∀ path ∈ includePaths doc.items, ¬ Stops disk script path := resolveIncludes_fault_iff doc
  refine ⟨hfault, fun hgoes => ?_, fun path text => ?_, renderItem_leftOut⟩
  · have hincludes := resolveIncludes_eq (areUnread_read sourceName lines) (hfault.mpr hgoes)
    refine ⟨hincludes, fun σ κ o format e s hshort hformat hrun => ?_⟩
    exact publishText_of_resolveIncludes hshort hformat hincludes hrun
  · rw [readInclude_eq_ok_iff]
    constructor
    · rintro ⟨target, content, decoded, htarget, hread, hdecode, htext⟩
      obtain ⟨hnull, base, hbase, hfinal, hroot, hbelow⟩ := resolveInclude_eq_ok_iff.mp htarget
      exact ⟨hnull, base, target, content, decoded, hbase, hfinal, hroot, hbelow, hread, hdecode,
        htext⟩
    · rintro ⟨hnull, base, target, content, decoded, hbase, hfinal, hroot, hbelow, hread, hdecode,
        htext⟩
      exact ⟨target, content, decoded,
        resolveInclude_eq_ok_iff.mpr ⟨hnull, base, hbase, hfinal, hroot, hbelow⟩, hread, hdecode,
        htext⟩

/-- A directory with a text, a directory, a link that leads out, a file that is not in UTF-8, and a
    link that leads to itself. -/
def includeDisk : Disk where
  tree := ⟨[(["b"], .directory), (["b", "bad.txt"], .file [0xff]), (["b", "in.txt"], .file [97, 10, 98]),
    (["b", "loop"], .link "loop"), (["b", "notes"], .directory),
    (["b", "out.txt"], .link "../out.txt"), (["out.txt"], .file [99])]⟩
  cwd := ["b"]
  home := "/"

/-- A script that includes a text under its title, and what is no text inside its directory. -/
def includeScript : List Chars :=
  ["%% T", "% <include>in.txt</include>", "%", "% <include>out.txt</include>", "%% N",
    "% <include>notes</include>"]

/-- One include is filled in and two are left out. -/
theorem resolveIncludes_read_of_includeScript :
    let doc := (Script.read ["%", "#"] [] includeScript).1
    let script := Path.ofText "main.m"
    let filled := mapItems (fill includeDisk script) doc
    (∀ path ∈ includePaths doc.items, ¬ Stops includeDisk script path) ∧
      filled.items =
        [.included "in.txt" (some "a\nb"), .included "out.txt" none, .included "notes" none] ∧
      leftOut includeDisk script doc.items =
        [.cannotInclude "out.txt" (InputFault.includeOutside "out.txt").message,
          .cannotInclude "notes" (FileFault.system .isDirectory "/b/notes").message] ∧
      publishText ["%", "#"] (unevaluated .html) [] (some ⟨includeDisk, script⟩)
          (Evaluator.idle Unit Unit ()) includeScript () =
        ⟨(Script.read ["%", "#"] [] includeScript).2 ++ leftOut includeDisk script doc.items,
          .ok (report .html true filled), ()⟩ := by
  intro doc script filled
  have hitems : doc.items =
      [.included "in.txt" none, .included "out.txt" none, .included "notes" none] := by
    decide +kernel
  have hin : readInclude includeDisk "in.txt" script = .ok "a\nb" := by cbv
  have hout : readInclude includeDisk "out.txt" script =
      .error (.input (.includeOutside "out.txt")) := by cbv
  have hnotes : readInclude includeDisk "notes" script =
      .error (.file (.system .isDirectory "/b/notes")) := by cbv
  have hgoes : ∀ path ∈ includePaths doc.items, ¬ Stops includeDisk script path := by
    rw [hitems]
    refine List.forall_mem_cons.mpr ⟨not_stops_of_ok hin, List.forall_mem_cons.mpr ⟨?_,
      List.forall_mem_singleton.mpr ?_⟩⟩
    · exact fun h => Bool.noConfusion ((stops_iff_of_error hout).mp h)
    · exact fun h => Bool.noConfusion ((stops_iff_of_error hnotes).mp h)
  have hshort : hasCutShortLine ["%", "#"] includeScript = false := by decide +kernel
  have hmain := resolveIncludes_read includeDisk script ["%", "#"] [] includeScript
  refine ⟨hgoes, ?_, ?_, ?_⟩
  · rw [items_mapItems, hitems]
    simp only [List.map_cons, List.map_nil, fill, hin, hout, hnotes, Except.toOption]
  · rw [hitems]
    simp only [leftOut, includePaths_included, List.filterMap_cons, leftOut?, hin, hout, hnotes]
    rfl
  · exact (hmain.2.1 hgoes).2 Unit Unit (unevaluated .html) .html (Evaluator.idle Unit Unit ()) ()
      hshort rfl rfl

/-- A file that is not in UTF-8, although it lies inside the directory, and a link without an end stop
    the run, and there is no report. -/
theorem resolveIncludes_stops :
    let script := Path.ofText "main.m"
    let fault : Fault := .file (.undecodable ⟨.invalidStart, 0, [0xff]⟩)
    let run (line : Chars) := publishText ["%", "#"] (unevaluated .html) []
      (some ⟨includeDisk, script⟩) (Evaluator.idle Unit Unit ()) ["%% T", line] ()
    resolveInclude includeDisk "bad.txt" script = .ok (Path.ofText "/b/bad.txt") ∧
      includeDisk.read (Path.ofText "/b/bad.txt") = .ok [0xff] ∧
      (resolveIncludes includeDisk script
        (Script.read ["%", "#"] [] ["%% T", "% <include>bad.txt</include>"]).1).2.2 = some fault ∧
      (run "% <include>bad.txt</include>").report = .error fault ∧
      (run "% <include>loop</include>").report = .error (.file (.linkLoop "/b/loop")) := by
  refine ⟨by cbv, by cbv, by cbv, by cbv, by cbv⟩

end ScriptReport.Publish

/-
  ScriptReport.Proofs.Viewer.Confinement

  Files stay inside. Three gates check a path from a user against a directory: for the files that a
  script includes, for the input of a command, and for the requests to the viewer. Each compares
  names, after both paths have been spelled out; that the names say where a file is rests on final
  places (`Proofs.Files`). Main statement: `gates_confine`. It needs that the walk over the path is
  not stopped by a link that leads back to itself: what is left of such a path is added by text
  alone, and may lead anywhere (`gates_leak`).
-/

import Mathlib
import ScriptReport.Proofs.Files.Resolution
import ScriptReport.Proofs.Publish.Input
import ScriptReport.Viewer.Answer

namespace ScriptReport

open FileTree (IsFinal Stands)

/-! ## Confined paths -/

namespace Disk

/-- No link that leads back to itself stops the walk over a name in a directory. -/
def GetsThrough (disk : Disk) (directory : Path) (name : Chars) : Prop :=
  ∀ base, disk.resolve false directory = .ok base →
    ¬ disk.IsStuck (base.append (Path.ofText name))

/-- The final path of a directory is that of `floor`, which is where the system finds it, if it
    does. -/
structure IsFloor (disk : Disk) (strict : Bool) (directory : Path) (floor : Place) : Prop where
  resolve_eq : disk.resolve strict directory = .ok floor.path
  located : ∀ there, disk.locate true directory = .ok there → there = floor

/-- The path is that of a place at or below `floor`, with no link on the way. What the system finds
    by the path is at this place, and what is read is the file there. -/
structure Confines (disk : Disk) (floor : Place) (path : Path) (place : Place) : Prop where
  path_eq : path = place.path
  below : floor <+: place
  isFinal : IsFinal disk.tree place
  located : ∀ there, disk.locate true path = .ok there → there = place
  read_eq : ∀ content, disk.read path = .ok content →
    disk.tree.get? place = some (.file content)

variable {disk : Disk} {strict : Bool} {given final directory base : Path}

/-- A final path that lies at or below that of a directory is confined to it. -/
theorem exists_confines (hcwd : Stands disk.tree disk.cwd) (hstuck : ¬ disk.IsStuck given)
    (hfinal : disk.resolve false given = .ok final)
    (hbase : disk.resolve strict directory = .ok base) (hroot : final.root = base.root)
    (hbelow : base.parts <+: final.parts) :
    ∃ floor place, disk.IsFloor strict directory floor ∧ disk.Confines floor final place := by
  obtain ⟨place, rfl, hplace⟩ := isFinal_of_resolve hcwd.isFinal hstuck hfinal
  -- both start at the one root that places have
  have hfloor : base = Place.path base.parts := by
    rw [Place.path, show PathRoot.slash = base.root from hroot]
  rw [hfloor] at hbase
  refine ⟨base.parts, place, ⟨hbase, fun there hthere => ?_⟩, ?_⟩
  · exact (Path.mk.inj (eq_of_locate hcwd hbase hthere)).2.symm
  · exact {
      path_eq := rfl
      below := hbelow
      isFinal := hplace
      located := fun there hthere => eq_of_locate_path hplace hthere
      read_eq := by
        intro content hread
        obtain ⟨there, hthere, hcontent⟩ := place_of_read hread
        rwa [eq_of_locate_path hplace hthere] at hcontent }

end Disk

namespace Viewer

open Publish

variable {disk : Disk} {name raw : Chars} {script directory root path : Path}

/-! ## The gates -/

theorem resolveInclude_confines (hcwd : Stands disk.tree disk.cwd)
    (hthrough : disk.GetsThrough script.parent name)
    (h : resolveInclude disk name script = .ok path) :
    ∃ floor place, disk.IsFloor false script.parent floor ∧ disk.Confines floor path place := by
  obtain ⟨-, base, hbase, hfinal, hroot, hbelow⟩ := resolveInclude_eq_ok_iff.mp h
  exact Disk.exists_confines hcwd (hthrough base hbase) hfinal hbase hroot hbelow

theorem safeInputPath_confines (hcwd : Stands disk.tree disk.cwd)
    (hthrough : ∀ given, disk.expandHome (Path.ofText raw) = .ok given → ¬ disk.IsStuck given)
    (h : safeInputPath disk raw (some root) = .ok path) :
    ∃ floor place, disk.IsFloor true root floor ∧ disk.Confines floor path place := by
  obtain ⟨given, base, hgiven, hfinal, hbase, hroot, hbelow⟩ := exists_of_safeInputPath h
  exact Disk.exists_confines hcwd (hthrough given hgiven) hfinal hbase hroot hbelow

theorem exists_of_resolveInside (h : resolveInside disk directory name = .ok (some path)) :
    ∃ base, disk.resolve false directory = .ok base ∧
      disk.resolve false (base.append (Path.ofText name)) = .ok path ∧
      path.root = base.root ∧ base.parts <+: path.parts := by
  simp only [resolveInside, bind_eq_ok_iff] at h
  obtain ⟨base, hbase, final, hfinal, h⟩ := h
  split_ifs at h with hbelow
  · cases h
  · simp only [bind_eq_ok_iff] at h
    obtain ⟨_, -, h⟩ := h
    split_ifs at h
    · cases h
    · cases h
      rw [Path.below?_isNone_iff, Decidable.not_not] at hbelow
      exact ⟨base, hbase, hfinal, hbelow⟩

theorem resolveInside_confines (hcwd : Stands disk.tree disk.cwd)
    (hthrough : disk.GetsThrough directory name)
    (h : resolveInside disk directory name = .ok (some path)) :
    ∃ floor place, disk.IsFloor false directory floor ∧ disk.Confines floor path place := by
  obtain ⟨base, hbase, hfinal, hroot, hbelow⟩ := exists_of_resolveInside h
  exact Disk.exists_confines hcwd (hthrough base hbase) hfinal hbase hroot hbelow

/-! ## What is served -/

/-- A page shows the script at the path that the gate lets through. -/
theorem exists_of_viewPage {config : Config} {warnings : List Script.Warning} {body : Chars}
    (h : viewPage config disk directory name = (warnings, .page body)) :
    ∃ base path shown links, disk.resolve false directory = .ok base ∧
      resolveInside disk base name = .ok (some path) ∧
      showScript config disk path = (warnings, .ok shown) ∧
      body = page shown.title links shown.body := by
  unfold viewPage at h
  split at h
  · cases h
  · next base hbase =>
    split at h
    · cases h
    · cases h
    · next path hpath =>
      split_ifs at h
      · cases h
      · split at h
        · cases h
        · next shown hshown =>
          simp only at h
          split at h
          · cases h
          · next links _ =>
            cases h
            exact ⟨base, path, shown, links, hbase, hpath, hshown, rfl⟩

theorem exists_of_showScript {config : Config} {warnings : List Script.Warning} {shown : Shown}
    (h : showScript config disk path = (warnings, .ok shown)) :
    ∃ content decoded doc showCode, disk.read path = .ok content ∧
      Text.Utf8.decode content = .ok decoded ∧
      documentOf config.comments path.name (Text.fileLines decoded) = .ok (doc, warnings) ∧
      shown = ⟨doc.shownTitle, documentBody showCode doc⟩ := by
  unfold showScript at h
  split at h
  · cases h
  · next doc _ hdoc =>
    rw [bind_eq_ok_iff] at hdoc
    obtain ⟨lines, hlines, hdoc⟩ := hdoc
    obtain ⟨content, decoded, hread, hdecode, rfl⟩ := readScriptLines_eq_ok_iff.mp hlines
    split at h
    · cases h
    · next o _ =>
      cases h
      exact ⟨content, decoded, doc, o.showCode, hread, hdecode, hdoc, rfl⟩

/-- The script that a request recovers is that of the report at the path that the gate lets
    through. -/
theorem exists_of_recoverPage {code : Chars}
    (h : recoverPage disk directory name = .plainText code) :
    ∃ path content decoded, resolveInside disk directory name = .ok (some path) ∧
      disk.read path = .ok content ∧ Text.Utf8.decode content = .ok decoded ∧
      Report.extractSource (Text.unifyLineEnds decoded) = .ok code := by
  unfold recoverPage at h
  split at h
  · cases h
  · cases h
  · next path hpath =>
    split_ifs at h
    · split at h
      · next hcode =>
        cases h
        simp only [recoverFile, readReportFile, Disk.readText, check_eq_ok_iff, bind_eq_ok_iff,
          onFiles_eq_ok_iff, pure_eq_ok_iff] at hcode
        obtain ⟨-, _, ⟨decoded, ⟨content, hread, hdecode⟩, rfl⟩, hsource⟩ := hcode
        split at hdecode
        · next hdecoded =>
          cases hdecode
          exact ⟨path, content, decoded, hpath, hread, hdecoded, hsource⟩
        · cases hdecode
      · split_ifs at h

/-! ## Main statement -/

/-- The gate of the viewer, once more for a directory that has been spelled out. -/
theorem resolveInside_final (hcwd : Stands disk.tree disk.cwd) {base : Path}
    (hdirectory : ¬ disk.IsStuck directory) (hbase : disk.resolve false directory = .ok base)
    (h : resolveInside disk base name = .ok (some path)) :
    disk.resolve false (base.append (Path.ofText name)) = .ok path ∧ path.root = base.root ∧
      base.parts <+: path.parts := by
  obtain ⟨base', hbase', hfinal, hbelow⟩ := exists_of_resolveInside h
  obtain ⟨floor, rfl, hfloor⟩ := Disk.isFinal_of_resolve hcwd.isFinal hdirectory hbase
  rw [Disk.resolve_path hfloor hbase'] at hfinal hbelow
  exact ⟨hfinal, hbelow⟩

/-- What the gates let through is confined to the directory they check against, and what is included,
    shown and recovered comes from a file there. -/
theorem gates_confine (disk : Disk) (hcwd : Stands disk.tree disk.cwd) :
    (∀ name script path, disk.GetsThrough script.parent name →
      resolveInclude disk name script = .ok path →
      ∃ floor place, disk.IsFloor false script.parent floor ∧ disk.Confines floor path place) ∧
    (∀ raw root path,
      (∀ given, disk.expandHome (Path.ofText raw) = .ok given → ¬ disk.IsStuck given) →
      safeInputPath disk raw (some root) = .ok path →
      ∃ floor place, disk.IsFloor true root floor ∧ disk.Confines floor path place) ∧
    (∀ directory name path, disk.GetsThrough directory name →
      resolveInside disk directory name = .ok (some path) →
      ∃ floor place, disk.IsFloor false directory floor ∧ disk.Confines floor path place) ∧
    (∀ name script text, disk.GetsThrough script.parent name →
      readInclude disk name script = .ok text →
      ∃ floor place content decoded, disk.IsFloor false script.parent floor ∧ floor <+: place ∧
        disk.tree.get? place = some (.file content) ∧ Text.Utf8.decode content = .ok decoded ∧
        text = Text.unlines (Text.fileLines decoded)) ∧
    (∀ config directory name warnings body, ¬ disk.IsStuck directory →
      disk.GetsThrough directory name →
      viewPage config disk directory name = (warnings, .page body) →
      ∃ floor place content decoded doc showCode links,
        disk.IsFloor false directory floor ∧ floor <+: place ∧
        disk.tree.get? place = some (.file content) ∧ Text.Utf8.decode content = .ok decoded ∧
        documentOf config.comments (Place.path place).name (Text.fileLines decoded) =
          .ok (doc, warnings) ∧
        body = page doc.shownTitle links (documentBody showCode doc)) ∧
    (∀ directory name code, disk.GetsThrough directory name →
      recoverPage disk directory name = .plainText code →
      ∃ floor place content decoded, disk.IsFloor false directory floor ∧ floor <+: place ∧
        disk.tree.get? place = some (.file content) ∧ Text.Utf8.decode content = .ok decoded ∧
        Report.extractSource (Text.unifyLineEnds decoded) = .ok code) := by
  refine ⟨fun name script path => resolveInclude_confines hcwd,
    fun raw root path => safeInputPath_confines hcwd,
    fun directory name path => resolveInside_confines hcwd, ?_, ?_, ?_⟩
  · intro name script text hthrough h
    obtain ⟨path, content, decoded, hpath, hread, hdecode, htext⟩ := readInclude_eq_ok_iff.mp h
    obtain ⟨floor, place, hfloor, hplace⟩ := resolveInclude_confines hcwd hthrough hpath
    exact ⟨floor, place, content, decoded, hfloor, hplace.below, hplace.read_eq content hread,
      hdecode, htext⟩
  · intro config directory name warnings body hdirectory hthrough h
    obtain ⟨base, path, shown, links, hbase, hpath, hshown, rfl⟩ := exists_of_viewPage h
    obtain ⟨content, decoded, doc, showCode, hread, hdecode, hdoc, rfl⟩ :=
      exists_of_showScript hshown
    obtain ⟨hfinal, hroot, hbelow⟩ := resolveInside_final hcwd hdirectory hbase hpath
    obtain ⟨floor, place, hfloor, hplace⟩ :=
      Disk.exists_confines hcwd (hthrough base hbase) hfinal hbase hroot hbelow
    rw [hplace.path_eq] at hdoc
    exact ⟨floor, place, content, decoded, doc, showCode, links, hfloor, hplace.below,
      hplace.read_eq content hread, hdecode, hdoc, rfl⟩
  · intro directory name code hthrough h
    obtain ⟨path, content, decoded, hpath, hread, hdecode, hcode⟩ := exists_of_recoverPage h
    obtain ⟨floor, place, hfloor, hplace⟩ := resolveInside_confines hcwd hthrough hpath
    exact ⟨floor, place, content, decoded, hfloor, hplace.below, hplace.read_eq content hread,
      hdecode, hcode⟩

/-- A directory with a link that stays inside, one that leads out, one that leads to itself, and one
    that leads past the latter. -/
def leakyDisk : Disk where
  tree := ⟨[(["b"], .directory), (["b", "in.m"], .link "deep/x.m"), (["b", "deep"], .directory),
    (["b", "deep", "x.m"], .file [120]), (["b", "loop"], .link "loop"),
    (["b", "out.m"], .link "../secret.m"), (["b", "past.m"], .link "loop/../out.m"),
    (["secret.m"], .file [115])]⟩
  cwd := ["b"]
  home := "/"

/-- A file that is included through a link. -/
theorem gates_confine_of_link :
    let script := Path.ofText "main.m"
    let path := Path.ofText "/b/deep/x.m"
    Stands leakyDisk.tree leakyDisk.cwd ∧ leakyDisk.GetsThrough script.parent "in.m" ∧
      resolveInclude leakyDisk "in.m" script = .ok path ∧
      ∃ floor place, leakyDisk.IsFloor false script.parent floor ∧
        leakyDisk.Confines floor path place := by
  have hcwd : Stands leakyDisk.tree leakyDisk.cwd := ⟨by decide, by cbv⟩
  have hthrough : leakyDisk.GetsThrough (Path.ofText "main.m").parent "in.m" := by
    intro base hbase
    rw [show leakyDisk.resolve false (Path.ofText "main.m").parent = .ok (Place.path ["b"]) by
      cbv] at hbase
    cases hbase
    rintro ⟨spot, left, hwalk⟩
    rw [show leakyDisk.walk false ((Place.path ["b"]).append (Path.ofText "in.m")) =
      .ok (.final ⟨true, ["b", "deep", "x.m"]⟩) by cbv] at hwalk
    cases hwalk
  have hpath : resolveInclude leakyDisk "in.m" (Path.ofText "main.m") =
      .ok (Path.ofText "/b/deep/x.m") := by cbv
  exact ⟨hcwd, hthrough, hpath, (gates_confine leakyDisk hcwd).1 _ _ _ hthrough hpath⟩

/-- What is left behind a link that leads to itself is added by text alone. So each gate lets through
    the name of a link that leads out, and a file outside is read. -/
theorem gates_leak :
    let out := Path.ofText "/b/out.m"
    leakyDisk.locate true out = .ok ["secret.m"] ∧ ¬ ["b".toList] <+: ["secret.m".toList] ∧
      leakyDisk.resolve true (Path.ofText "/b") = .ok (Place.path ["b"]) ∧
      resolveInclude leakyDisk "loop/../out.m" (Path.ofText "/b/main.m") = .ok out ∧
      safeInputPath leakyDisk "past.m" (some (Path.ofText "/b")) = .ok out ∧
      resolveInside leakyDisk (Path.ofText "/b") "past.m" = .ok (some out) ∧
      readInclude leakyDisk "loop/../out.m" (Path.ofText "/b/main.m") = .ok "s" := by
  refine ⟨by cbv, by decide, by cbv, by cbv, by cbv, by cbv, by cbv⟩

end Viewer

end ScriptReport

/-
  ScriptReport.Proofs.Viewer.LinkedScript

  What is behind the links of the sidebar. The listing looks at the paths below the script directory
  as they are named; the viewer looks at where a name leads once all links are followed. A router
  that knows the pages of scripts gives back the path that a link was made of, and the path leads
  from the final path of the directory to the same file as from the directory itself. So whether a
  listed script is shown depends only on where its file is and what it is called there. Main
  statement: `listed_script_answered`. A listed script need not be shown: its file may lie outside,
  or have another extension (`listed_script_refused`).
-/

import Mathlib
import ScriptReport.Proofs.Files.Descent
import ScriptReport.Proofs.Settings.Accepted
import ScriptReport.Proofs.Viewer.ShownScript
import ScriptReport.Proofs.Viewer.Sidebar
import ScriptReport.Viewer.Route

namespace ScriptReport.Viewer

open FileTree (Stands)
open Url (encode Location)

/-! ## Routers -/

/-- A router knows the pages of scripts: behind `/view/` stands the encoded name of a script, which
    may have slashes inside. -/
structure Router.KnowsScripts (router : Router) : Prop where
  view_eq {name : Chars} (nonempty : name ≠ []) (front : name.head? ≠ some '/')
    (oneLine : '\n' ∉ name) : router ("/view/" ++ encode name) = .ok (.view name)

theorem serverOf_ofPath (path : Chars) :
    serverOf (.ofPath path) = .ok ⟨usualScheme, usualHost, ['/'], [], []⟩ := by
  have husual : serverOf (.ofPath []) = .ok ⟨usualScheme, usualHost, ['/'], [], []⟩ := by cbv
  exact husual

theorem sentPath_ofPath {path : Chars} (hsplit : Url.split path = .ok (.ofPath path)) :
    sentPath (.ofPath path) = .ok path := by
  have hquery : (Location.ofPath path).query = [] := rfl
  have hpath : (Location.ofPath path).path = path := rfl
  have htext : (Location.ofPath path).text = path := rfl
  simp only [sentPath, hquery, if_true, hpath, hsplit, Url.withAsciiHost_ofPath, htext, bind,
    Except.bind, pure, Except.pure]

/-- The request for an encoded path asks the usual server for the path. -/
theorem ofUrl_encode {path : Chars} (hslashes : ¬ ("//" : Chars) <+: encode path) :
    Request.ofUrl (encode path) = .ok ⟨usualScheme, usualHost, path⟩ := by
  have hsplit := Url.split_of_isLinkChar (fun _ => Url.isLinkChar_of_mem_encode) hslashes
  simp only [Request.ofUrl, hsplit, sentPath_ofPath hsplit, serverOf_ofPath, bind, Except.bind, pure,
    Except.pure, Url.decode_encode]

theorem ofUrl_view (name : Chars) :
    Request.ofUrl ("/view/" ++ encode name) = .ok ⟨usualScheme, usualHost, "/view/" ++ name⟩ := by
  have hencoded : "/view/" ++ encode name = encode ("/view/" ++ name) := by
    have hroute : encode "/view/" = "/view/" := by cbv
    rw [Url.encode_append, hroute]
  have hslashes : ¬ ("//" : Chars) <+: "/view/" ++ encode name := by
    rintro ⟨rest, hrest⟩
    have hsecond := congrArg (·[1]?) hrest
    cases hsecond
  rw [hencoded] at hslashes ⊢
  exact ofUrl_encode hslashes

/-- The usual server has a name. -/
theorem hasServerName_usual (path : Chars) :
    Request.hasServerName ⟨usualScheme, usualHost, path⟩ = true := by
  have husual : Request.hasServerName ⟨usualScheme, usualHost, []⟩ = true := by cbv
  exact husual

theorem routeOf_view {name : Chars} (h : isRouteName name = true) :
    routeOf ("/view/" ++ name) = .view name := by
  have hdrop : '/' :: (("/view/" : Chars) ++ name).dropWhile (· = '/') = "/view/" ++ name := rfl
  have hmatch : matchRoute ("/view/" ++ name) = some (.view name) := by
    have hafter : Text.afterOpening? "/view/" ("/view/" ++ name) = some name :=
      Text.afterOpening?_append _ _
    rw [matchRoute, if_neg (by simp), directories, List.findSome?_cons]
    dsimp only
    rw [hafter, Option.filter_some, if_pos h]
    rfl
  rw [routeOf, if_neg (by simp), hdrop]
  dsimp only
  rw [hmatch]

/-- The usual router knows the pages of scripts. -/
theorem knowsScripts_usualRouter : usualRouter.KnowsScripts where
  view_eq {name} nonempty front oneLine := by
    have hname : isRouteName name = true := by
      obtain ⟨c, rest, rfl⟩ := List.exists_cons_of_ne_nil nonempty
      have hc : c ≠ '/' := fun hc => front (congrArg some hc)
      have hrest : '\n' ∉ rest := fun hmem => oneLine (.tail c hmem)
      simp [isRouteName, hc, hrest]
    -- a link names no server, and the usual one has a name, so the path alone decides
    rw [usualRouter, ofUrl_view]
    simp only [Except.mapError, bind, Except.bind, Request.route, hasServerName_usual, if_true,
      routeOf_view hname]
    rfl

/-! ## The gate -/

variable {config : Config} {disk : Disk} {directory : Path} {parts : List Chars}
  {content : Text.Octets} {floor goal : Place} {folder : Folder}

/-- The name of a path denotes its parts. -/
theorem ofText_join (hparts : ∀ part ∈ parts, Path.IsPart part) :
    Path.ofText (Text.join "/" parts) = ⟨.relative, parts⟩ := by
  rw [Path.ofText, Path.rootOf_of_head? (Path.head?_join hparts), Path.partsOf_join hparts]

theorem below?_path (floor goal : Place) :
    floor.path.below? goal.path = if floor <+: goal then some (goal.drop floor.length) else none := by
  simp only [Path.below?, Place.path, decide_true, Bool.true_and, List.isPrefixOf_iff_prefix]

/-- The gate lets a listed file through if it lies in the directory with all links followed. -/
theorem resolveInside_of_isBelow (hsound : disk.tree.IsSound)
    (hparts : ∀ part ∈ parts, Path.IsPart part)
    (h : disk.IsBelow directory parts (.file content) floor goal) (hreach : Disk.IsInReach goal) :
    resolveInside disk floor.path (Text.join "/" parts) =
      .ok (if floor <+: goal then some goal.path else none) := by
  have hfile : disk.hasFile goal.path = .ok true :=
    Disk.hasFile_eq_true_iff.mpr ⟨content, Disk.look_path hsound h.stands_goal hreach h.node_eq⟩
  -- the base has been spelled out before, and is spelled out once more
  rw [resolveInside, h.resolve_final, ofText_join hparts]
  simp only [bind, Except.bind, h.resolve_goal, below?_path]
  by_cases hbelow : floor <+: goal
  · simp only [if_pos hbelow, Option.isNone_some, Bool.false_eq_true, if_false, hfile, Bool.not_true]
    rfl
  · simp only [if_neg hbelow, Option.isNone_none, if_true]
    rfl

/-! ## The page -/

/-- The answer that shows a script with the given lines: its document beside the links of a tree. -/
def scriptPage (config : Config) (folder : Folder) (floor goal : Place) (lines : List Chars) :
    List Script.Warning × Answer :=
  let (doc, warnings) := Script.read config.comments goal.path.name lines
  (warnings, .page (page doc.shownTitle
    (treeLinks folder (Text.join "/" (goal.drop floor.length)))
    (documentBody config.showCode doc)))

/-- With a usable configuration, every script that is UTF-8 text is shown. -/
theorem showScript_of_read {path : Path} {text : Chars} (husable : config.IsUsable)
    (hread : disk.read path = .ok content) (hdecode : Text.Utf8.decode content = .ok text) :
    showScript config disk path =
      ((Script.read config.comments path.name (Text.fileLines text)).2,
        .ok ⟨(Script.read config.comments path.name (Text.fileLines text)).1.shownTitle,
          documentBody config.showCode
            (Script.read config.comments path.name (Text.fileLines text)).1⟩) := by
  have hlines : Publish.readScriptLines disk path = .ok (Text.fileLines text) :=
    Publish.readScriptLines_eq_ok_iff.mpr ⟨content, text, hread, hdecode, rfl⟩
  -- both comment texts are single characters, so no line ends inside of one
  have hshort : Script.hasCutShortLine config.comments (Text.fileLines text) = false := by
    obtain ⟨a, b, hcomments⟩ := husable.comments
    rw [hcomments, Script.hasCutShortLine_singles]
  have hdoc : Publish.documentOf config.comments path.name (Text.fileLines text) =
      .ok (Script.read config.comments path.name (Text.fileLines text)) := by
    rw [Publish.documentOf, hshort]
    rfl
  have hvalid : (shownOptions config).isValid = true := by
    have hhtml : (shownOptions config).format = Format.html.name := rfl
    have hlimit : (shownOptions config).maxOutputLines = config.maxOutputLines := rfl
    rw [Options.isValid, hhtml, Format.ofName?_name, hlimit, husable.limit]
    rfl
  have hoptions := fromConfig_eq_ok_iff.mpr ⟨hvalid, rfl⟩
  rw [showScript, hlines]
  simp only [bind, Except.bind, hdoc, hoptions]
  rfl

/-- A listed script is shown if it lies in the directory and has one of the extensions. -/
theorem viewPage_of_isBelow (husable : config.IsUsable) (hsound : disk.tree.IsSound)
    (hparts : ∀ part ∈ parts, Path.IsPart part)
    (h : disk.IsBelow directory parts (.file content) floor goal) (hreach : Disk.IsInReach goal)
    (htree : scriptTree disk directory config.scriptSuffixes = .ok folder)
    {text : Chars} (hdecode : Text.Utf8.decode content = .ok text) (hbelow : floor <+: goal)
    (hsuffix : Text.lower goal.path.suffix ∈ config.scriptSuffixes) :
    viewPage config disk directory (Text.join "/" parts) =
      scriptPage config folder floor goal (Text.fileLines text) := by
  have hinside := resolveInside_of_isBelow hsound hparts h hreach
  rw [if_pos hbelow] at hinside
  have hread : disk.read goal.path = .ok content :=
    Disk.read_of_look (Disk.look_path hsound h.stands_goal hreach h.node_eq)
  have hshown := showScript_of_read husable hread hdecode
  have hcurrent : (floor.path.below? goal.path).getD [] = goal.drop floor.length := by
    rw [below?_path, if_pos hbelow]
    rfl
  have hlinks (current : Chars) :
      sidebar config disk directory current = .ok (treeLinks folder current) := by
    rw [sidebar, htree]
    rfl
  rw [viewPage, h.resolve_floor]
  simp only [hinside, List.contains_iff_mem.mpr hsuffix, hshown, hcurrent, hlinks, Bool.not_true,
    Bool.false_eq_true, if_false, scriptPage]

/-- A listed script is not found if it lies outside the directory or has another extension. -/
theorem viewPage_refused (hsound : disk.tree.IsSound) (hparts : ∀ part ∈ parts, Path.IsPart part)
    (h : disk.IsBelow directory parts (.file content) floor goal) (hreach : Disk.IsInReach goal)
    (hgates : ¬ (floor <+: goal ∧ Text.lower goal.path.suffix ∈ config.scriptSuffixes)) :
    viewPage config disk directory (Text.join "/" parts) = ([], .notFound) := by
  have hinside := resolveInside_of_isBelow hsound hparts h hreach
  rw [viewPage, h.resolve_floor]
  by_cases hbelow : floor <+: goal
  · have hsuffix : config.scriptSuffixes.contains (Text.lower goal.path.suffix) = false :=
      Bool.eq_false_iff.mpr fun hmem => hgates ⟨hbelow, List.contains_iff_mem.mp hmem⟩
    simp only [hinside, if_pos hbelow, hsuffix, Bool.not_false, if_true]
  · simp only [hinside, if_neg hbelow]

/-- The link to a path asks for the page of the path. -/
theorem respond_linkTo {router : Router} (hrouter : router.KnowsScripts) (hne : parts ≠ [])
    (hparts : ∀ part ∈ parts, Path.IsPart part) (hfeed : '\n' ∉ Text.join "/" parts) :
    router.respond config disk directory (linkTo parts) =
      ((viewPage config disk directory (Text.join "/" parts)).1,
        .ok (viewPage config disk directory (Text.join "/" parts)).2) := by
  have hfull : Text.join "/" parts ≠ [] := by
    intro hempty
    -- no text would be left to cut the parts out of
    have hroundtrip := Path.partsOf_join hparts
    rw [hempty] at hroundtrip
    exact hne hroundtrip.symm
  have hroute := hrouter.view_eq hfull (Path.head?_join hparts) hfeed
  rw [Router.respond, linkTo, hroute]
  rfl

/-! ## Listed scripts -/

/-- A path that passes the test leads to a file, and none of its parts is hidden. -/
theorem file_of_isScript {suffixes : List Chars}
    (h : isScript disk directory suffixes parts = .ok true) :
    (∃ content, disk.look { directory with parts := directory.parts ++ parts } =
      .ok (.file content)) ∧ ∀ part ∈ parts, ¬ isHidden part = true := by
  rw [isScript, bind_eq_ok_iff] at h
  obtain ⟨isFile, hfile, h⟩ := h
  have hall := pure_eq_ok_iff.mp h
  simp only [Bool.and_eq_true, Bool.not_eq_true', List.any_eq_false] at hall
  obtain ⟨⟨rfl, -⟩, hhidden⟩ := hall
  exact ⟨Disk.hasFile_eq_true_iff.mp hfile, hhidden⟩

/-- By a listed path the system is led from the directory to a file. -/
theorem exists_isBelow_of_mem_paths (hsound : disk.tree.IsSound) (hcwd : Stands disk.tree disk.cwd)
    {suffixes : List Chars} (htree : scriptTree disk directory suffixes = .ok folder)
    (hlisted : parts ∈ folder.paths) :
    parts ≠ [] ∧ (∀ part ∈ parts, Path.IsPart part) ∧
      ∃ floor goal content, disk.IsBelow directory parts (.file content) floor goal := by
  obtain ⟨hdirectory, place, -, hbelow, hscript⟩ := (mem_paths_scriptTree htree).mp hlisted
  obtain ⟨hne, node, hentry⟩ := mem_below.mp hbelow
  obtain ⟨⟨content, hfile⟩, hhidden⟩ := file_of_isScript hscript
  refine ⟨hne, fun part hpart => ?_, ?_⟩
  · -- points alone are not listed: a part that begins with one is hidden
    obtain ⟨hnil, hslash, -⟩ := hsound.names _ hentry part (List.mem_append_right place hpart)
    refine ⟨hnil, ?_, hslash⟩
    rintro rfl
    exact hhidden _ hpart rfl
  · obtain ⟨floor, goal, hplaces⟩ :=
      Disk.exists_isBelow hsound hcwd (Disk.hasDirectory_eq_true_iff.mp hdirectory) hfile
    exact ⟨floor, goal, content, hplaces⟩

/-! ## Main statement -/

/-- The sidebar links the listed scripts and nothing else, each by its path. By each of them the
    system is led from the directory to a file. If this file lies in the directory with all links
    followed, and has one of the extensions there, the request for the link is answered with the
    page of the script, by every router that knows these pages; if not, it is answered that there is
    no such page. -/
theorem listed_script_answered {router : Router} {config : Config} {disk : Disk} {directory : Path}
    {folder : Folder} (hrouter : router.KnowsScripts) (husable : config.IsUsable)
    (hsound : disk.tree.IsSound) (hcwd : Stands disk.tree disk.cwd)
    (htree : scriptTree disk directory config.scriptSuffixes = .ok folder) :
    (∀ current url, url ∈ hrefs (treeLinks folder current) ↔
      ∃ parts ∈ folder.paths, url = linkTo parts) ∧
    ∀ parts ∈ folder.paths, ∃ floor goal content,
      disk.IsBelow directory parts (.file content) floor goal ∧
      ('\n' ∉ Text.join "/" parts → Disk.IsInReach goal →
        (floor <+: goal → Text.lower goal.path.suffix ∈ config.scriptSuffixes →
          ∀ text, Text.Utf8.decode content = .ok text →
            let (warnings, shown) := scriptPage config folder floor goal (Text.fileLines text)
            router.respond config disk directory (linkTo parts) = (warnings, .ok shown) ∧
              shown.status = 200) ∧
        (¬ (floor <+: goal ∧ Text.lower goal.path.suffix ∈ config.scriptSuffixes) →
          router.respond config disk directory (linkTo parts) = ([], .ok .notFound))) := by
  have hlisted {parts : List Chars} (h : parts ∈ folder.paths) :=
    exists_isBelow_of_mem_paths hsound hcwd htree h
  refine ⟨mem_hrefs_treeLinks fun parts h => (hlisted h).2.1, fun parts h => ?_⟩
  obtain ⟨hne, hparts, floor, goal, content, hplaces⟩ := hlisted h
  refine ⟨floor, goal, content, hplaces, fun hfeed hreach => ?_⟩
  rw [respond_linkTo hrouter hne hparts hfeed]
  constructor
  · intro hbelow hsuffix text hdecode
    rw [viewPage_of_isBelow husable hsound hparts hplaces hreach htree hdecode hbelow hsuffix]
    exact ⟨rfl, rfl⟩
  · intro hgates
    rw [viewPage_refused hsound hparts hplaces hreach hgates]

/-- A script directory with a script in a subdirectory, a link to it, a link that leads out, and a link
    to a file with another extension. -/
def linkedDisk : Disk where
  tree := ⟨[(["b"], .directory), (["b", "in.m"], .link "sub/a b.m"), (["b", "notes.m"], .link "notes"),
    (["b", "notes"], .file [120]), (["b", "out.m"], .link "../secret.m"), (["b", "sub"], .directory),
    (["b", "sub", "a b.m"], .file [120]), (["secret.m"], .file [115])]⟩
  cwd := []
  home := "/"

/-- The tree of its scripts. -/
def linkedFolder : Folder :=
  .mk ["in.m", "notes.m", "out.m"] (.cons "sub" (.mk ["a b.m"] .nil) .nil)

theorem isSound_linkedDisk : linkedDisk.tree.IsSound where
  names := by decide
  targets := by
    intro entry hentry target htarget
    have hall : ∀ entry ∈ linkedDisk.tree.entries, entry.2 = .link "sub/a b.m" ∨
        entry.2 = .link "notes" ∨ entry.2 = .link "../secret.m" ∨
        entry.2 = .directory ∨ entry.2 = .file [120] ∨ entry.2 = .file [115] := by
      decide
    rcases hall entry hentry with hnode | hnode | hnode | hnode | hnode | hnode <;>
      cases htarget.symm.trans hnode
    all_goals decide

theorem scriptTree_linkedDisk :
    scriptTree linkedDisk (Path.ofText "/b") [".m"] = .ok linkedFolder := by cbv

/-- A script behind a link that stays in the directory is shown. -/
theorem listed_script_answered_of_link :
    let directory := Path.ofText "/b"
    usualRouter.KnowsScripts ∧ Config.IsUsable {} ∧ linkedDisk.tree.IsSound ∧
      Stands linkedDisk.tree linkedDisk.cwd ∧
      scriptTree linkedDisk directory [".m"] = .ok linkedFolder ∧
      "/view/in.m".toList ∈ hrefs (treeLinks linkedFolder []) ∧
      ∃ warnings shown,
        usualRouter.respond {} linkedDisk directory "/view/in.m" = (warnings, .ok shown) ∧
          shown.status = 200 := by
  have husable : Config.IsUsable {} := ⟨⟨'%', '#', rfl⟩, ⟨.html, rfl⟩, rfl⟩
  have hcwd : Stands linkedDisk.tree linkedDisk.cwd := FileTree.stands_nil _
  have hlisted : ["in.m".toList] ∈ linkedFolder.paths := by decide
  have hlink : linkTo ["in.m"] = "/view/in.m" := by cbv
  obtain ⟨hlinks, hanswers⟩ :=
    listed_script_answered knowsScripts_usualRouter husable isSound_linkedDisk hcwd scriptTree_linkedDisk
  obtain ⟨floor, goal, content, hplaces, hanswer⟩ := hanswers _ hlisted
  -- the system finds the directory and the file at these places
  have hfloor : linkedDisk.locate true (Path.ofText "/b") = .ok ["b"] := by cbv
  have hgoal : linkedDisk.locate true (Path.ofText "/b/in.m") = .ok ["b", "sub", "a b.m"] := by cbv
  cases hplaces.floor_eq.symm.trans hfloor
  cases hplaces.goal_eq.symm.trans hgoal
  have hcontent : linkedDisk.tree.get? ["b", "sub", "a b.m"] = some (.file [120]) := by decide
  cases hplaces.node_eq.symm.trans hcontent
  have hsuffix : Text.lower (Place.path ["b", "sub", "a b.m"]).suffix = ".m" := by cbv
  have hshown := (hanswer (by decide) (by decide)).1 (by decide) (hsuffix ▸ List.mem_cons_self)
    "x" (by cbv)
  rw [hlink] at hshown
  exact ⟨knowsScripts_usualRouter, husable, isSound_linkedDisk, hcwd, scriptTree_linkedDisk,
    (hlinks [] _).mpr ⟨_, hlisted, hlink.symm⟩, _, _, hshown⟩

/-- Scripts are listed and linked that are not shown: one whose file lies outside, and one whose file
    has another extension. -/
theorem listed_script_refused :
    let directory := Path.ofText "/b"
    scriptTree linkedDisk directory [".m"] = .ok linkedFolder ∧
      (["out.m".toList] ∈ linkedFolder.paths ∧ linkTo ["out.m"] = "/view/out.m" ∧
        usualRouter.respond {} linkedDisk directory "/view/out.m" = ([], .ok .notFound)) ∧
      (["notes.m".toList] ∈ linkedFolder.paths ∧ linkTo ["notes.m"] = "/view/notes.m" ∧
        usualRouter.respond {} linkedDisk directory "/view/notes.m" = ([], .ok .notFound)) ∧
      Answer.notFound.status = 404 := by
  have hout : viewPage {} linkedDisk (Path.ofText "/b") "out.m" = ([], .notFound) := by cbv
  have hnotes : viewPage {} linkedDisk (Path.ofText "/b") "notes.m" = ([], .notFound) := by cbv
  have hlink : linkTo ["out.m"] = "/view/out.m" ∧ linkTo ["notes.m"] = "/view/notes.m" :=
    ⟨by cbv, by cbv⟩
  have hanswer {name : Chars} (hname : Path.IsPart name) (hfeed : '\n' ∉ name) :
      usualRouter.respond {} linkedDisk (Path.ofText "/b") (linkTo [name]) = _ :=
    respond_linkTo knowsScripts_usualRouter (List.cons_ne_nil name [])
      (fun _ h => List.mem_singleton.mp h ▸ hname) hfeed
  refine ⟨scriptTree_linkedDisk, ⟨by decide, hlink.1, ?_⟩, ⟨by decide, hlink.2, ?_⟩, rfl⟩
  · rw [← hlink.1, hanswer ⟨by decide, by decide, by decide⟩ (by decide)]
    exact congrArg (fun reply => (reply.1, Except.ok reply.2)) hout
  · rw [← hlink.2, hanswer ⟨by decide, by decide, by decide⟩ (by decide)]
    exact congrArg (fun reply => (reply.1, Except.ok reply.2)) hnotes

end ScriptReport.Viewer

/-
  ScriptReport.Viewer.Route

  The usual router, which matches the paths of requests against the rules of the viewer.
-/

import ScriptReport.Viewer.Answer
import ScriptReport.Viewer.Request

namespace ScriptReport.Viewer

open ScriptReport.Script (Warning)

/-! ## Rules -/

/-- A name that may follow a directory of routes: not empty, without a slash in front, and after
    its first character without line feeds. -/
def isRouteName : Chars → Bool
  | [] => false
  | c :: rest => c ≠ '/' && !rest.contains '\n'

/-- The directories of routes. There are no files that never change. -/
def directories : List (Chars × (Chars → Route)) :=
  [("/view/", .view), ("/grabcode/", .recover), ("/static/", fun _ => .elsewhere .notFound)]

/-- The route of a path without double slashes where they matter. -/
def matchRoute (path : Chars) : Option Route :=
  if path = ['/'] then some .start
  else directories.findSome? fun (directory, route) =>
    ((Text.afterOpening? directory path).filter isRouteName).map route

/-- Each pair of slashes becomes one. -/
def mergeSlashes : Chars → Chars
  | [] => []
  | '/' :: '/' :: rest => '/' :: mergeSlashes rest
  | c :: rest => c :: mergeSlashes rest

/-- The route of a decoded path. A path that is that of a page once its slashes are put right leads
    there; without any path, the slash is missing. -/
def routeOf (path : Chars) : Route :=
  if path = [] then .elsewhere .redirect
  else
    let path := '/' :: path.dropWhile (· = '/')
    match matchRoute path with
    | some route => route
    | none =>
      .elsewhere (if (matchRoute (mergeSlashes path)).isSome then .redirect else .notFound)

/-- What a request asks for. -/
def Request.route (r : Request) : Route :=
  if r.hasServerName then routeOf r.path else .elsewhere .badRequest

/-- The usual router. -/
def usualRouter : Router := fun url => do
  let request ← (Request.ofUrl url).mapError Fault.location
  return request.route

/-- The answer to the request for a URL by the usual router, and the warnings. -/
def answer (config : Config) (disk : Disk) (directory : Path) (url : Chars) :
    List Warning × Except Fault Answer :=
  usualRouter.respond config disk directory url

end ScriptReport.Viewer

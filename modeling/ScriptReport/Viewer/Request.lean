/-
  ScriptReport.Viewer.Request

  Requests to the viewer. What a URL holds goes to two places: the server that is asked, and the
  path on it. Each of them is written out and read again on its way.
-/

import ScriptReport.Url.Authority

namespace ScriptReport.Viewer

open ScriptReport.Url (Location LocationFault)

/-! ## Requests -/

/-- A request. -/
structure Request where
  scheme : Chars
  /-- The network location of the server that is asked. -/
  host : Chars
  /-- The decoded path. -/
  path : Chars
  deriving DecidableEq, Repr

/-- The scheme of a URL without one. -/
def usualScheme : Chars := "http"

/-- The network location of a URL without one. -/
def usualHost : Chars := "localhost"

/-- The text, or another one if it is empty. -/
def orElse (usual text : Chars) : Chars := if text = [] then usual else text

/-- The location of the server that a URL names. -/
def serverOf (l : Location) : Except LocationFault Location := do
  let server : Location :=
    { scheme := orElse usualScheme l.scheme, host := orElse usualHost l.host, path := ['/']
      query := [], fragment := [] }
  Url.split (← (← Url.split server.text).withAsciiHost).text

/-- The path of a URL as it is sent. What stands behind two slashes in front counts as a network
    location, and is dropped the first time. -/
def sentPath (l : Location) : Except LocationFault Chars := do
  let target := if l.query = [] then l.path else l.path ++ '?' :: l.query
  return (← (← Url.split (← Url.split target).path).withAsciiHost).text

/-- The request for a URL. -/
def Request.ofUrl (url : Chars) : Except LocationFault Request := do
  let l ← Url.split url
  let path ← sentPath l
  let server ← serverOf l
  return { scheme := server.scheme, host := server.host, path := Url.decode path }

/-! ## Server names -/

/-- The ports that need not be written. -/
def usualPorts : List (Chars × Chars) :=
  [("http", ":80"), ("ws", ":80"), ("https", ":443"), ("wss", ":443")]

/-- The text without an ending. -/
def withoutEnding (ending text : Chars) : Chars :=
  if ending.isSuffixOf text then text.take (text.length - ending.length) else text

/-- The name of the server: what stands before the first colon, the usual number behind it being dropped. -/
def Request.serverName (r : Request) : Chars :=
  let host := match usualPorts.lookup r.scheme with
    | some ending => withoutEnding ending r.host
    | none => r.host
  Text.lower (host.takeWhile (· ≠ ':'))

/-- The server can have this name. -/
def Request.hasServerName (r : Request) : Bool := (Text.HostName.toAscii r.serverName).isOk

end ScriptReport.Viewer

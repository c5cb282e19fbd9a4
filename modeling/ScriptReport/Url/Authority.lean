/-
  ScriptReport.Url.Authority

  The parts of a network location: a user, a host and what follows the colon.
-/

import ScriptReport.Url.Location
import ScriptReport.Url.Percent

namespace ScriptReport.Url

/-! ## Parts -/

/-- The parts of a network location. -/
structure Authority where
  /-- A user name, and a password if a colon announces one. -/
  user : Option (Chars × Option Chars)
  /-- The host, without brackets. -/
  host : Chars
  /-- What follows the colon behind the host. -/
  portText : Chars
  deriving DecidableEq, Repr

/-- A host in lower case; the zone of an address keeps its case. -/
def lowerHost (host : Chars) : Chars :=
  Text.lower (host.takeWhile (· ≠ '%')) ++ host.dropWhile (· ≠ '%')

/-- The user before the last at sign. -/
def userOf (location : Chars) : Option (Chars × Option Chars) :=
  (Text.cutAtLast? '@' location).map fun (user, _) =>
    match Text.cutAt? ':' user with
    | some (name, password) => (name, some password)
    | none => (user, none)

/-- The parts of a network location. -/
def Authority.ofText (location : Chars) : Authority :=
  let rest := withoutUser location
  let (host, portText) :=
    match Text.cutAt? '[' rest with
    | some (_, bracketed) =>
      let (host, after) := cutOr ']' bracketed
      (host, (cutOr ':' after).2)
    | none => cutOr ':' rest
  { user := userOf location, host := lowerHost host, portText }

/-! ## In ASCII -/

/-- Ports are at most this. -/
def maxPort : Nat := 65535

/-- The number that digits behind the colon are; without digits there is none. -/
def portNumber? (digits : Chars) : Except LocationFault (Option Nat) :=
  if digits = [] then .ok none
  else if !digits.all Char.isDigit then .error (.badPort digits)
  else if Text.maxDigits < digits.length then .error (.overlongPort digits.length)
  else
    let n := digits.foldl (fun n c => n * 10 + (c.toNat - '0'.toNat)) 0
    if maxPort < n then .error .portOutOfRange else .ok (some n)

/-- Marks that stand for themselves in a user name or password. -/
def userMarks : Chars := "%!$&'()*+,;="

/-- The network location in ASCII. An empty user and a zero behind the colon are left out. -/
def Authority.ascii (a : Authority) : Except LocationFault Chars := do
  let host ← (Text.HostName.toAscii a.host).mapError LocationFault.badName
  let host := if host.contains ':' then '[' :: host ++ [']'] else host
  let number ← portNumber? a.portText
  let tail := match number with
    | some (n + 1) => ':' :: Text.ofNat (n + 1)
    | _ => []
  let user := match a.user with
    | some (name, password) =>
      if name = [] then []
      else
        let secret := match password with
          | some (c :: rest) => ':' :: encodeBut userMarks (c :: rest)
          | _ => []
        encodeBut userMarks name ++ secret ++ ['@']
    | none => []
  return user ++ host ++ tail

/-- The location with its network location in ASCII. -/
def Location.withAsciiHost (l : Location) : Except LocationFault Location := do
  return { l with host := ← (Authority.ofText l.host).ascii }

/-- The text of a scheme, a network location and a path. -/
def Location.text (l : Location) : Chars :=
  (if l.scheme = [] then [] else l.scheme ++ [':']) ++
    (if l.host = [] then [] else '/' :: '/' :: l.host) ++ l.path

end ScriptReport.Url

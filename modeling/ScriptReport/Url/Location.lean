/-
  ScriptReport.Url.Location

  The parts of a URL: scheme, network location, path, query and fragment. Blanks and controls in
  front are dropped, and so are tabs and line ends anywhere.
-/

import ScriptReport.Text.Integer
import ScriptReport.Url.Address
import ScriptReport.Text.Charset.HostName

namespace ScriptReport.Url

/-! ## Faults -/

/-- Why a text is no URL. -/
inductive LocationFault where
  /-- A bracket stands alone in the network location. -/
  | loneBracket
  /-- The address in brackets announces a future version and is malformed. -/
  | badFutureAddress
  /-- The address in brackets is of version 4. -/
  | bracketedAddress4
  /-- The brackets hold no address. -/
  | badAddress (text : Chars)
  /-- A character of the network location is equivalent to one that would end it. -/
  | deceptive (location : Chars)
  /-- The host is no name. -/
  | badName (fault : Text.Label.Fault)
  /-- What follows the colon is no number. -/
  | badPort (text : Chars)
  | portOutOfRange
  /-- The number behind the colon has too many digits. -/
  | overlongPort (digits : Nat)
  deriving DecidableEq, Repr

/-- The text that reports the fault. -/
def LocationFault.message : LocationFault → Chars
  | .loneBracket => "Invalid IPv6 URL"
  | .badFutureAddress => "IPvFuture address is invalid"
  | .bracketedAddress4 => "An IPv4 address cannot be in brackets"
  | .badAddress text =>
    Text.quoted text ++ " does not appear to be an IPv4 or IPv6 address"
  | .deceptive location =>
    "netloc '" ++ location ++ "' contains invalid characters under NFKC normalization"
  | .badName fault =>
    "encoding with 'idna' codec failed (UnicodeError: " ++ fault.message ++ ")"
  | .badPort text => "Port could not be cast to integer value as " ++ Text.quoted text
  | .portOutOfRange => "Port out of range 0-65535"
  | .overlongPort digits => Text.overlongMessage digits

/-! ## Parts -/

/-- The parts of a URL. -/
structure Location where
  scheme : Chars
  host : Chars
  path : Chars
  query : Chars
  fragment : Chars
  deriving DecidableEq, Repr

/-- What may stand in a scheme. -/
def isSchemeChar (c : Char) : Bool := c.isAlphanum || c = '+' || c = '-' || c = '.'

/-- The scheme in lower case and what follows its colon. -/
def cutScheme (text : Chars) : Chars × Chars :=
  match Text.cutAt? ':' text with
  | some (c :: scheme, rest) =>
    if c.isAlpha && scheme.all isSchemeChar then (Text.lower (c :: scheme), rest) else ([], text)
  | _ => ([], text)

/-- The character ends the network location. -/
def endsHost (c : Char) : Bool := c = '/' || c = '?' || c = '#'

/-- Characters that compatibility normalisation turns into one that ends or divides the network
    location. -/
def deceptiveChars : List Nat :=
  [0x2047, 0x2048, 0x2049, 0x2100, 0x2101, 0x2105, 0x2106, 0x2A74, 0xFE13, 0xFE16, 0xFE55, 0xFE56,
   0xFE5F, 0xFE6B, 0xFF03, 0xFF0F, 0xFF1A, 0xFF1F, 0xFF20]

/-- The address in brackets, if it is one that may stand there. -/
def checkBracketed (address : Chars) : Except LocationFault Unit :=
  match address with
  | 'v' :: rest =>
    let version := rest.takeWhile isHexDigit
    match rest.drop version.length with
    | '.' :: _ :: _ => if version = [] then .error .badFutureAddress else .ok ()
    | _ => .error .badFutureAddress
  | _ =>
    if isAddress4 address then .error .bracketedAddress4
    else if isAddress6 address then .ok ()
    else .error (.badAddress address)

/-- The network location without a user name in front. -/
def withoutUser (host : Chars) : Chars :=
  match Text.cutAtLast? '@' host with
  | some (_, rest) => rest
  | none => host

/-- The text before and after the first `c`; all of it is before if there is none. -/
def cutOr (c : Char) (text : Chars) : Chars × Chars := (Text.cutAt? c text).getD (text, [])

/-- A network location with brackets: nothing but a user name stands before them and nothing but
    a colon and more after them. -/
def checkBrackets (host : Chars) : Except LocationFault Unit :=
  let host := withoutUser host
  match Text.cutAt? '[' host with
  | some (before, bracketed) =>
    let (address, after) := cutOr ']' bracketed
    if before ≠ [] || !(after = [] || after.head? = some ':') then .error .loneBracket
    else checkBracketed address
  | none => checkBracketed (cutOr ':' host).1

/-- The network location, if its brackets and characters are acceptable. -/
def checkHost (host : Chars) : Except LocationFault Unit := do
  match host.contains '[', host.contains ']' with
  | true, true => checkBrackets host
  | false, false => .ok ()
  | _, _ => .error .loneBracket
  if host.any (fun c => deceptiveChars.contains c.toNat) then .error (.deceptive host) else .ok ()

/-- The text as URLs are read: nothing up to the space in front, and no tabs or line ends. -/
def cleaned (text : Chars) : Chars :=
  (text.dropWhile fun c => c.toNat ≤ 32).filter fun c => !(c = '\t' || c = '\r' || c = '\n')

/-- The parts of a URL. -/
def split (text : Chars) : Except LocationFault Location := do
  let (scheme, rest) := cutScheme (cleaned text)
  let (host, rest) := match rest with
    | '/' :: '/' :: rest => (rest.takeWhile (!endsHost ·), rest.dropWhile (!endsHost ·))
    | rest => ([], rest)
  checkHost host
  let (rest, fragment) := cutOr '#' rest
  let (path, query) := cutOr '?' rest
  return { scheme, host, path, query, fragment }

/-- A path without the parameters after a semicolon in its last part. -/
def withoutParameters (path : Chars) : Chars :=
  match Text.cutAtLast? '/' path with
  | some (before, last) => before ++ '/' :: last.takeWhile (· ≠ ';')
  | none => path.takeWhile (· ≠ ';')

end ScriptReport.Url

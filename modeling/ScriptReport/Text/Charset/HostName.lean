/-
  ScriptReport.Text.Charset.HostName

  Host names in ASCII, and what they are read as. A name is a row of labels between points.
-/

import ScriptReport.Text.Charset.Label

namespace ScriptReport.Text.HostName

/-! ## In ASCII -/

/-- The points between labels. -/
def isPoint (c : Char) : Bool := [0x2E, 0x3002, 0xFF0E, 0xFF61].contains c.toNat

/-- A name that is ASCII already: only its last label may be empty. -/
def checkLabels : List Chars → Except Label.Fault Unit
  | [] => .ok ()
  | [last] => if 64 ≤ last.length then .error .long else .ok ()
  | label :: rest => do
    let _ ← Label.sized label
    checkLabels rest

/-- The labels of a name, and whether a point ends it. -/
def labelsOf (name : Chars) : List Chars × Bool :=
  let labels := splitOn "." name
  if labels.getLast? = some [] then (labels.dropLast, true) else (labels, false)

/-- The name of labels. -/
def ofLabels (labels : List Chars) (isOpen : Bool) : Chars :=
  join "." labels ++ (if isOpen then ['.'] else [])

/-- The name in ASCII. Without characters it is one too. -/
def toAscii (name : Chars) : Except Label.Fault Chars := do
  if Label.isAscii name then
    checkLabels (splitOn "." name)
    return name
  else
    let (labels, isOpen) := labelsOf (name.map fun c => if isPoint c then '.' else c)
    return ofLabels (← labels.mapM Label.toAscii) isOpen

/-! ## From ASCII -/

/-- Why octets are no name. -/
inductive ReadFault where
  /-- An octet is not one of ASCII. -/
  | notAscii
  | punycode (fault : Punycode.Fault)
  | label (fault : Label.Fault)
  /-- A marked label stands for a text with a surrogate. -/
  | surrogate (n : Nat)
  /-- A marked label that is not written as the characters that it stands for are. -/
  | unequal (label written : Chars)
  deriving DecidableEq, Repr

/-- The fault of the text of a marked label, which has been prepared with its surrogates marked;
    marks are forbidden characters too. -/
def ReadFault.ofLabel (read : Wide) : Label.Fault → ReadFault
  | .forbidden c =>
    match read.find? fun point => point.mark = c with
    | some (.surrogate n) => .surrogate n
    | _ => .label (.forbidden c)
  | fault => .label fault

/-- A label of octets. -/
def readLabel (octets : Octets) : Except ReadFault Chars := do
  if octets.any (0x80 ≤ ·) then throw .notAscii
  let label := octets.map fun b => Char.ofNat b.toNat
  if !Label.mark.isPrefixOf label then return label
  let read ← (Punycode.decode (octets.drop Label.mark.length)).mapError .punycode
  let written ← (Label.toAscii read.marked).mapError (.ofLabel read)
  if lower label ≠ written then throw (.unequal label written)
  return read.marked

/-- The octets of each label. -/
def splitOctets : Octets → List Octets
  | [] => [[]]
  | 0x2E :: rest => [] :: splitOctets rest
  | b :: rest =>
    match splitOctets rest with
    | first :: others => (b :: first) :: others
    | [] => [[b]]

/-- The name that octets are read as. -/
def decode (octets : Octets) : Except ReadFault Chars := do
  let labels := splitOctets octets
  let isOpen := labels.getLast? = some []
  let labels := if isOpen then labels.dropLast else labels
  return ofLabels (← labels.mapM readLabel) isOpen

end ScriptReport.Text.HostName

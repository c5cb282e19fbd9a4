/-
  ScriptReport.Url.Address

  Numeric host addresses as texts: four decimal numbers with points, or eight groups of
  hexadecimal digits with colons, where one run of zero groups may be left out.
-/

import ScriptReport.Text.Chars

namespace ScriptReport.Url

/-! ## Version 4 -/

/-- A decimal number up to 255 without leading zeros. -/
def isOctet (text : Chars) : Bool :=
  text ≠ [] && text.all Char.isDigit && text.length ≤ 3 &&
    !(text.length > 1 && text.head? = some '0') &&
    text.foldl (fun n c => n * 10 + (c.toNat - '0'.toNat)) 0 ≤ 255

/-- A host address of version 4. -/
def isAddress4 (text : Chars) : Bool :=
  let parts := Text.splitOn "." text
  parts.length = 4 && parts.all isOctet

/-! ## Version 6 -/

/-- A hexadecimal digit. -/
def isHexDigit (c : Char) : Bool := (Text.hexDigit? c).isSome

/-- A group of one to four hexadecimal digits. -/
def isGroup (text : Chars) : Bool := text ≠ [] && text.all isHexDigit && text.length ≤ 4

/-- The groups of an address; an address of version 4 at the end counts as two. -/
def groups? (text : Chars) : Option (List Chars) :=
  let parts := Text.splitOn ":" text
  if parts.length < 3 then none
  else
    match parts.getLast? with
    | some last =>
      if last.contains '.' then
        if isAddress4 last then some (parts.dropLast ++ [['0'], ['0']]) else none
      else some parts
    | none => none

/-- The groups, of which only the first and the last may be empty besides the one at a double
    colon, make up an address. -/
def areGroups (parts : List Chars) : Bool :=
  let inner := (parts.drop 1).dropLast
  let gaps := (inner.filter (· = [])).length
  let firstEmpty := parts.head? = some []
  let lastEmpty := parts.getLast? = some []
  if parts.length > 9 || gaps > 1 then false
  else if gaps = 1 then
    let before := (parts.drop 1).takeWhile (· ≠ [])
    let after := ((parts.drop 1).dropWhile (· ≠ [])).drop 1
    let high := if firstEmpty then before else (parts.take 1) ++ before
    let low := if lastEmpty then after.dropLast else after
    !(firstEmpty && high ≠ []) && !(lastEmpty && low ≠ []) && high.length + low.length < 8 &&
      (high ++ low).all isGroup
  else parts.length = 8 && parts.all isGroup

/-- A host address of version 6, perhaps with a zone after a percent sign. -/
def isAddress6 (text : Chars) : Bool :=
  let (address, zoneOk) := match Text.cutAt? '%' text with
    | some (address, zone) => (address, zone ≠ [] && !zone.contains '%')
    | none => (text, true)
  zoneOk &&
    match groups? address with
    | some parts => areGroups parts
    | none => false

end ScriptReport.Url

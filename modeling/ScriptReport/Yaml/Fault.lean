/-
  ScriptReport.Yaml.Fault

  Why a YAML document cannot be read.
-/

import ScriptReport.Text.Integer
import ScriptReport.Text.Wide

namespace ScriptReport.Yaml

/-! ## Dates -/

/-- Why a date or a time does not exist. -/
inductive MomentFault where
  | year (n : Nat)
  | month
  | day
  | hour
  | minute
  | second
  /-- The distance from universal time, in minutes, is a day or more. -/
  | offset (minutes : Int)
  deriving DecidableEq, Repr

/-- A span of time in whole days and the seconds above them. -/
def spanText (minutes : Int) : Chars :=
  let days := minutes.fdiv 1440
  let seconds := minutes.fmod 1440 * 60
  let parts :=
    (if days = 0 then [] else ["days=".toList ++ Text.ofInt days]) ++
    (if seconds = 0 then [] else ["seconds=".toList ++ Text.ofInt seconds])
  "datetime.timedelta(" ++ (if parts = [] then ['0'] else Text.join ", " parts) ++ ")"

/-- The text that reports the fault. -/
def MomentFault.message : MomentFault → Chars
  | .year n => "year " ++ Text.ofNat n ++ " is out of range"
  | .month => "month must be in 1..12"
  | .day => "day is out of range for month"
  | .hour => "hour must be in 0..23"
  | .minute => "minute must be in 0..59"
  | .second => "second must be in 0..59"
  | .offset minutes =>
    "offset must be a timedelta strictly between -timedelta(hours=24) and " ++
      "timedelta(hours=24), not " ++ spanText minutes ++ "."

/-! ## Documents -/

/-- Why a document cannot be read. Most concern a single value whose type is known but whose text
    does not spell a value of that type. -/
inductive Fault where
  /-- The text is no YAML, or asks for a value that cannot be made. -/
  | malformed
  | noFlag (text : Text.Wide)
  | emptyNumber
  | noMoment
  | noInteger (base : Nat) (text : Text.Wide)
  | noReal (text : Text.Wide)
  | moment (fault : MomentFault)
  /-- An escape stands for no character. -/
  | noCharacter
  /-- The number of an escape is beyond any character. -/
  | hugeCharacter
  /-- A decimal integer has too many digits. -/
  | overlongInteger (digits : Nat)
  /-- A place in base sixty is worth more than any real number. -/
  | hugeInteger
  /-- A mapping stands where the text of a date is looked for. -/
  | noMomentText
  /-- The default value of a mapping is the mapping itself. -/
  | endlessDefault
  deriving DecidableEq, Repr

/-- The text that reports the fault. -/
def Fault.message : Fault → Chars
  | .malformed => "malformed YAML"
  | .noFlag text => text.quoted
  | .emptyNumber => "string index out of range"
  | .noMoment => "'NoneType' object has no attribute 'groupdict'"
  | .noInteger base text =>
    "invalid literal for int() with base " ++ Text.ofNat base ++ ": " ++
      text.quoted.take 200
  | .noReal text => "could not convert string to float: " ++ text.quoted
  | .moment fault => fault.message
  | .noCharacter => "chr() arg not in range(0x110000)"
  | .hugeCharacter => "Python int too large to convert to C int"
  | .overlongInteger digits => Text.overlongMessage digits
  | .hugeInteger => "int too large to convert to float"
  | .noMomentText => "expected string or bytes-like object, got 'list'"
  | .endlessDefault => "maximum recursion depth exceeded"

end ScriptReport.Yaml

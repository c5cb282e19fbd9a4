/-
  ScriptReport.Yaml.Moment

  Dates and times: their spelling in a document, the checks that make them exist, and the ways in
  which they are shown.
-/

import ScriptReport.Yaml.Fault

namespace ScriptReport.Yaml

/-! ## Spelling -/

/-- The digits of a time of day, and of its distance from universal time. -/
structure ClockText where
  hour : Chars
  minute : Chars
  second : Chars
  fraction : Chars := []
  /-- The sign, hours and minutes of the distance; without digits for universal time. -/
  zone : Option (Bool × Chars × Chars) := none
  deriving DecidableEq, Repr

/-- The digits of a date, and of a time if there is one. -/
structure MomentText where
  year : Chars
  month : Chars
  day : Chars
  clock : Option ClockText := none
  deriving DecidableEq, Repr

/-- At least `least` and at most `most` digits, and what follows them. -/
def takeDigits? (least most : Nat) (text : Chars) : Option (Chars × Chars) :=
  let digits := (text.take most).takeWhile Char.isDigit
  if digits.length < least then none else some (digits, text.drop digits.length)

/-- The zone that makes up the text: universal time, or a sign, hours and perhaps minutes. -/
def readZone? (text : Chars) : Option (Option (Bool × Chars × Chars)) :=
  match text.dropWhile fun c => c = ' ' || c = '\t' with
  | [] => if text = [] then some none else none
  | ['Z'] => some (some (false, [], []))
  | sign :: rest =>
    if sign = '+' || sign = '-' then do
      let (hours, rest) ← takeDigits? 1 2 rest
      match rest with
      | [] => return some (sign = '-', hours, [])
      | ':' :: rest =>
        let (minutes, rest) ← takeDigits? 2 2 rest
        if rest = [] then return some (sign = '-', hours, minutes) else none
      | _ => none
    else none

/-- The time of day that makes up the text. -/
def readClock? (text : Chars) : Option ClockText := do
  let (hour, rest) ← takeDigits? 1 2 text
  let rest ← Text.afterOpening? ":" rest
  let (minute, rest) ← takeDigits? 2 2 rest
  let rest ← Text.afterOpening? ":" rest
  let (second, rest) ← takeDigits? 2 2 rest
  let (fraction, rest) := match rest with
    | '.' :: rest => (rest.takeWhile Char.isDigit, rest.dropWhile Char.isDigit)
    | rest => ([], rest)
  let zone ← readZone? rest
  return { hour, minute, second, fraction, zone }

/-- The date, perhaps with a time, that makes up the text. -/
def spelledMoment? (text : Chars) : Option MomentText := do
  let (year, rest) ← takeDigits? 4 4 text
  let rest ← Text.afterOpening? "-" rest
  let (month, rest) ← takeDigits? 1 2 rest
  let rest ← Text.afterOpening? "-" rest
  let (day, rest) ← takeDigits? 1 2 rest
  match rest with
  | [] => return { year, month, day }
  | c :: rest =>
    if c = 'T' || c = 't' then return { year, month, day, clock := some (← readClock? rest) }
    else if c = ' ' || c = '\t' then
      let rest := rest.dropWhile fun c => c = ' ' || c = '\t'
      return { year, month, day, clock := some (← readClock? rest) }
    else none

/-- The text without a line end after it. The spelling of a number, word or date may end in one,
    but it does not start with one. -/
def withoutLineEnd : Chars → Chars
  | [] => []
  | [c] => [c]
  | [c, '\n'] => [c]
  | c :: rest => c :: withoutLineEnd rest

/-- The date, perhaps with a time, that a text spells. -/
def readMoment? (text : Chars) : Option MomentText := spelledMoment? (withoutLineEnd text)

/-- A plain text that is a date: without a time, month and day have two digits. -/
def isMomentText (text : Chars) : Bool :=
  match spelledMoment? text with
  | some m => m.clock.isSome || (m.month.length = 2 && m.day.length = 2)
  | none => false

/-! ## Values -/

/-- A time of day, to the microsecond, with its distance from universal time in minutes. -/
structure Clock where
  hour : Nat
  minute : Nat
  second : Nat
  micros : Nat
  offset : Option Int
  deriving DecidableEq, Repr

/-- A date, or a date and time. -/
structure Moment where
  year : Nat
  month : Nat
  day : Nat
  clock : Option Clock := none
  deriving DecidableEq, Repr

/-- The number that ASCII digits write. -/
def numberOf (digits : Chars) : Nat :=
  digits.foldl (fun n c => n * 10 + (c.toNat - '0'.toNat)) 0

/-- A year with an extra day. -/
def isLeapYear (year : Nat) : Bool := year % 4 = 0 && (year % 100 ≠ 0 || year % 400 = 0)

/-- The days of a month. -/
def daysOf (year month : Nat) : Nat :=
  if month = 2 then (if isLeapYear year then 29 else 28)
  else if [4, 6, 9, 11].contains month then 30
  else 31

/-- The date exists. -/
def checkDate (year month day : Nat) : Except MomentFault Unit :=
  if year = 0 then .error (.year year)
  else if month < 1 || 12 < month then .error .month
  else if day < 1 || daysOf year month < day then .error .day
  else .ok ()

/-- The distance from universal time, in minutes. -/
def offsetOf : Option (Bool × Chars × Chars) → Except MomentFault (Option Int)
  | none => .ok none
  | some (negative, hours, minutes) =>
    let size : Int := (numberOf hours * 60 + numberOf minutes : Nat)
    let offset := if negative then -size else size
    if 1440 ≤ size then .error (.offset offset) else .ok (some offset)

/-- The first six digits of a fraction, filled up with zeros. -/
def microsOf (fraction : Chars) : Nat :=
  numberOf (fraction.take 6 ++ List.replicate (6 - fraction.length) '0')

/-- The date or time that the digits stand for. The distance from universal time is checked
    first. -/
def MomentText.value (m : MomentText) : Except MomentFault Moment :=
  let year := numberOf m.year
  let month := numberOf m.month
  let day := numberOf m.day
  match m.clock with
  | none => do
    checkDate year month day
    return { year, month, day }
  | some clock => do
    let offset ← offsetOf clock.zone
    checkDate year month day
    let hour := numberOf clock.hour
    let minute := numberOf clock.minute
    let second := numberOf clock.second
    if 23 < hour then throw .hour
    if 59 < minute then throw .minute
    if 59 < second then throw .second
    return { year, month, day, clock := some ⟨hour, minute, second, microsOf clock.fraction, offset⟩ }

/-! ## Sameness -/

/-- The days before a date, counted from the beginning of the calendar. -/
def daysBefore (year month day : Nat) : Nat :=
  let years := year - 1
  years * 365 + years / 4 - years / 100 + years / 400 +
    (List.range (month - 1)).foldl (fun days m => days + daysOf year (m + 1)) day

/-- The universal time of a moment whose distance from it is known, in microseconds. -/
def Moment.instant? (m : Moment) : Option Int := do
  let clock ← m.clock
  let offset ← clock.offset
  let minutes : Int := ((daysBefore m.year m.month m.day * 24 + clock.hour) * 60 + clock.minute : Nat)
  return ((minutes - offset) * 60 + clock.second) * 1000000 + clock.micros

/-- Two moments are the same if they are the same instant, or are written the same if that is
    not known of both. -/
def Moment.isSame (a b : Moment) : Bool :=
  match a.instant?, b.instant? with
  | some s, some t => s = t
  | _, _ => a = b

/-! ## Text -/

/-- The distance from universal time with its sign. -/
def offsetText (offset : Int) : Chars :=
  (if offset < 0 then '-' else '+') :: Text.padded 2 (offset.natAbs / 60) ++ ":" ++
    Text.padded 2 (offset.natAbs % 60)

/-- The moment as it is read by people. -/
def Moment.text (m : Moment) : Chars :=
  Text.padded 4 m.year ++ "-" ++ Text.padded 2 m.month ++ "-" ++ Text.padded 2 m.day ++
    match m.clock with
    | none => []
    | some c =>
      " " ++ Text.padded 2 c.hour ++ ":" ++ Text.padded 2 c.minute ++ ":" ++
        Text.padded 2 c.second ++
        (if c.micros = 0 then [] else '.' :: Text.padded 6 c.micros) ++
        (c.offset.elim [] offsetText)

/-- The distance from universal time as an argument. -/
def offsetArgument (offset : Int) : Chars :=
  "tzinfo=datetime.timezone" ++
    (if offset = 0 then ".utc".toList else "(" ++ spanText offset ++ ")")

/-- The moment as it is shown inside a collection. -/
def Moment.quoted (m : Moment) : Chars :=
  let date := [Text.ofNat m.year, Text.ofNat m.month, Text.ofNat m.day]
  match m.clock with
  | none => "datetime.date(" ++ Text.join ", " date ++ ")"
  | some c =>
    let time := [Text.ofNat c.hour, Text.ofNat c.minute] ++
      (if c.micros ≠ 0 then [Text.ofNat c.second, Text.ofNat c.micros]
       else if c.second ≠ 0 then [Text.ofNat c.second]
       else [])
    "datetime.datetime(" ++
      Text.join ", " (date ++ time ++ (c.offset.map offsetArgument).toList) ++ ")"

end ScriptReport.Yaml

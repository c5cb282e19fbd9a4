/-
  ScriptReport.Command.Arguments

  Reading a command line with one positional argument and switches. A long switch may be cut short
  as long as it stays unambiguous, and takes its value from the next word or after an equals sign;
  short switches may be written together, the last one with its value. After a double hyphen
  every word is positional.
-/

import ScriptReport.Text.Integer

namespace ScriptReport.Command

/-! ## Grammar -/

/-- What a switch does. -/
inductive SwitchKind where
  /-- It stands by itself. -/
  | flag
  /-- It takes a value that passes the test. -/
  | value (accepts : Chars → Bool)
  /-- It asks for help and ends the run. -/
  | help

/-- A switch with its spellings. -/
structure Switch where
  names : List Chars
  kind : SwitchKind

/-- The switch that asks for help. -/
def helpSwitch : Switch := ⟨["-h", "--help"], .help⟩

/-- Every value is accepted. -/
def anyValue : SwitchKind := .value fun _ => true

/-- Why a command line is not run. -/
inductive Usage where
  | help
  | wrong
  deriving DecidableEq, Repr

/-- The exit status for a command line that is not run. -/
def Usage.status : Usage → Nat
  | .help => 0
  | .wrong => 2

/-- What a switch is given with. -/
inductive Given where
  /-- It stands by itself. -/
  | flag
  | text (t : Chars)
  /-- The value in the same word is a double hyphen; it is dropped, and no value is left. -/
  | nothing
  deriving DecidableEq, Repr

/-- The value as a text, which is empty if it was dropped. -/
def Given.text? : Given → Option Chars
  | .flag => none
  | .text t => some t
  | .nothing => some []

/-- What a command line gives: the positional argument, and the switches in order by the first of
    their names. -/
structure Arguments where
  input : Chars
  given : List (Chars × Given)
  deriving DecidableEq, Repr

namespace Arguments

/-- What was given last for a switch. -/
def last? (a : Arguments) (name : Chars) : Option Given :=
  (a.given.reverse.find? (·.1 = name)).map (·.2)

/-- The value that was given last for a switch. -/
def value? (a : Arguments) (name : Chars) : Option Chars := (a.last? name).bind Given.text?

/-- The flag was given. -/
def has (a : Arguments) (name : Chars) : Bool := a.given.any (·.1 = name)

end Arguments

/-! ## Words -/

/-- A switch as a word spells it, with the text that is written after its name in the same
    word. -/
structure Spelled where
  switch : Switch
  name : Chars
  attached : Option Chars := none

/-- The part that a word plays. -/
inductive Word where
  | positional (text : Chars)
  | divider
  | switch (spelled : Spelled)
  /-- A word that looks like a switch and is none. -/
  | unknown

/-- The switch with exactly this name. -/
def named? (switches : List Switch) (name : Chars) : Option Switch :=
  switches.find? (·.names.contains name)

/-- The switches whose long names start with the given text. -/
def longMatches (switches : List Switch) (start : Chars) (attached : Option Chars) :
    List Spelled :=
  switches.flatMap fun switch =>
    (switch.names.filter (start.isPrefixOf ·)).map fun name => ⟨switch, name, attached⟩

/-- The switches that a word with a single hyphen may mean: a short name with text attached, or a
    longer name that starts with the word. -/
def shortMatches (switches : List Switch) (word : Chars) : List Spelled :=
  switches.flatMap fun switch =>
    switch.names.filterMap fun name =>
      if name = word.take 2 then some ⟨switch, name, some (word.drop 2)⟩
      else if word.isPrefixOf name then some ⟨switch, name, none⟩
      else none

/-- A word before the equals sign and what follows it. -/
def cutEquals (word : Chars) : Chars × Option Chars :=
  match Text.cutAt? '=' word with
  | some (name, text) => (name, some text)
  | none => (word, none)

/-- The switches that a word may mean when it is no full name. -/
def matchesOf (switches : List Switch) (word : Chars) : List Spelled :=
  if word.take 2 = ['-', '-'] then
    let (start, attached) := cutEquals word
    longMatches switches start attached
  else shortMatches switches word

/-- A negative number, which is no switch. A line feed may follow it. -/
def isNegativeNumber (word : Chars) : Bool :=
  let isDigit (c : Char) : Bool := (Text.digitValue? c).isSome
  match word with
  | '-' :: body =>
    let body := if body.getLast? = some '\n' then body.dropLast else body
    match Text.cutAt? '.' body with
    | none => body ≠ [] && body.all isDigit
    | some (whole, part) => whole.all isDigit && part ≠ [] && part.all isDigit
  | _ => false

/-- The switch whose full name stands before an equals sign, with what follows it. -/
def beforeEquals? (switches : List Switch) (word : Chars) : Option Spelled :=
  match cutEquals word with
  | (name, some attached) => (named? switches name).map fun switch => ⟨switch, name, attached⟩
  | (_, none) => none

/-- The part that a word before any double hyphen plays. -/
def classify (switches : List Switch) (word : Chars) : Except Usage Word :=
  if word.head? ≠ some '-' then .ok (.positional word)
  else
    match named? switches word with
    | some switch => .ok (.switch ⟨switch, word, none⟩)
    | none =>
      if word.length = 1 then .ok (.positional word)
      else
        match beforeEquals? switches word with
        | some spelled => .ok (.switch spelled)
        | none =>
          match matchesOf switches word with
          | _ :: _ :: _ => .error .wrong
          | [spelled] => .ok (.switch spelled)
          | [] =>
            if isNegativeNumber word || word.contains ' ' then .ok (.positional word)
            else .ok .unknown

/-- The parts that all words play. -/
def classifyAll (switches : List Switch) : List Chars → Except Usage (List Word)
  | [] => .ok []
  | word :: rest =>
    if word = ['-', '-'] then .ok (.divider :: rest.map Word.positional)
    else do
      let first ← classify switches word
      return first :: (← classifyAll switches rest)

/-! ## Reading -/

/-- A switch with its value if it is written in the same word. -/
structure Use where
  switch : Switch
  value : Option Chars

/-- The switches in a group of short ones, from the first and the characters after it. The first
    one that takes a value takes the rest of the word. -/
def groupUses (switches : List Switch) (first : Switch) : Chars → Except Usage (List Use)
  | [] => .ok [⟨first, none⟩]
  | c :: rest =>
    match first.kind, named? switches ['-', c] with
    | .value _, _ => .ok [⟨first, some (c :: rest)⟩]
    | _, none => .error .wrong
    | _, some next => do return ⟨first, none⟩ :: (← groupUses switches next rest)

/-- The switches in one word. Only a short flag may have text attached, which then goes on with
    other short switches. -/
def usesOf (switches : List Switch) : Spelled → Except Usage (List Use)
  | ⟨switch, _, none⟩ => .ok [⟨switch, none⟩]
  | ⟨switch, name, some text⟩ =>
    match switch.kind with
    | .value _ => .ok [⟨switch, some text⟩]
    | _ =>
      if name[1]? = some '-' || text = [] then .error .wrong else groupUses switches switch text

/-- How far a command line has been read. -/
structure Progress where
  input : Option Chars := none
  given : List (Chars × Given) := []
  /-- Some word has no place. -/
  surplus : Bool := false

/-- The first name of a switch. -/
def Switch.key (switch : Switch) : Chars := switch.names.headD []

/-- Notes a switch with its value. -/
def Progress.note (p : Progress) (switch : Switch) (value : Option Chars) :
    Except Usage Progress :=
  match switch.kind, value with
  | .help, _ => .error .help
  | .flag, _ => .ok { p with given := p.given ++ [(switch.key, .flag)] }
  | .value accepts, some text =>
    if text = ['-', '-'] then .ok { p with given := p.given ++ [(switch.key, .nothing)] }
    else if accepts text then .ok { p with given := p.given ++ [(switch.key, .text text)] }
    else .error .wrong
  | .value _, none => .error .wrong

/-- A word that has no place. -/
def Progress.spill (p : Progress) : Progress := { p with surplus := true }

/-- A switch that still needs its value. -/
def needsValue? (uses : List Use) : Option Switch :=
  match uses.getLast? with
  | some ⟨switch, none⟩ =>
    match switch.kind with
    | .value _ => some switch
    | _ => none
  | _ => none

/-- Notes the switches of a word one after another. -/
def Progress.noteAll (p : Progress) (uses : List Use) : Except Usage Progress :=
  uses.foldlM (fun p use => p.note use.switch use.value) p

/-- Reads the words. The positional argument takes a double hyphen right before or after it. -/
def readWords (switches : List Switch) (p : Progress) : List Word → Except Usage Progress
  | [] => .ok p
  | .divider :: rest =>
    match p.input, rest with
    | none, .positional text :: rest => readWords switches { p with input := some text } rest
    | _, rest => readWords switches p.spill rest
  | .positional text :: rest =>
    match p.input, rest with
    | none, .divider :: rest => readWords switches { p with input := some text } rest
    | none, rest => readWords switches { p with input := some text } rest
    | some _, rest => readWords switches p.spill rest
  | .unknown :: rest => readWords switches p.spill rest
  | .switch spelled :: rest =>
    match usesOf switches spelled with
    | .error usage => .error usage
    | .ok uses =>
      match needsValue? uses with
      | none =>
        match p.noteAll uses with
        | .ok p => readWords switches p rest
        | .error usage => .error usage
      | some switch =>
        match rest with
        | .positional text :: rest =>
          match (p.noteAll uses.dropLast).bind fun p => p.note switch (some text) with
          | .ok p => readWords switches p rest
          | .error usage => .error usage
        | _ => .error .wrong

/-- The arguments that a command line gives. -/
def Arguments.read (switches : List Switch) (words : List Chars) : Except Usage Arguments := do
  let p ← readWords switches {} (← classifyAll switches words)
  match p.input, p.surplus with
  | some input, false => return { input, given := p.given }
  | _, _ => throw .wrong

end ScriptReport.Command

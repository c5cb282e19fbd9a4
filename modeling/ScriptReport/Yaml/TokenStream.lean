/-
  ScriptReport.Yaml.TokenStream

  From the text of a YAML document to its tokens. A value may turn out to be a key only when the
  colon after it is met; until then its place among the tokens is remembered, for as long as the
  colon could still follow. Tokens are read as they are asked for, so what is wrong in a text
  counts only after the tokens in front of it.
-/

import ScriptReport.Yaml.Property
import ScriptReport.Yaml.Scalar

namespace ScriptReport.Yaml

/-! ## State -/

/-- A value that may turn out to be a key. -/
structure KeyPlace where
  /-- The number of tokens before it. -/
  place : Nat
  /-- It can be nothing else, because a collection is indented like it. -/
  required : Bool
  cursor : Cursor

/-- How far the text has been read. -/
structure Scanner where
  cursor : Cursor
  tokens : List Token := []
  flowLevel : Nat := 0
  /-- The column of the innermost block collection, or -1. -/
  indent : Int := -1
  /-- The columns of the collections around it. -/
  outer : List Int := []
  /-- A key may start here. -/
  allowKey : Bool := true
  /-- The possible keys, at most one for each level of flow collections. -/
  keys : List (Nat × KeyPlace) := []

namespace Scanner

/-! ## Steps on the state -/

/-- One more token. -/
def emit (s : Scanner) (token : Token) : Scanner := { s with tokens := s.tokens ++ [token] }

/-- One more token, read up to the given position. -/
def emitTo (s : Scanner) (cursor : Cursor) (token : Token) : Scanner :=
  { s.emit token with cursor }

/-- A token of `size` characters. -/
def emitMark (s : Scanner) (size : Nat) (token : Token) : Scanner :=
  s.emitTo (s.cursor.advance size) token

/-- A token among those read before. -/
def insert (s : Scanner) (place : Nat) (token : Token) : Scanner :=
  { s with tokens := s.tokens.take place ++ token :: s.tokens.drop place }

/-- A key ends on its line, and within so many characters. -/
def maxKeyLength : Nat := 1024

/-- The colon can no longer follow. -/
def isStale (s : Scanner) (key : KeyPlace) : Bool :=
  key.cursor.line ≠ s.cursor.line || maxKeyLength < s.cursor.index - key.cursor.index

/-- The state without the possible keys that have become impossible. -/
def dropStale (s : Scanner) : Except Fault Scanner :=
  if s.keys.any fun key => s.isStale key.2 && key.2.required then .error .malformed
  else .ok { s with keys := s.keys.filter fun key => !s.isStale key.2 }

/-- The state without the possible key of this level. -/
def dropKey (s : Scanner) : Except Fault Scanner :=
  match s.keys.lookup s.flowLevel with
  | some key =>
    if key.required then .error .malformed
    else .ok { s with keys := s.keys.filter (·.1 ≠ s.flowLevel) }
  | none => .ok s

/-- The state with the value that starts here as a possible key. -/
def saveKey (s : Scanner) : Except Fault Scanner :=
  if s.allowKey then do
    let s ← s.dropKey
    let required := s.flowLevel = 0 && s.indent = s.cursor.column
    return { s with keys := (s.flowLevel, ⟨s.tokens.length, required, s.cursor⟩) :: s.keys }
  else .ok s

/-- Ends the block collections that are indented by more than `column`. -/
def unwind (column : Int) (s : Scanner) : Scanner :=
  if s.flowLevel ≠ 0 then s else go s.outer s
where
  /-- Ends one collection for each column around it. -/
  go : List Int → Scanner → Scanner
    | [], s => s
    | outer :: rest, s =>
      if column < s.indent then go rest { s.emit .blockEnd with indent := outer, outer := rest }
      else s

/-- Whether a block collection starts at the column, and the state inside it. -/
def nest (s : Scanner) (column : Int) : Bool × Scanner :=
  if s.indent < column then (true, { s with indent := column, outer := s.indent :: s.outer })
  else (false, s)

/-- The state in a block collection at this column, which starts with the given token unless it
    has started before. -/
def nestHere (s : Scanner) (token : Token) : Except Fault Scanner :=
  if s.flowLevel ≠ 0 then .ok s
  else if !s.allowKey then .error .malformed
  else
    match s.nest s.cursor.column with
    | (true, s) => .ok (s.emit token)
    | (false, s) => .ok s

/-! ## Blanks -/

/-- The state at the next token: spaces, comments and line ends are skipped, and outside flow
    collections a key may start after a line end. -/
def skipBlanks : Nat → Scanner → Scanner
  | 0, s => s
  | fuel + 1, s =>
    match s.cursor.skipSpaces.skipComment.takeBreak with
    | ([], cursor) => { s with cursor }
    | (_, cursor) => skipBlanks fuel { s with cursor, allowKey := s.allowKey || s.flowLevel = 0 }

/-- The position after the mark that tells the encoding, if the text starts with it. -/
def skipMark (s : Scanner) : Scanner :=
  if s.cursor.index = 0 && s.cursor.head? = some byteOrderMark then
    { s with cursor := s.cursor.next }
  else s

/-! ## Tokens -/

/-- A directive or a line that separates documents: it ends all block collections. -/
def separate (s : Scanner) : Except Fault Scanner := do
  let s ← (s.unwind (-1)).dropKey
  return { s with allowKey := false }

/-- The start of a flow collection. -/
def openFlow (s : Scanner) (token : Token) : Except Fault Scanner := do
  let s ← s.saveKey
  return { s.emitMark 1 token with flowLevel := s.flowLevel + 1, allowKey := true }

/-- The end of a flow collection. -/
def closeFlow (s : Scanner) (token : Token) : Except Fault Scanner := do
  let s ← s.dropKey
  if s.flowLevel = 0 then throw .malformed
  return { s.emitMark 1 token with flowLevel := s.flowLevel - 1, allowKey := false }

/-- The comma of a flow collection. -/
def flowEntry (s : Scanner) : Except Fault Scanner := do
  let s ← s.dropKey
  return { s.emitMark 1 .flowEntry with allowKey := true }

/-- The hyphen in front of a member. -/
def blockEntry (s : Scanner) : Except Fault Scanner := do
  let s ← (← s.nestHere .blockSequence).dropKey
  return { s.emitMark 1 .blockEntry with allowKey := true }

/-- The question mark in front of a key. -/
def markedKey (s : Scanner) : Except Fault Scanner := do
  let s ← (← s.nestHere .blockMapping).dropKey
  return { s.emitMark 1 .key with allowKey := s.flowLevel = 0 }

/-- The colon after a key. The possible key of this level is then a key, and may start a
    mapping. -/
def value (s : Scanner) : Except Fault Scanner :=
  match s.keys.lookup s.flowLevel with
  | some key =>
    let s := { s with keys := s.keys.filter (·.1 ≠ s.flowLevel) }.insert key.place .key
    let s := if s.flowLevel ≠ 0 then s
      else
        match s.nest key.cursor.column with
        | (true, s) => s.insert key.place .blockMapping
        | (false, s) => s
    .ok { s.emitMark 1 .value with allowKey := false }
  | none => do
    let s ← (← s.nestHere .blockMapping).dropKey
    return { s.emitMark 1 .value with allowKey := s.flowLevel = 0 }

/-- A token that may be or begin a key. -/
def keyable (s : Scanner) (read : Cursor → Except Fault (Token × Cursor)) :
    Except Fault Scanner := do
  let s ← s.saveKey
  let (token, cursor) ← read s.cursor
  return { s.emitTo cursor token with allowKey := false }

/-- A text in quotes. -/
def quotedText (s : Scanner) (double : Bool) : Except Fault Scanner :=
  s.keyable fun c => do
    let (text, c) ← takeQuoted double c
    return (.scalar text false, c)

/-- A block of lines. -/
def blockText (s : Scanner) (folded : Bool) : Except Fault Scanner := do
  let s ← s.dropKey
  let (text, cursor) ← takeBlock folded s.indent s.cursor
  return { s.emitTo cursor (.scalar (.ofChars text) false) with allowKey := true }

/-- A plain text. A key may start after it if a line end follows. -/
def plainText (s : Scanner) : Except Fault Scanner := do
  let s ← s.saveKey
  let plain := takePlain (s.flowLevel ≠ 0) (s.indent + 1) s.cursor
  return { s.emitTo plain.cursor (.scalar (.ofChars plain.text) true) with allowKey := plain.broken }

/-- A plain text can start with this character, given the one after it. -/
def startsPlain (inFlow : Bool) (c : Char) (next : Option Char) : Bool :=
  !(isBlankOrEnd (some c) || "-?:,[]\x7b\x7d#&*!|>'\"%@\x60".toList.contains c) ||
    (!isBlankOrEnd next && (c = '-' || (!inFlow && (c = '?' || c = ':'))))

/-- The next token, which starts with the given character. -/
def token (s : Scanner) (x : Char) : Except Fault Scanner :=
  let c := s.cursor
  let inFlow : Bool := s.flowLevel ≠ 0
  let blankNext := isBlankOrEnd c.second?
  if x = '%' && c.column = 0 then do
    let s ← s.separate
    let (directive, cursor) ← takeDirective c
    return s.emitTo cursor (.directive directive)
  else if c.column = 0 && c.isAtMark ['-', '-', '-'] then do
    return (← s.separate).emitMark 3 .documentStart
  else if c.column = 0 && c.isAtMark ['.', '.', '.'] then do
    return (← s.separate).emitMark 3 .documentEnd
  else if x = '[' then s.openFlow .flowSequence
  else if x = '{' then s.openFlow .flowMapping
  else if x = ']' then s.closeFlow .flowSequenceEnd
  else if x = '}' then s.closeFlow .flowMappingEnd
  else if x = ',' then s.flowEntry
  else if x = '-' && blankNext then s.blockEntry
  else if x = '?' && (inFlow || blankNext) then s.markedKey
  else if x = ':' && (inFlow || blankNext) then s.value
  else if x = '*' then s.keyable fun c => do
    let (name, c) ← takeAnchor c
    return (.anchorUse name, c)
  else if x = '&' then s.keyable fun c => do
    let (name, c) ← takeAnchor c
    return (.anchor name, c)
  else if x = '!' then s.keyable fun c => do
    let (tag, c) ← takeTag c
    return (.tag tag, c)
  else if x = '|' && !inFlow then s.blockText false
  else if x = '>' && !inFlow then s.blockText true
  else if x = '\'' then s.quotedText false
  else if x = '"' then s.quotedText true
  else if startsPlain inFlow x c.second? then s.plainText
  else .error .malformed

/-! ## The whole text -/

/-- The next token is read, or the end of the text is found and nothing is left to read. -/
def step (s : Scanner) : Except Fault (Scanner × Bool) := do
  let s ← (skipBlanks (s.cursor.rest.length + 1) s.skipMark).dropStale
  let s := s.unwind s.cursor.column
  match s.cursor.head? with
  | none => return (← (s.unwind (-1)).dropKey, true)
  | some x => return (← s.token x, false)

/-- The tokens that nothing can come before any more: those up to the first possible key. -/
def settled (s : Scanner) : List Token :=
  (s.keys.filter fun key => !s.isStale key.2).foldl (fun tokens key => tokens.take key.2.place)
    s.tokens

end Scanner

/-- The tokens of a text, and the fault that follows them if it could not be read to its end. -/
structure TokenStream where
  tokens : List Token
  fault : Option Fault := none
  deriving Repr

/-- The tokens from a state on. Each step takes at least one character. -/
def Scanner.run : Nat → Scanner → TokenStream
  | 0, s => ⟨s.settled, some .malformed⟩
  | fuel + 1, s =>
    match s.step with
    | .error fault => ⟨s.settled, some fault⟩
    | .ok (s, true) => ⟨s.tokens, none⟩
    | .ok (s, false) => run fuel s

/-- The tokens of a text. -/
def tokensOf (text : Chars) : TokenStream :=
  if text.all isAllowed then Scanner.run (text.length + 1) { cursor := { rest := text } }
  else ⟨[], some .malformed⟩

end ScriptReport.Yaml

/-
  ScriptReport.Yaml.Scalar

  The texts of a YAML document, in their three spellings: plain, in quotes, and as a block of
  indented lines. In the first two, line ends are folded. Only a text in quotes can hold
  surrogates.
-/

import ScriptReport.Text.Wide
import ScriptReport.Yaml.Cursor

namespace ScriptReport.Yaml

open Text (CodePoint Wide)

/-! ## Plain texts -/

/-- A colon is an indicator if this follows it. -/
def endsKey (inFlow : Bool) (next : Option Char) : Bool :=
  endsAt (if inFlow then [' ', '\t', ',', '[', ']', '{', '}'] else [' ', '\t']) next

/-- The length of a plain text up to its next blank or its end. -/
def plainRun (inFlow : Bool) : Chars → Nat
  | [] => 0
  | c :: rest =>
    if isBlankOrEnd (some c) || (c = ':' && endsKey inFlow rest.head?) ||
      (inFlow && [',', '?', '[', ']', '{', '}'].contains c) then 0
    else plainRun inFlow rest + 1

/-- The line ends among the spaces here, or nothing if a line separates documents. -/
def plainBreaks : Nat → Cursor → Option Chars × Cursor
  | 0, c => (some [], c)
  | fuel + 1, c =>
    if c.head? = some ' ' then plainBreaks fuel c.next
    else
      match c.takeBreak with
      | ([], c) => (some [], c)
      | (first, c) =>
        if c.isAtSeparator then (none, c)
        else
          let (breaks, c) := plainBreaks fuel c
          (breaks.map (first ++ ·), c)

/-- What lies between two runs of a plain text. -/
structure PlainGap where
  text : Chars
  /-- There is a line end in it. -/
  broken : Bool
  cursor : Cursor

/-- The gap that starts here. -/
def plainGap (c : Cursor) : PlainGap :=
  let (spaces, c) := c.takeWhile (· = ' ')
  match c.takeBreak with
  | ([], c) => ⟨spaces, false, c⟩
  | (first, c) =>
    if c.isAtSeparator then ⟨[], true, c⟩
    else
      match plainBreaks c.rest.length c with
      | (none, c) => ⟨[], true, c⟩
      | (some breaks, c) => ⟨foldBreaks first breaks, true, c⟩

/-- A plain text, whether a line end follows it, and the position after both. -/
structure PlainText where
  text : Chars
  broken : Bool
  cursor : Cursor

/-- The plain text that starts here; its lines are indented by at least `margin`, and `gap` stands
    before its next run. -/
def plainFrom (inFlow : Bool) (margin : Int) : Nat → PlainGap → PlainText
  | 0, gap => ⟨[], gap.broken, gap.cursor⟩
  | fuel + 1, gap =>
    let c := gap.cursor
    let size := if c.head? = some '#' then 0 else plainRun inFlow c.rest
    if size = 0 then ⟨[], gap.broken, c⟩
    else
      let run := gap.text ++ c.rest.take size
      let next := plainGap (c.advance size)
      if next.text = [] || next.cursor.head? = some '#' ||
        (!inFlow && (next.cursor.column : Int) < margin) then ⟨run, next.broken, next.cursor⟩
      else
        let later := plainFrom inFlow margin fuel next
        { later with text := run ++ later.text }

/-- The plain text that starts here. -/
def takePlain (inFlow : Bool) (margin : Int) (c : Cursor) : PlainText :=
  plainFrom inFlow margin c.rest.length ⟨[], false, c⟩

/-! ## Quoted texts -/

/-- The line ends and blanks here; no line may separate documents. -/
def quotedBreaks : Nat → Cursor → Except Fault (Chars × Cursor)
  | 0, c => .ok ([], c)
  | fuel + 1, c =>
    if c.isAtSeparator then .error .malformed
    else
      match (c.skipWhile fun x => x = ' ' || x = '\t').takeBreak with
      | ([], c) => .ok ([], c)
      | (first, c) => do
        let (breaks, c) ← quotedBreaks fuel c
        return (first ++ breaks, c)

/-- What a letter after a backslash stands for. -/
def escapeOf? (c : Char) : Option Char :=
  [('0', Char.ofNat 0), ('a', Char.ofNat 7), ('b', Char.ofNat 8), ('t', '\t'), ('\t', '\t'),
   ('n', '\n'), ('v', Char.ofNat 11), ('f', Char.ofNat 12), ('r', '\r'), ('e', Char.ofNat 27),
   (' ', ' '), ('"', '"'), ('\\', '\\'), ('/', '/'), ('N', Char.ofNat 0x85), ('_', Char.ofNat 0xA0),
   ('L', Char.ofNat 0x2028), ('P', Char.ofNat 0x2029)].lookup c

/-- How many hexadecimal digits follow a letter after a backslash. -/
def escapeDigits? (c : Char) : Option Nat :=
  [('x', 2), ('u', 4), ('U', 8)].lookup c

/-- The code point of a number. -/
def codePointOf (n : Nat) : Except Fault CodePoint :=
  if 0xD800 ≤ n && n ≤ 0xDFFF then .ok (.surrogate n)
  else if n < 0x110000 then .ok (.char (Char.ofNat n))
  else if n < 0x80000000 then .error .noCharacter
  else .error .hugeCharacter

/-- What a backslash before this position stands for. -/
def takeEscape (c : Cursor) : Except Fault (Wide × Cursor) :=
  match c.head? with
  | none => .error .malformed
  | some x =>
    match escapeOf? x, escapeDigits? x with
    | some y, _ => .ok ([.char y], c.next)
    | none, some count =>
      let digits := c.next.rest.take count
      match digits.mapM Text.hexDigit? with
      | some values =>
        if values.length < count then .error .malformed
        else do
          let y ← codePointOf (values.foldl (fun n d => n * 16 + d) 0)
          return ([y], c.next.advance count)
      | none => .error .malformed
    | none, none =>
      if isBreak x then do
        let (breaks, c) ← quotedBreaks (c.rest.length + 1) c.takeBreak.2
        return (Wide.ofChars breaks, c)
      else .error .malformed

/-- A text in quotes up to the next blank or the closing quote. -/
def quotedRun (double : Bool) : Nat → Cursor → Except Fault (Wide × Cursor)
  | 0, c => .ok ([], c)
  | fuel + 1, c =>
    match c.rest with
    | [] => .ok ([], c)
    | x :: rest =>
      if isBlankOrEnd (some x) then .ok ([], c)
      else if x = '\\' && double then do
        let (text, c) ← takeEscape c.next
        let (later, c) ← quotedRun double fuel c
        return (text ++ later, c)
      else if x = '\'' && !double && rest.head? = some '\'' then do
        let (later, c) ← quotedRun double fuel (c.advance 2)
        return (.char '\'' :: later, c)
      else if x = (if double then '"' else '\'') then .ok ([], c)
      else do
        let (later, c) ← quotedRun double fuel c.next
        return (.char x :: later, c)

/-- The blanks between two runs of a text in quotes. -/
def quotedGap (c : Cursor) : Except Fault (Chars × Cursor) :=
  let (blanks, c) := c.takeWhile fun x => x = ' ' || x = '\t'
  match c.head? with
  | none => .error .malformed
  | some _ =>
    match c.takeBreak with
    | ([], c) => .ok (blanks, c)
    | (first, c) => do
      let (breaks, c) ← quotedBreaks (c.rest.length + 1) c
      return (foldBreaks first breaks, c)

/-- A text in quotes up to and with its closing quote. -/
def quotedFrom (double : Bool) : Nat → Cursor → Except Fault (Wide × Cursor)
  | 0, _ => .error .malformed
  | fuel + 1, c => do
    let (run, c) ← quotedRun double (c.rest.length + 1) c
    if c.head? = some (if double then '"' else '\'') then return (run, c.next)
    else
      let (gap, c) ← quotedGap c
      let (later, c) ← quotedFrom double fuel c
      return (run ++ Wide.ofChars gap ++ later, c)

/-- The text in quotes that starts here. -/
def takeQuoted (double : Bool) (c : Cursor) : Except Fault (Wide × Cursor) :=
  quotedFrom double (c.rest.length + 1) c.next

/-! ## Blocks of lines -/

/-- What happens to the line ends at the end of a block. -/
inductive Chomping where
  | strip
  | clip
  | keep
  deriving DecidableEq, Repr

/-- The header of a block: how its end is treated, and its indentation if that is given. -/
structure BlockHeader where
  chomping : Chomping := .clip
  indent : Option Nat := none
  deriving DecidableEq, Repr

/-- What a sign in a header says. -/
def chompingOf? : Option Char → Option Chomping
  | some '+' => some .keep
  | some '-' => some .strip
  | _ => none

/-- The digit of a header that stands here, if any. -/
def takeIndent (c : Cursor) : Except Fault (Option Nat × Cursor) :=
  match c.head? with
  | some x =>
    if x = '0' then .error .malformed
    else if x.isDigit then .ok (some (x.toNat - '0'.toNat), c.next)
    else .ok (none, c)
  | none => .ok (none, c)

/-- The header that starts here, up to the end of its line. -/
def takeBlockHeader (c : Cursor) : Except Fault (BlockHeader × Cursor) := do
  let (header, c) ← match chompingOf? c.head? with
    | some chomping => do
      let (indent, c) ← takeIndent c.next
      pure (BlockHeader.mk chomping indent, c)
    | none => do
      match ← takeIndent c with
      | (some n, c) =>
        match chompingOf? c.head? with
        | some chomping => pure (BlockHeader.mk chomping (some n), c.next)
        | none => pure (BlockHeader.mk .clip (some n), c)
      | (none, c) => pure ({}, c)
  if !isSpaceOrEnd c.head? then throw .malformed
  let c := c.skipSpaces.skipComment
  if !endsAt [] c.head? then throw .malformed
  return (header, c.takeBreak.2)

/-- The line ends of leading empty lines, the greatest column among them, and the position of the
    first character that is neither. -/
def leadingBreaks : Nat → Nat → Cursor → Chars × Nat × Cursor
  | 0, widest, c => ([], widest, c)
  | fuel + 1, widest, c =>
    if c.head? = some ' ' then leadingBreaks fuel (max widest c.next.column) c.next
    else
      match c.takeBreak with
      | ([], c) => ([], widest, c)
      | (first, c) =>
        let (breaks, widest, c) := leadingBreaks fuel widest c
        (first ++ breaks, widest, c)

/-- The position after the spaces up to the given column. -/
def skipIndent (indent : Nat) (c : Cursor) : Cursor :=
  c.advance ((c.rest.takeWhile (· = ' ')).take (indent - c.column)).length

/-- The line ends of empty lines, and the position after the indentation of the next line. -/
def blockBreaks (indent : Nat) : Nat → Cursor → Chars × Cursor
  | 0, c => ([], skipIndent indent c)
  | fuel + 1, c =>
    match (skipIndent indent c).takeBreak with
    | ([], c) => ([], c)
    | (first, c) =>
      let (breaks, c) := blockBreaks indent fuel c
      (first ++ breaks, c)

/-- A line of the block starts here. -/
def isInBlock (indent : Nat) (c : Cursor) : Bool := c.column = indent && c.head?.isSome

/-- A line starts with more indentation. -/
def startsBlank (c : Cursor) : Bool := c.head? = some ' ' || c.head? = some '\t'

/-- The lines of a block: their text without the last line end, that line end, and the empty
    lines after it. -/
structure BlockText where
  text : Chars
  last : Chars
  empty : Chars
  cursor : Cursor

/-- The lines of a block from here on, after `breaks`. In a folded block the line end between two
    lines without more indentation is folded. -/
def blockFrom (folded : Bool) (indent : Nat) : Nat → Chars → Cursor → BlockText
  | 0, breaks, c => ⟨[], [], breaks, c⟩
  | fuel + 1, breaks, c =>
    if !isInBlock indent c then ⟨[], [], breaks, c⟩
    else
      let flush := !startsBlank c
      let (line, c) := c.takeWhile (!isBreak ·)
      let (last, c) := c.takeBreak
      let (empty, c) := blockBreaks indent c.rest.length c
      if !isInBlock indent c then ⟨breaks ++ line, last, empty, c⟩
      else
        let joint :=
          if folded && last = ['\n'] && flush && !startsBlank c then
            (if empty = [] then [' '] else [])
          else last
        let later := blockFrom folded indent fuel empty c
        { later with text := breaks ++ line ++ joint ++ later.text }

/-- The block of lines whose indicator stands here, inside a collection that is indented by
    `margin`. -/
def takeBlock (folded : Bool) (margin : Int) (c : Cursor) : Except Fault (Chars × Cursor) := do
  let (header, c) ← takeBlockHeader c.next
  let least := max (margin + 1).toNat 1
  let (breaks, indent, c) := match header.indent with
    | some n =>
      let indent := least + n - 1
      let (breaks, c) := blockBreaks indent (c.rest.length + 1) c
      (breaks, indent, c)
    | none =>
      let (breaks, widest, c) := leadingBreaks (c.rest.length + 1) 0 c
      (breaks, max least widest, c)
  let block := blockFrom folded indent (c.rest.length + 1) breaks c
  let ending := match header.chomping with
    | .strip => []
    | .clip => block.last
    | .keep => block.last ++ block.empty
  return (block.text ++ ending, block.cursor)

end ScriptReport.Yaml

/-
  ScriptReport.Yaml.Property

  What may stand in front of a value or of a document: anchors, tags and directives.
-/

import ScriptReport.Text.Integer
import ScriptReport.Text.Utf8
import ScriptReport.Yaml.Cursor
import ScriptReport.Yaml.Token

namespace ScriptReport.Yaml

/-! ## Anchors -/

/-- The name after the indicator that stands here. -/
def takeAnchor (c : Cursor) : Except Fault (Chars × Cursor) :=
  let (name, c) := c.next.takeWhile isWordChar
  if name = [] || !endsAt [' ', '\t', '?', ':', ',', ']', '}', '%', '@', '\x60'] c.head? then
    .error .malformed
  else .ok (name, c)

/-! ## Tags -/

/-- A character that stands for itself in a tag. -/
def isTagChar (c : Char) : Bool :=
  c.isAlphanum || "-;/?:@&=+$,_.!~*'()[]".toList.contains c

/-- The octets of the percent escapes that stand here. -/
def tagOctets : Nat → Cursor → Except Fault (Text.Octets × Cursor)
  | 0, c => .ok ([], c)
  | fuel + 1, c =>
    match c.rest with
    | '%' :: a :: b :: _ =>
      match Text.hexDigit? a, Text.hexDigit? b with
      | some high, some low => do
        let (octets, c) ← tagOctets fuel (c.advance 3)
        return (UInt8.ofNat (high * 16 + low) :: octets, c)
      | _, _ => .error .malformed
    | '%' :: _ => .error .malformed
    | _ => .ok ([], c)

/-- The characters of a tag that stand here, with escapes decoded. -/
def tagChars : Nat → Cursor → Except Fault (Chars × Cursor)
  | 0, c => .ok ([], c)
  | fuel + 1, c =>
    let (text, c) := c.takeWhile isTagChar
    if c.head? = some '%' then do
      let (octets, c) ← tagOctets (c.rest.length + 1) c
      match Text.Utf8.decode octets with
      | .ok decoded =>
        let (later, c) ← tagChars fuel c
        return (text ++ decoded ++ later, c)
      | .error _ => throw .malformed
    else .ok (text, c)

/-- The tag or beginning of tags that stands here; it is not empty. -/
def takeTagText (c : Cursor) : Except Fault (Chars × Cursor) := do
  if !(c.head?.any fun x => isTagChar x || x = '%') then throw .malformed
  tagChars (c.rest.length + 1) c

/-- The handle that stands here: a mark, or a name between two marks. -/
def takeHandle (c : Cursor) : Except Fault (Chars × Cursor) :=
  match c.rest with
  | '!' :: rest =>
    let name := rest.takeWhile isWordChar
    match rest.drop name.length with
    | '!' :: _ => .ok ('!' :: name ++ ['!'], c.advance (name.length + 2))
    | ' ' :: _ => if name = [] then .ok (['!'], c.next) else .error .malformed
    | _ => .error .malformed
  | _ => .error .malformed

/-- The tag of a value that stands here. -/
def takeTag (c : Cursor) : Except Fault (TagName × Cursor) := do
  let (tag, c) ← if c.second? = some '<' then do
      let (suffix, c) ← takeTagText (c.advance 2)
      if c.head? ≠ some '>' then throw .malformed
      pure (TagName.mk none suffix, c.next)
    else if isBlankOrEnd c.second? then pure (TagName.mk none ['!'], c.next)
    else do
      let (handle, c) ←
        if (c.next.rest.takeWhile fun x => !isSpaceOrEnd (some x)).contains '!' then takeHandle c
        else pure (['!'], c.next)
      let (suffix, c) ← takeTagText c
      pure (TagName.mk (some handle) suffix, c)
  if !isSpaceOrEnd c.head? then throw .malformed
  return (tag, c)

/-! ## Directives -/

/-- The number that stands here. -/
def takeNumber (c : Cursor) : Except Fault (Nat × Cursor) :=
  let (digits, c) := c.takeWhile Char.isDigit
  if digits = [] then .error .malformed
  else if Text.maxDigits < digits.length then .error (.overlongInteger digits.length)
  else .ok (digits.foldl (fun n d => n * 10 + (d.toNat - '0'.toNat)) 0, c)

/-- The version after its directive's name: two numbers with a point between them. -/
def takeVersion (c : Cursor) : Except Fault (Directive × Cursor) := do
  let (major, c) ← takeNumber c.skipSpaces
  if c.head? ≠ some '.' then throw .malformed
  let (_, c) ← takeNumber c.next
  if !isSpaceOrEnd c.head? then throw .malformed
  return (.version major, c)

/-- The handle and what it stands for, after their directive's name. -/
def takeHandleMeaning (c : Cursor) : Except Fault (Directive × Cursor) := do
  let (name, c) ← takeHandle c.skipSpaces
  if c.head? ≠ some ' ' then throw .malformed
  let (expansion, c) ← takeTagText c.skipSpaces
  if !isSpaceOrEnd c.head? then throw .malformed
  return (.handle name expansion, c)

/-- The directive that stands here, with the rest of its line. -/
def takeDirective (c : Cursor) : Except Fault (Directive × Cursor) := do
  let (name, c) := c.next.takeWhile isWordChar
  if name = [] || !isSpaceOrEnd c.head? then throw .malformed
  let (directive, c) ←
    if name = "YAML".toList then takeVersion c
    else if name = "TAG".toList then takeHandleMeaning c
    else pure (.unknown, c.skipLine)
  let c := c.skipSpaces.skipComment
  if !endsAt [] c.head? then throw .malformed
  return (directive, c.takeBreak.2)

end ScriptReport.Yaml

/-
  ScriptReport.Yaml.Token

  The tokens of a YAML document. Indentation shows as tokens that start and end collections.
-/

import ScriptReport.Text.Wide

namespace ScriptReport.Yaml

/-- A tag as it is written: a handle, which stands for a beginning, and the rest. A tag in angle
    brackets and the bare mark have no handle. -/
structure TagName where
  handle : Option Chars
  suffix : Chars
  deriving DecidableEq, Repr

/-- A directive before a document. -/
inductive Directive where
  /-- The major version of the language. -/
  | version (major : Nat)
  /-- What a tag handle stands for. -/
  | handle (name expansion : Chars)
  | unknown
  deriving DecidableEq, Repr

/-- A token. The end of the document is the end of the tokens. -/
inductive Token where
  | directive (d : Directive)
  | documentStart
  | documentEnd
  | blockSequence
  | blockMapping
  | blockEnd
  | flowSequence
  | flowSequenceEnd
  | flowMapping
  | flowMappingEnd
  | blockEntry
  | flowEntry
  | key
  | value
  | anchorUse (name : Chars)
  | anchor (name : Chars)
  | tag (name : TagName)
  /-- A text, and whether it is written without quotes and indicators. -/
  | scalar (text : Text.Wide) (plain : Bool)
  deriving DecidableEq, Repr

end ScriptReport.Yaml

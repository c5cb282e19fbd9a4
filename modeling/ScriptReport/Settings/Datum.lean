/-
  ScriptReport.Settings.Datum

  Values of any kind, as a caller may give them where one kind is wanted.
-/

import ScriptReport.Text.Double
import ScriptReport.Text.Quoted

namespace ScriptReport

/-! ## Values -/

/-- A value of any kind. -/
inductive Datum where
  | null
  | flag (b : Bool)
  | integer (n : Int)
  | real (x : Text.Double)
  | text (t : Chars)
  | list (items : List Datum)
  | mapping (entries : List (Chars × Datum))
  deriving Inhabited, Repr

namespace Datum

/-- A text, or no value. -/
def ofText? : Option Chars → Datum
  | some t => .text t
  | none => .null

/-- An integer, or no value. -/
def ofInt? : Option Int → Datum
  | some n => .integer n
  | none => .null

/-! ## Kinds -/

/-- There is no value. -/
def isNull : Datum → Bool
  | .null => true
  | _ => false

/-- The text that the value is. -/
def text? : Datum → Option Chars
  | .text t => some t
  | _ => none

/-- The integer that the value counts as; a flag counts as one or zero. -/
def int? : Datum → Option Int
  | .integer n => some n
  | .flag b => some (if b then 1 else 0)
  | _ => none

/-- The value counts as true: it is neither nothing nor zero nor empty. -/
def holds : Datum → Bool
  | .null => false
  | .flag b => b
  | .integer n => n ≠ 0
  | .real x => x.toInt? ≠ some 0
  | .text t => t ≠ []
  | .list items => !items.isEmpty
  | .mapping entries => !entries.isEmpty

/-! ## Text -/

mutual

/-- The value as it is shown in messages. -/
def quoted : Datum → Chars
  | .null => "None"
  | .flag b => if b then "True" else "False"
  | .integer n => Text.ofInt n
  | .real x => x.text
  | .text t => Text.quoted t
  | .list items => "[" ++ Text.join ", " (quotedItems items) ++ "]"
  | .mapping entries => "\x7b" ++ Text.join ", " (quotedEntries entries) ++ "\x7d"

/-- Each member as it is shown in messages. -/
def quotedItems : List Datum → List Chars
  | [] => []
  | item :: rest => quoted item :: quotedItems rest

/-- Each entry as it is shown in messages. -/
def quotedEntries : List (Chars × Datum) → List Chars
  | [] => []
  | (key, value) :: rest => (Text.quoted key ++ ": " ++ quoted value) :: quotedEntries rest

end

end Datum

end ScriptReport

/-
  ScriptReport.Yaml.SetOrder

  The order in which a set of numbers is shown. The members lie in a table whose size is a power
  of two: each has a place of its own by its value and, if that is taken, looks for the next free
  one.
-/

import ScriptReport.Text.Double

namespace ScriptReport.Yaml.SetOrder

/-! ## Words -/

/-- The modulus that equal numbers of different kinds agree by, a prime. -/
def modulus : Nat := Nat.pow 2 61 - 1

/-- A remainder with a sign as a machine word. The word of minus one has another purpose. -/
def signedWord (negative : Bool) (size : Nat) : Nat :=
  if !negative || size = 0 then size
  else Nat.pow 2 64 - (if size = 1 then 2 else size)

/-- The word of an integer. -/
def ofInt (n : Int) : Nat := signedWord (n < 0) (n.natAbs % modulus)

/-- The word of a real number, which is that of the integer it may be equal to. -/
def ofDouble : Text.Double → Nat
  | .nan => 0
  | .infinite negative => signedWord negative 314159
  | .finite negative mantissa exponent =>
    signedWord negative (mantissa * Nat.pow 2 (exponent.emod 61).toNat % modulus)

/-! ## Tables -/

/-- The first free place among `count` neighbours. -/
def freeAmong? {α : Type} (table : List (Option α)) (place : Nat) : Nat → Option Nat
  | 0 => none
  | count + 1 =>
    match table[place]? with
    | some none => some place
    | _ => freeAmong? table (place + 1) count

/-- The free place for a member. Ten neighbours are tried where so many follow, and then another
    place that depends on more of the word. -/
def freePlace {α : Type} (table : List (Option α)) : Nat → Nat → Nat → Nat
  | 0, _, place => place
  | fuel + 1, word, place =>
    match freeAmong? table place (if place + 9 < table.length then 10 else 1) with
    | some free => free
    | none => freePlace table fuel (word / 32) ((place * 5 + 1 + word / 32) % table.length)

/-- The table with one more member. Every place is reached within as many steps as there are
    places, once the word is used up. -/
def insert {α : Type} (word : α → Nat) (table : List (Option α)) (member : α) :
    List (Option α) :=
  let place := freePlace table (table.length + 16) (word member) (word member % table.length)
  table.set place (some member)

/-- The size of the table for so many members: more than twice as much, and at least eight. -/
def sizeFor (count : Nat) : Nat := if count < 5 then 8 else Nat.pow 2 ((2 * count).log2 + 1)

/-- Different members in the order of their places, by their words. -/
def arrange {α : Type} (word : α → Nat) (members : List α) : List α :=
  (members.foldl (insert word) (List.replicate (sizeFor members.length) none)).filterMap id

end ScriptReport.Yaml.SetOrder

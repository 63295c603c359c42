import Vetting.Validator.Hint.Value

/-!
# Vetting.Validator.Hint.Arrangement

The order in which a set gives its items. A set keeps them in a table whose size is a power of two:
each stands at the place that its hash number tells, or at one that is tried after it. The table
grows as it fills. Items without a known hash number stay in the order in which they were added.
-/

namespace Vetting

namespace HintValue

/-- The number that something is told apart by, if it is known. -/
def hashNumber? (v : HintValue) : Option Int := v.quantity?.bind Quantity.hash?

/-- The table of a set: at each place a hash number, and the item that has it. -/
abbrev SetTable := Array (Option (Nat × HintValue))

namespace SetTable

/-- How many places behind a first one are tried in a row. -/
def reach : Nat := 9

/-- The first free place that is tried from a place on. What is left of the hash number leads from
one row of places to the next. The fuel bounds the number of rows. -/
def freePlace? (table : SetTable) : (fuel place rest : Nat) → Option Nat
  | 0, _, _ => none
  | fuel + 1, place, rest =>
    let row := if place + reach < table.size then reach + 1 else 1
    match (List.range row).find? fun n => (table.getD (place + n) none).isNone with
    | some n => some (place + n)
    | none =>
      let rest := rest / 32
      freePlace? table fuel ((place * 5 + 1 + rest) % table.size) rest

/-- A table with one more item. -/
def put (table : SetTable) (entry : Nat × HintValue) : SetTable :=
  match freePlace? table (table.size + 16) (entry.1 % table.size) entry.1 with
  | some place => table.setIfInBounds place (some entry)
  | none => table

/-- The entries of a table in their order. -/
def entries (table : SetTable) : List (Nat × HintValue) := table.toList.filterMap id

/-- An empty table of a size. -/
def empty (size : Nat) : SetTable := Array.replicate size none

/-- The size of the table that a number of items grows into: four times as large, or twice where
they are many. -/
def grownSize (count : Nat) : Nat :=
  Nat.pow 2 (max 3 (Nat.log2 (if 50000 < count then 2 * count else 4 * count) + 1))

/-- A table with one more item, of which there are then `count`. A table that is filled by three
fifths grows. -/
def add (table : SetTable) (count : Nat) (entry : Nat × HintValue) : SetTable :=
  let table := put table entry
  if 5 * count < 3 * (table.size - 1) then table
  else table.entries.foldl put (empty (grownSize count))

end SetTable

/-- Different items in the order in which a set gives them that they are added to one after the
other. -/
def arranged (vs : List HintValue) : List HintValue :=
  match vs.mapM hashNumber? with
  | none => vs
  | some hashes =>
    let entries := (hashes.map fun n => (n % Int.ofNat (Nat.pow 2 64)).toNat).zip vs
    let table := (entries.zipIdx 1).foldl
      (fun table (entry, count) => SetTable.add table count entry) (SetTable.empty 8)
    table.entries.map (·.2)

/-- A set of some things. -/
def setOf (vs : List HintValue) : HintValue := .set (arranged (dedupe vs))

/-- A set of some things that does not change. -/
def frozenOf (vs : List HintValue) : HintValue := .frozenset (arranged (dedupe vs))

end HintValue

end Vetting

import Vetting.Validator.Hint.Wording

/-!
# Vetting.Validator.Hint.Item

The items of things. Some general types take arguments and become aliases, the optional form takes
one type; sequences have their items by position, mappings by key.
-/

namespace Vetting

namespace HintValue

/-- The general types that can be given arguments. -/
def containerTypes : List String :=
  ["BaseExceptionGroup", "ExceptionGroup", "dict", "enumerate", "frozenset", "list", "set",
   "tuple", "type"]

/-- The fault of a position that a sequence does not have. -/
def outOfRange (sequence : String) : Fault :=
  .withText "IndexError" (sequence ++ "index out of range")

/-- The greatest number that counts items. -/
def maxIndex : Int := 9223372036854775807

/-- The item at a position. Positions before zero are counted from the end. -/
def atPosition? {α : Type} (items : List α) (n : Int) : Option α :=
  let n := if n < 0 then n + Int.ofNat items.length else n
  if n < 0 then none else items[n.toNat]?

/-- An end of a part of a sequence of some length, within `low` and `high`. -/
def clampEnd (length low high : Int) (given : Int) : Int :=
  let n := if given < 0 then given + length else given
  if n < low then low else if high < n then high else n

/-- The positions from one on, in steps, before the end. The fuel bounds their number. -/
def positions (step stop : Int) : (fuel : Nat) → Int → List Nat
  | 0, _ => []
  | fuel + 1, n =>
    if (0 < step ∧ n < stop) ∨ (step < 0 ∧ stop < n) then
      n.toNat :: positions step stop fuel (n + step)
    else []

/-- An end of a part: a whole number, or nothing. -/
def partEnd (v : HintValue) : Except Fault (Option Int) :=
  match v, v.whole? with
  | _, some n => .ok (some n)
  | .value .null, _ => .ok none
  | _, _ =>
    .error (mismatch "slice indices must be integers or None or have an __index__ method")

/-- Where a part of a sequence starts, before which position it ends, and its steps. -/
def partBounds (length : Int) (first last step : HintValue) : Except Fault (Int × Int × Int) := do
  let step := (← partEnd step).getD 1
  if step = 0 then throw (.withText "ValueError" "slice step cannot be zero")
  let first? ← partEnd first
  let last? ← partEnd last
  let (low, high) := if 0 < step then ((0 : Int), length) else (-1, length - 1)
  let start := (first?.map (clampEnd length low high)).getD (if 0 < step then low else high)
  let stop := (last?.map (clampEnd length low high)).getD (if 0 < step then high else low)
  return (start, stop, step)

/-- A part of a sequence. -/
def part {α : Type} (items : List α) (first last step : HintValue) : Except Fault (List α) := do
  let (start, stop, step) ← partBounds (Int.ofNat items.length) first last step
  return (positions step stop (items.length + 1) start).filterMap fun n => items[n]?

/-- The item of a sequence for a key: a position, or a part. `name` names the sequence in messages
about keys, `inRange` in messages about positions, and `make` makes a sequence of items. -/
def ofSequence {α : Type} (program : Program) (name inRange : String) (items : List α)
    (make : List α → HintValue) (one : α → HintValue) (key : HintValue) :
    Except Fault HintValue :=
  match key, key.whole? with
  | .slice first last step, _ => (part items first last step).map make
  | _, some n =>
    if maxIndex < n ∨ n < -maxIndex - 1 then
      .error (.withText "IndexError" "cannot fit 'int' into an index-sized integer")
    else
    match atPosition? items n with
    | some item => .ok (one item)
    | none => .error (outOfRange inRange)
  | _, none =>
    .error (mismatch (name ++ "indices must be integers or slices, not " ++ program.typeName key))

/-- The item of a text for a key. -/
def ofText (program : Program) (s : String) (key : HintValue) : Except Fault HintValue :=
  match key, key.whole? with
  | .slice _ _ _, _ | _, some _ =>
    ofSequence program "string " "string " s.toList (fun cs => text (String.ofList cs))
      (fun c => text c.toString) key
  | _, none =>
    .error (mismatch
      ("string indices must be integers, not " ++ Text.quoted (program.typeName key)))

/-- The item of a range for a key. -/
def ofRange (program : Program) (first step : Int) (count : Nat) (key : HintValue) :
    Except Fault HintValue :=
  match key, key.whole? with
  | .slice head tail gap, _ => do
    let (start, stop, stride) ← partBounds (Int.ofNat count) head tail gap
    let length :=
      if 0 < stride then Int.fdiv (stop - start + stride - 1) stride
      else Int.fdiv (start - stop - stride - 1) (-stride)
    return .range (first + step * start) (step * stride) (first + step * stop) length.toNat
  | _, some n =>
    let n := if n < 0 then n + Int.ofNat count else n
    if n < 0 ∨ Int.ofNat count ≤ n then .error (outOfRange "range object ")
    else .ok (int (first + step * n))
  | _, none =>
    .error (mismatch ("range indices must be integers or slices, not " ++ program.typeName key))

/-- The fault of a key that a mapping does not have. -/
def missingKey (program : Program) (key : HintValue) : Fault :=
  match key with
  | .value v => .raised "KeyError" [v]
  | v => .worded "KeyError" (program.shown v)

/-- The fault of something that has no items. -/
def withoutItems (program : Program) (object : HintValue) : Fault :=
  if object.isType then
    mismatch ("type " ++ Text.quoted (program.typeTitle object) ++ " is not subscriptable")
  else mismatch (Text.quoted (program.typeName object) ++ " object is not subscriptable")

/-- The item of a thing for a key. -/
def item (program : Program) (object key : HintValue) : Except Fault HintValue :=
  match object with
  | .type name =>
    if containerTypes.contains name then
      .ok (.alias object (match key with
        | .tuple keys => keys
        | key => [key]))
    else .error (withoutItems program object)
  | .optionalForm => optionalOf program key
  | .alias _ _ | .union _ | .choice _ =>
    .error (mismatch (program.shown object ++ " is not a generic class"))
  | .value (.text s) => ofText program s key
  | .bytes s =>
    ofSequence program "byte " "" s.toList (fun cs => .bytes (String.ofList cs))
      (fun c => int c.toNat) key
  | .list items => ofSequence program "list " "list " items .list id key
  | .tuple items => ofSequence program "tuple " "tuple " items .tuple id key
  | .range first step _ count => ofRange program first step count key
  | .mapping entries => do
    key.hashed
    match entries.find? fun (k, _) => same key k with
    | some (_, v) => return v
    | none => throw (missingKey program key)
  | object => .error (withoutItems program object)

end HintValue

end Vetting

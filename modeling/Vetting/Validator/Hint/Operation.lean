import Vetting.Validator.Hint.Arrangement
import Vetting.Validator.Hint.Item

/-!
# Vetting.Validator.Hint.Operation

The operators of hints. Types are joined; numbers, texts and collections have the operators that
values have elsewhere. Of numbers that are not worked out only the type is known, and it is all that
is known of what is made of them.
-/

namespace Vetting

namespace HintValue

/-- The greatest size of a collection that is worked out. -/
def maxSize : Nat := 1000000

/-- The kinds of numbers, narrower ones first. -/
def numberTypes : List String := ["bool", "int", "float", "complex"]

/-- The place of the type of something among the kinds of numbers. -/
def numberRank? (v : HintValue) : Option Nat :=
  match v with
  | .thing (.type name) => numberTypes.findIdx? (· == name)
  | v => if v.quantity?.isSome then numberTypes.findIdx? (· == v.generalTypeName) else none

/-- An operator between two truth values that gives another one, if it is such. -/
def truthOperation? (operator : BinaryOperator) (a b : Bool) : Option Bool :=
  match operator with
  | .or => some (a || b)
  | .xor => some (a != b)
  | .and => some (a && b)
  | _ => none

/-- The fault of an operator that two things do not have. -/
def unsupported (program : Program) (operator : BinaryOperator) (v w : HintValue) : Fault :=
  mismatch ("unsupported operand type(s) for " ++ operator.sign ++ ": " ++
    Text.quoted (program.typeName v) ++ " and " ++ Text.quoted (program.typeName w))

/-- The number of items of the greatest collection that there is room for. -/
def maxRoom : Nat := 1000000000000

/-- The items of a sequence several times over, if there is room for them. What is too large but has
room is not worked out. -/
def repeated {α : Type} (items : List α) (n : Int) : Except Fault (Option (List α)) :=
  if maxIndex < n ∨ n < -maxIndex - 1 then
    .error (Quantity.overflow "cannot fit 'int' into an index-sized integer")
  else if items.isEmpty then .ok (some [])
  else if maxRoom < items.length * n.toNat then .error (.raised "MemoryError" [])
  else if maxSize < items.length * n.toNat then .ok none
  else .ok (some (List.replicate n.toNat items).flatten)

/-- A sequence several times over. -/
def repeatedSequence (n : Int) (v : HintValue) : Except Fault HintValue :=
  let made {α : Type} (items : List α) (make : List α → HintValue) : Except Fault HintValue := do
    return ((← repeated items n).map make).getD (thingOf v.generalTypeName)
  match v with
  | .value (.text s) => made s.toList fun cs => text (String.ofList cs)
  | .bytes s => made s.toList fun cs => .bytes (String.ofList cs)
  | .list items => made items .list
  | .tuple items => made items .tuple
  | v => .ok v

/-- Whether something is a sequence. -/
def isSequence : HintValue → Bool
  | .value (.text _) | .bytes _ | .list _ | .tuple _ => true
  | _ => false

/-- Two sequences of one kind one after the other. -/
def appended? : HintValue → HintValue → Option HintValue
  | .value (.text s), .value (.text t) => some (text (s ++ t))
  | .bytes s, .bytes t => some (.bytes (s ++ t))
  | .list vs, .list ws => some (.list (vs ++ ws))
  | .tuple vs, .tuple ws => some (.tuple (vs ++ ws))
  | _, _ => none

/-- The fault of something that cannot be put behind a sequence, or of another sum. -/
def sumFault (program : Program) (v w : HintValue) : Fault :=
  if v matches .bytes _ then
    mismatch ("can't concat " ++ program.typeName w ++ " to bytes")
  else if v.isSequence then
    mismatch ("can only concatenate " ++ program.typeName v ++ " (not \"" ++ program.typeName w ++
      "\") to " ++ program.typeName v)
  else unsupported program .plus v w

/-- A sequence several times over. -/
def product (program : Program) (v w : HintValue) : Except Fault HintValue :=
  match v.isSequence, w.isSequence, v.whole?, w.whole? with
  | true, _, _, some n => repeatedSequence n v
  | _, true, some n, _ => repeatedSequence n w
  | true, _, _, none =>
    .error (mismatch
      ("can't multiply sequence by non-int of type " ++ Text.quoted (program.typeName w)))
  | _, true, none, _ =>
    .error (mismatch
      ("can't multiply sequence by non-int of type " ++ Text.quoted (program.typeName v)))
  | _, _, _, _ => .error (unsupported program .times v w)

/-- Entries of which later ones replace earlier ones. -/
def withEntry (entries : List (HintValue × HintValue)) (key v : HintValue) :
    List (HintValue × HintValue) :=
  if entries.any fun (k, _) => same key k then
    entries.map fun (k, old) => if same key k then (k, v) else (k, old)
  else entries ++ [(key, v)]

/-- The items of a set, or of a view of a mapping. -/
def setItems? : HintValue → Option (List HintValue)
  | .supply "dict_keys" items | .supply "dict_items" items => some items
  | v => v.members?

/-- An operator between two sets, if it is such. -/
def setOperation? (operator : BinaryOperator) (vs ws : List HintValue) :
    Option (List HintValue) :=
  let isIn (held : List HintValue) (v : HintValue) : Bool := held.any (same v)
  match operator with
  | .or => some (dedupe (vs ++ ws))
  | .and => some (vs.filter (isIn ws))
  | .minus => some (vs.filter fun v => !isIn ws v)
  | .xor => some ((vs.filter fun v => !isIn ws v) ++ ws.filter fun w => !isIn vs w)
  | _ => none

/-- What an operator makes of two numbers of which one is not worked out. -/
def unknownOperation (program : Program) (operator : BinaryOperator) (m n : Nat)
    (v w : HintValue) : Except Fault HintValue :=
  let rank := max (max m n) 1
  let isBitwise := [BinaryOperator.or, .xor, .and, .left, .right].contains operator
  if operator = .matrix || (isBitwise && rank != 1) ||
      (rank = 3 && (operator = .floor || operator = .remainder)) then
    .error (unsupported program operator v w)
  else if operator = .divide && rank = 1 then .ok (thingOf "float")
  else .ok (thingOf ((numberTypes[rank]?).getD "int"))

/-- What an operator makes of two things that are neither numbers, sets nor types. -/
def operateOther (program : Program) (operator : BinaryOperator) (v w : HintValue) :
    Except Fault HintValue :=
  match operator, v with
  | .plus, v =>
    match appended? v w with
    | some found => .ok found
    | none => .error (sumFault program v w)
  | .times, v => product program v w
  | .remainder, .value (.text pattern) => fillPattern program false (item program w) pattern w
  | .remainder, .bytes pattern => fillPattern program true (item program w) pattern w
  | _, _ => .error (unsupported program operator v w)

/-- What an operator makes of its operands. -/
def operate (program : Program) (operator : BinaryOperator) (v w : HintValue) :
    Except Fault HintValue :=
  let unsupported := unsupported program operator v w
  match (if operator = .or then joined? program v w else none), v, w with
  | some found, _, _ => found
  | none, .value (.bool a), .value (.bool b) =>
    match truthOperation? operator a b, v.quantity?, w.quantity? with
    | some c, _, _ => .ok (bool c)
    | none, some p, some q =>
      match Quantity.operate? operator p q with
      | some found => found.map ofQuantity
      | none => .error unsupported
    | none, _, _ => .error unsupported
  | none, .mapping vs, .mapping ws =>
    if operator = .or then
      .ok (.mapping (ws.foldl (fun entries (key, w) => withEntry entries key w) vs))
    else .error unsupported
  | none, v, w =>
    match v.quantity?, w.quantity?, v.setItems?, w.setItems? with
    | some p, some q, _, _ =>
      if Quantity.isGiant operator p q then .ok (thingOf "int")
      else
        match Quantity.operate? operator p q with
        | some found => found.map ofQuantity
        | none => .error unsupported
    | _, _, some vs, some ws =>
      match setOperation? operator vs ws with
      | some found => .ok (if v matches .frozenset _ then frozenOf found else setOf found)
      | none => .error unsupported
    | _, _, _, _ =>
      match v.numberRank?, w.numberRank? with
      | some m, some n => unknownOperation program operator m n v w
      | _, _ => operateOther program operator v w

/-- What an operator makes of the operand behind it. -/
def operateOn (program : Program) (operator : UnaryOperator) (v : HintValue) :
    Except Fault HintValue :=
  let fault : Fault :=
    mismatch ("bad operand type for unary " ++ operator.sign ++ ": " ++
      Text.quoted (program.typeName v))
  match operator, v.quantity? with
  | .not, _ => .ok (bool !v.truthy)
  | .plus, some q => .ok (ofQuantity q)
  | .minus, some q => .ok (ofQuantity q.negated)
  | .invert, some (.whole n) => .ok (int (-n - 1))
  | operator, _ =>
    match v.numberRank? with
    | some rank =>
      if operator = .invert && rank != 1 then .error fault
      else .ok (thingOf v.generalTypeName)
    | none => .error fault

/-- Whether a part stands somewhere in a text. -/
def isWithin (part whole : String) : Bool :=
  (Text.afterFirst? part.toList whole.toList).isSome

/-- The whole numbers of a range. The fuel is how many they are. -/
def wholes (step : Int) : (fuel : Nat) → Int → List HintValue
  | 0, _ => []
  | fuel + 1, n => int n :: wholes step fuel (n + step)

/-- The things that a collection gives one by one. -/
def items (program : Program) : HintValue → Except Fault (List HintValue)
  | .list vs | .tuple vs | .set vs | .frozenset vs | .supply _ vs => .ok vs
  | .halting _ _ fault => .error fault
  | .range first step _ count => .ok (wholes step (min count maxSize) first)
  | .mapping entries => .ok (entries.map (·.1))
  | .value (.text s) => .ok (s.toList.map fun c => text c.toString)
  | .bytes s => .ok (s.toList.map fun c => int c.toNat)
  | .alias origin arguments => .ok [.alias origin arguments]
  | v => .error (mismatch (Text.quoted (program.typeName v) ++ " object is not iterable"))

/-- The things that a collection gives one by one, and a fault of its own where something is no
collection. -/
def itemsOr (program : Program) (fault : Fault) (v : HintValue) : Except Fault (List HintValue) :=
  match v, items program v with
  | .halting _ _ raised, _ => .error raised
  | _, .ok vs => .ok vs
  | _, .error _ => .error fault

/-- Whether a number is one of a range. -/
def isInRange (first step : Int) (count : Nat) (q : Quantity) : Bool :=
  let whole? : Option Int :=
    match q with
    | .whole n => some n
    | .pointed x => if x.isWhole then x.truncated? else none
    | .complex _ _ => none
  match whole? with
  | some n =>
    let distance := n - first
    let place := if step = 0 then 0 else Int.fdiv distance step
    place * step == distance && decide (0 ≤ place) && decide (place < Int.ofNat count)
  | none => false

/-- Whether something is held by a collection. -/
def isHeld (program : Program) (v w : HintValue) : Except Fault Bool :=
  match v, w with
  | .value (.text part), .value (.text whole) => .ok (isWithin part whole)
  | v, .value (.text _) =>
    .error (mismatch ("'in <string>' requires string as left operand, not " ++ program.typeName v))
  | v, .bytes s =>
    match v, v.whole? with
    | .bytes part, _ => .ok (isWithin part s)
    | _, some n =>
      if n < 0 ∨ 256 ≤ n then .error (.withText "ValueError" "byte must be in range(0, 256)")
      else .ok (s.toList.any fun c => Int.ofNat c.toNat == n)
    | v, none =>
      .error (mismatch ("a bytes-like object is required, not " ++
        Text.quoted (program.typeName v)))
  | v, .set vs | v, .frozenset vs => do
    if !(v matches .set _) then v.hashed
    return vs.any (same v)
  | v, .mapping entries => do
    v.hashed
    return entries.any fun (k, _) => same v k
  | v, .halting _ vs fault => if vs.any (same v) then .ok true else .error fault
  | v, .range first step _ count =>
    .ok ((v.quantity?.map (isInRange first step count)).getD false)
  | v, w =>
    match items program w with
    | .ok vs => .ok (vs.any (same v))
    | .error _ =>
      .error (mismatch ("argument of type " ++ Text.quoted (program.typeName w) ++
        " is not iterable"))

/-! ### Comparisons -/

/-- Whether a comparison of order holds for what is equal. -/
def holdsForEqual (comparison : Comparison) : Bool :=
  comparison = .lessEqual || comparison = .greaterEqual

/-- Whether a comparison of order holds where the first stands before the second. -/
def holdsForLess (comparison : Comparison) : Bool :=
  comparison = .less || comparison = .lessEqual

/-- A comparison of order between two numbers, if numbers of their kinds have one. -/
def comparedNumbers? (comparison : Comparison) (p q : Quantity) : Option Bool :=
  match p.isBelow? q, q.isBelow? p with
  | some below, some above =>
    some ((if holdsForLess comparison then below else above) ||
      (holdsForEqual comparison && p.equals q))
  | _, _ => none

/-- A comparison of order between two lists of characters. -/
def comparedTexts (comparison : Comparison) (s t : String) : Bool :=
  if s == t then holdsForEqual comparison
  else Text.precedes s.toList t.toList == holdsForLess comparison

/-- A comparison of order between two sets: whether the one is a part of the other. -/
def comparedSets (comparison : Comparison) (vs ws : List HintValue) : Bool :=
  let isPart (vs ws : List HintValue) : Bool :=
    holdsAll ws vs && (holdsForEqual comparison || decide (vs.length < ws.length))
  if holdsForLess comparison then isPart vs ws else isPart ws vs

/-- The fault of two things that have no order. -/
def withoutOrder (program : Program) (comparison : Comparison) (v w : HintValue) : Fault :=
  mismatch (Text.quoted comparison.sign ++ " not supported between instances of " ++
    Text.quoted (program.typeName v) ++ " and " ++ Text.quoted (program.typeName w))

/-- A comparison of order between two things that are no sequences. What is not known of numbers
that are not worked out is not told. -/
def comparedSimple (program : Program) (comparison : Comparison) (v w : HintValue) :
    Except Fault (Option Bool) :=
  match v, w with
  | .value (.text s), .value (.text t) => .ok (some (comparedTexts comparison s t))
  | .bytes s, .bytes t => .ok (some (comparedTexts comparison s t))
  | v, w =>
    match v.quantity?, w.quantity?, v.setItems?, w.setItems? with
    | some p, some q, _, _ =>
      match comparedNumbers? comparison p q with
      | some b => .ok (some b)
      | none => .error (withoutOrder program comparison v w)
    | _, _, some vs, some ws => .ok (some (comparedSets comparison vs ws))
    | _, _, _, _ =>
      match v.numberRank?, w.numberRank? with
      | some m, some n =>
        if max m n = 3 then .error (withoutOrder program comparison v w) else .ok none
      | _, _ => .error (withoutOrder program comparison v w)

mutual

/-- A comparison of order between two things. -/
def compared (program : Program) (comparison : Comparison) :
    HintValue → HintValue → Except Fault (Option Bool)
  | .list vs, .list ws => comparedItems program comparison vs ws
  | .tuple vs, .tuple ws => comparedItems program comparison vs ws
  | v, w => comparedSimple program comparison v w

/-- A comparison of order between two sequences: the first items that are not equal count. -/
def comparedItems (program : Program) (comparison : Comparison) :
    List HintValue → List HintValue → Except Fault (Option Bool)
  | [], [] => .ok (some (holdsForEqual comparison))
  | [], _ :: _ => .ok (some (holdsForLess comparison))
  | _ :: _, [] => .ok (some (!holdsForLess comparison))
  | v :: vs, w :: ws =>
    if same v w then comparedItems program comparison vs ws
    else compared program comparison v w

end

/-- Whether something is made anew each time that its expression is evaluated. -/
def isFresh : HintValue → Bool
  | .list _ | .set _ | .frozenset _ | .mapping _ | .supply _ _ | .halting _ _ _ => true
  | .thing _ | .closure _ _ _ => true
  | .alias _ _ | .union _ | .method _ _ | .range _ _ _ _ | .verdict _ _ _ | .unraised _ _ => true
  | .tuple items => !items.isEmpty
  | _ => false

/-- Whether two things are one and the same. -/
def isOne (v w : HintValue) : Bool :=
  !v.isFresh && v.generalTypeName == w.generalTypeName && same v w

/-- The outcome of a comparison. -/
def compare (program : Program) (comparison : Comparison) (v w : HintValue) :
    Except Fault HintValue :=
  match comparison with
  | .equal => .ok (bool (same v w))
  | .unequal => .ok (bool !same v w)
  | .within => (isHeld program v w).map bool
  | .without => (isHeld program v w).map fun b => bool !b
  | .same => .ok (bool (isOne v w))
  | .different => .ok (bool !isOne v w)
  | comparison => do
    match ← compared program comparison v w with
    | some b => return bool b
    | none => return thingOf "bool"

end HintValue

end Vetting

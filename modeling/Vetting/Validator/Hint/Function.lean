import Vetting.Validator.Hint.Construction

/-!
# Vetting.Validator.Hint.Function

What the functions that are known everywhere tell about things. Things are put in order by keys: the
things themselves, or what a function gives for each.
-/

namespace Vetting

namespace HintValue

/-- The functions that take exactly one argument, which has no name. -/
def singleFunctions : List String :=
  ["abs", "all", "any", "ascii", "bin", "callable", "chr", "hash", "hex", "id", "len", "oct", "ord",
   "repr"]

/-- The least and the greatest number of arguments of other functions. -/
def functionCounts : List (String × Nat × Nat) :=
  [("divmod", 2, 2), ("getattr", 2, 3), ("hasattr", 2, 2), ("isinstance", 2, 2),
   ("issubclass", 2, 2), ("iter", 1, 2), ("next", 1, 2), ("sorted", 1, 1), ("vars", 0, 1),
   ("eval", 1, 3), ("exec", 1, 3), ("format", 1, 2), ("dir", 0, 1), ("setattr", 3, 3),
   ("delattr", 2, 2)]

/-- The parameters of functions that can be given by name, in their order. -/
def namedParametersOf : List (String × List String) :=
  [("sum", ["", "start"]), ("round", ["number", "ndigits"]), ("pow", ["base", "exp", "mod"]),
   ("max", []), ("min", []), ("sorted", []), ("print", []), ("open", []), ("compile", []),
   ("__import__", [])]

/-- The arguments of a function in the order of its parameters, as far as they are given. -/
def inOrder (name : String) (arguments : CallArguments) : List HintValue :=
  let parameters := (namedParametersOf.lookup name).getD []
  let named := (parameters.drop arguments.placed.length).map fun p => arguments.named.lookup p
  arguments.placed ++ (named.takeWhile Option.isSome).filterMap id

/-- The size of a thing that has one. -/
def size? : HintValue → Option Nat
  | .value (.text s) => some s.length
  | .bytes s => some s.length
  | .list vs | .tuple vs | .set vs | .frozenset vs => some vs.length
  | .range _ _ _ count => some count
  | .mapping entries => some entries.length
  | .supply name vs =>
    if viewTypes.contains name then some vs.length else none
  | _ => none

/-- Whether something can be called. -/
def isCallable : HintValue → Bool
  | .entity (.function _) | .entity (.bound _) | .entity (.builtin _) | .entity (.static _) => true
  | .alias _ _ | .choice _ | .optionalForm | .method _ _ | .closure _ _ _ => true
  | v => v.isType

/-- Whether a type is another one or based on it. -/
def isBasedOn (program : Program) (t other : HintValue) : Bool :=
  match t, other with
  | _, .type "object" => true
  | .type m, .type n => (BaseType.generalLineage m).contains n
  | .verdictType m, .verdictType n => m == n || n == "ValidatorResult"
  | .entity (.classRef k), .entity (.classRef number) => (program.lineage k).contains (.own number)
  | .entity (.classRef k), .verdictType n => (program.lineage k).contains (.known n)
  | .entity (.classRef k), .type n => (program.lineage k).contains (.known n)
  | _, _ => false

/-- The types that the second argument of a question about types stands for. The fuel bounds how
deep they can lie in one another. -/
def askedTypes? : (fuel : Nat) → HintValue → Option (List HintValue)
  | 0, _ => none
  | fuel + 1, .tuple vs => (vs.mapM (askedTypes? fuel)).map List.flatten
  | _ + 1, .union members => if members.all isType then some members else none
  | _ + 1, v => if v.isType then some [v] else none

/-- The numbers in a base, with the mark of the base before them. -/
def inBase (mark : String) (base : Nat) (n : Int) : HintValue :=
  text ((if n < 0 then "-" else "") ++ mark ++ String.ofList (Nat.toDigits base n.natAbs))

/-! ### Order -/

/-- The first of some things with the least key, or with the greatest. -/
def extreme (program : Program) (comparison : Comparison) :
    HintValue × HintValue → List (HintValue × HintValue) → Except Fault HintValue
  | best, [] => .ok best.2
  | best, v :: rest => do
    let isBetter ← compare program comparison v.1 best.1
    extreme program comparison (if isBetter.truthy then v else best) rest

/-- The things that stand in order at the start of some, and those behind them: from a first thing
on, as long as a thing is less than the one before it, or as long as none is. What stands in order
is given from its end. -/
def orderedStart (program : Program) (isFalling : Bool) :
    (before : List (HintValue × HintValue)) → (last : HintValue × HintValue) →
    List (HintValue × HintValue) →
    Except Fault (List (HintValue × HintValue) × List (HintValue × HintValue))
  | before, last, [] => .ok (last :: before, [])
  | before, last, v :: rest => do
    let isLess ← compare program .less v.1 last.1
    if isLess.truthy = isFalling then orderedStart program isFalling (last :: before) v rest
    else return (last :: before, v :: rest)

/-- The place of a thing among ordered ones, behind those whose keys its own is not less than: the
places from `first` on and before `last` are halved again and again. The fuel bounds how often. -/
def placeAmong (program : Program) (key : HintValue) (ordered : Array (HintValue × HintValue)) :
    (fuel first last : Nat) → Except Fault Nat
  | 0, first, _ => .ok first
  | fuel + 1, first, last =>
    if last ≤ first then .ok first
    else do
      let middle := first + (last - first) / 2
      let isLess ← compare program .less key ((ordered[middle]?).map (·.1) |>.getD nothing)
      if isLess.truthy then placeAmong program key ordered fuel first middle
      else placeAmong program key ordered fuel (middle + 1) last

/-- Things put among ordered ones one after the other. -/
def insertAll (program : Program) :
    (ordered : Array (HintValue × HintValue)) → List (HintValue × HintValue) →
    Except Fault (Array (HintValue × HintValue))
  | ordered, [] => .ok ordered
  | ordered, v :: rest => do
    let place ← placeAmong program v.1 ordered (ordered.size + 1) 0 ordered.size
    insertAll program (ordered.insertIdxIfInBounds place v) rest

/-- Things in the order of their keys. In the reversed order, things with equal keys stay as they
are. -/
def ordered (program : Program) (isReversed : Bool) (vs : List (HintValue × HintValue)) :
    Except Fault (List HintValue) := do
  let vs := if isReversed then vs.reverse else vs
  let found ←
    match vs with
    | first :: second :: rest => do
      let isFalling := (← compare program .less second.1 first.1).truthy
      let (start, others) ← orderedStart program isFalling [first] second rest
      insertAll program (if isFalling then start else start.reverse).toArray others
    | vs => pure vs.toArray
  let found := found.toList.map (·.2)
  return if isReversed then found.reverse else found

/-- The greatest or the least of what is given. `keys?` are the keys of all things, where they are
not their own keys. -/
def mostOf (program : Program) (name : String) (arguments : CallArguments)
    (keys? : Option (List HintValue)) : Except Fault HintValue := do
  let comparison : Comparison := if name == "max" then .greater else .less
  match arguments.named.find? fun (p, _) => p != "key" && p != "default" with
  | some (p, _) =>
    throw (mismatch (Text.quoted p ++ " is an invalid keyword argument for " ++ name ++ "()"))
  | none => pure ()
  let other? := arguments.named.lookup "default"
  let vs ←
    match arguments.placed with
    | [] => throw (mismatch (name ++ " expected at least 1 argument, got 0"))
    | [v] => items program v
    | vs =>
      if other?.isSome then
        throw (mismatch ("Cannot specify a default for " ++ name ++
          "() with multiple positional arguments"))
      else pure vs
  match (keys?.getD vs).zip vs, other? with
  | v :: rest, _ => extreme program comparison v rest
  | [], some v => return v
  | [], none => throw (.withText "ValueError" (name ++ "() arg is an empty sequence"))

/-- Things in order. `keys?` are the keys of all things, where they are not their own keys. -/
def sorted (program : Program) (arguments : CallArguments) (keys? : Option (List HintValue)) :
    Except Fault HintValue := do
  match arguments.named.find? fun (p, _) => p != "key" && p != "reverse" with
  | some (p, _) =>
    throw (mismatch (Text.quoted p ++ " is an invalid keyword argument for sort()"))
  | none => pure ()
  let isReversed := ((arguments.named.lookup "reverse").map truthy).getD false
  let vs ← items program (arguments.placed.headD nothing)
  return .list (← ordered program isReversed ((keys?.getD vs).zip vs))

/-! ### Numbers -/

/-- What things are told apart by, if it is worked out. -/
def hashOf (v : HintValue) : HintValue :=
  match v.hashNumber? with
  | some n => int n
  | none => thingOf "int"

/-- A number rounded to a whole number, or to a number of places. -/
def round (program : Program) (v : HintValue) (places? : Option HintValue) :
    Except Fault HintValue :=
  match v.quantity?, places? with
  | some (.whole n), none | some (.whole n), some (.value .null) => .ok (int n)
  | some (.whole n), some places => do
    let places ← asNumber program places
    if 0 ≤ places then return int n
    else if places < -10000 then return int 0
    else return int (Quantity.roundedWhole n (-places).toNat)
  | some (.pointed x), none | some (.pointed x), some (.value .null) =>
    (Quantity.wholeOf Double.nearest? x).map int
  | some (.pointed x), some places => do
    let found := x.rounded (← asNumber program places)
    if x.isFinite && !found.isFinite then
      throw (Quantity.overflow "rounded value too large to represent")
    else return .value (.float found)
  | _, _ =>
    if v.numberRank?.any (· < 3) then
      .ok (thingOf (if places?.isSome then v.generalTypeName else "int"))
    else
      .error (mismatch ("type " ++ program.typeName v ++ " doesn't define __round__ method"))

/-- The inverse of a number up to a multiple of a modulus, if there is one: the first part of a
number pair that Euclid's steps lead to. The fuel bounds the number of steps. -/
def inverse? (modulus : Nat) : (fuel : Nat) → (r s : Nat) → (x y : Int) → Option Nat
  | 0, _, _, _, _ => none
  | fuel + 1, r, s, x, y =>
    if s = 0 then
      if r = 1 then some (Int.fmod x (Int.ofNat modulus)).toNat else none
    else inverse? modulus fuel s (r % s) y (x - Int.ofNat (r / s) * y)

/-- A power of a whole number up to a multiple of a modulus. -/
def powerModulo (m n modulus : Int) : Except Fault Int := do
  if modulus = 0 then throw (.withText "ValueError" "pow() 3rd argument cannot be 0")
  let size := modulus.natAbs
  let base := (Int.fmod m (Int.ofNat size)).toNat
  let base ←
    if 0 ≤ n then pure base
    else
      match inverse? size (2 * size.log2 + 10) base size 1 0 with
      | some b => pure b
      | none => throw (.withText "ValueError" "base is not invertible for the given modulus")
  let found := Quantity.powerModulo size (n.natAbs.log2 + 1) n.natAbs base (1 % size)
  return if modulus < 0 ∧ found ≠ 0 then Int.ofNat found + modulus else Int.ofNat found

/-- A power, perhaps up to a multiple of a modulus. -/
def powerOf (program : Program) : List HintValue → Except Fault HintValue
  | [v, w] | [v, w, .value .null] => operate program .power v w
  | [v, w, u] =>
    match v.whole?, w.whole?, u.whole? with
    | some m, some n, some modulus => (powerModulo m n modulus).map int
    | _, _, _ =>
      if v.numberRank?.isSome && w.numberRank?.isSome && u.numberRank?.isSome then
        if [v, w, u].any fun x => x.numberRank? == some 3 then
          .error (.withText "ValueError" "complex modulo")
        else
          .error (mismatch
            "pow() 3rd argument not allowed unless all arguments are integers")
      else
        .error (mismatch ("unsupported operand type(s) for ** or pow(): " ++
          ", ".intercalate ([v, w, u].map fun x => Text.quoted (program.typeName x))))
  | vs =>
    .error (mismatch ("pow() missing required argument '" ++
      (if vs.isEmpty then "base" else "exp") ++ "' (pos " ++ toString (vs.length + 1) ++ ")"))

/-- A quotient brought down to a whole number, and what is left. -/
def dividedBy (program : Program) (v w : HintValue) : Except Fault HintValue :=
  let fault : Fault :=
    mismatch ("unsupported operand type(s) for divmod(): " ++
      Text.quoted (program.typeName v) ++ " and " ++ Text.quoted (program.typeName w))
  match v.quantity?, w.quantity? with
  | some p, some q =>
    match Quantity.divided? p q with
    | some found => found.map fun (a, b) => .tuple [ofQuantity a, ofQuantity b]
    | none => .error fault
  | _, _ =>
    match v.numberRank?, w.numberRank? with
    | some m, some n =>
      let rank := max (max m n) 1
      if rank = 3 then .error fault
      else
        let part := thingOf ((numberTypes[rank]?).getD "int")
        .ok (.tuple [part, part])
    | _, _ => .error fault

/-- The sum of what a collection gives, from a first thing on. -/
def total (program : Program) (v first : HintValue) : Except Fault HintValue := do
  let found ← findingsOf program v
  match first with
  | .value (.text _) =>
    throw (mismatch "sum() can't sum strings [use ''.join(seq) instead]")
  | .bytes _ => throw (mismatch "sum() can't sum bytes [use b''.join(seq) instead]")
  | first => do
    let sum ← found.items.foldlM (operate program .plus) first
    match found.fault? with
    | some fault => throw fault
    | none => return sum

/-! ### Calls -/

/-- What a function of one thing gives. -/
def tell (program : Program) (name : String) (v : HintValue) : Except Fault HintValue :=
  match name with
  | "repr" => (writtenOut program v).map text
  | "ascii" => (writtenOut program v).map fun s => text (inBasicCharacters s)
  | "len" =>
    match v.size? with
    | some n =>
      if maxIndex < Int.ofNat n then
        .error (Quantity.overflow "Python int too large to convert to C ssize_t")
      else .ok (int (Int.ofNat n))
    | none =>
      .error (mismatch ("object of type " ++ Text.quoted (program.typeName v) ++ " has no len()"))
  | "callable" => .ok (bool v.isCallable)
  | "hash" => do
    v.hashed
    return v.hashOf
  | "abs" =>
    match v.quantity? with
    | some q => q.magnitude.map ofQuantity
    | none =>
      if v.numberRank?.isSome then .ok v
      else
        .error (mismatch ("bad operand type for abs(): " ++ Text.quoted (program.typeName v)))
  | "any" | "all" =>
    let isEnd (w : HintValue) : Bool := w.truthy == (name == "any")
    match v with
    | .halting _ vs fault => if vs.any isEnd then .ok (bool (name == "any")) else .error fault
    | v => do return bool ((← items program v).any isEnd == (name == "any"))
  | "bin" => (asNumber program v).map (inBase "0b" 2)
  | "oct" => (asNumber program v).map (inBase "0o" 8)
  | "hex" => (asNumber program v).map (inBase "0x" 16)
  | "chr" => do
    let n ← asNumber program v
    if 2147483647 < n ∨ n < -2147483648 then
      throw (Quantity.overflow "Python int too large to convert to C int")
    if n < 0 ∨ 0x110000 ≤ n then
      throw (.withText "ValueError" "chr() arg not in range(0x110000)")
    else return text (Char.ofNat n.toNat).toString
  | "ord" =>
    let ofCharacters (cs : List Char) : Except Fault HintValue :=
      match cs with
      | [c] => .ok (int c.toNat)
      | cs =>
        .error (mismatch ("ord() expected a character, but string of length " ++
          toString cs.length ++ " found"))
    match v with
    | .value (.text s) => ofCharacters s.toList
    | .bytes s => ofCharacters s.toList
    | v =>
      .error (mismatch ("ord() expected string of length 1, but " ++ program.typeName v ++
        " found"))
  | _ => .ok (thingOf "int")

/-- The name of an attribute, where one is needed. -/
def attributeName (program : Program) : HintValue → Except Fault String
  | .value (.text s) => .ok s
  | v =>
    .error (mismatch ("attribute name must be string, not " ++ Text.quoted (program.typeName v)))

/-- The name of the form of an attribute, whether it is read or only asked for. -/
def askAttribute (program : Program) (name : String) (object key : HintValue)
    (other? : Option HintValue) : Except Fault HintValue := do
  let key ← attributeName program key
  match read program object key, name, other? with
  | .ok v, name, _ => return if name == "hasattr" then bool true else v
  | .error fault, name, other? =>
    if fault.kindName != "AttributeError" then throw fault
    else if name == "hasattr" then return bool false
    else
      match other? with
      | some v => return v
      | none => throw fault

/-- The functions whose parameters can be given by name, and the names of others are not known. -/
def takesNames (name : String) : Bool := (namedParametersOf.lookup name).isSome

/-- The first name that an argument is given by and no parameter has. -/
def unknownName? (name : String) (arguments : CallArguments) : Option String :=
  match namedParametersOf.lookup name with
  | none | some [] => none
  | some parameters =>
    if arguments.placed.isEmpty && parameters.contains "" then none
    else (arguments.named.find? fun (p, _) => !parameters.contains p).map (·.1)

/-- What a function that is known everywhere gives. -/
def callFunction (program : Program) (name : String) (arguments : CallArguments) :
    Except Fault HintValue := do
  if singleFunctions.contains name then
    unnamed name arguments
    match arguments.placed with
    | [v] => return ← tell program name v
    | vs =>
      throw (mismatch (name ++ "() takes exactly one argument (" ++ toString vs.length ++
        " given)"))
  if !takesNames name then unnamed name arguments
  match (unknownName? name arguments) with
  | some p =>
    throw (mismatch (Text.quoted p ++ " is an invalid keyword argument for " ++ name ++ "()"))
  | none => pure ()
  match functionCounts.lookup name with
  | some (least, most) => counted name least most arguments.placed.length
  | none => pure ()
  match name, inOrder name arguments with
  | "max", _ | "min", _ => mostOf program name arguments none
  | "sorted", _ => sorted program arguments none
  | "sum", [v] => total program v (int 0)
  | "sum", [v, first] => total program v first
  | "sum", [] => throw (mismatch "sum() takes at least 1 positional argument (0 given)")
  | "sum", vs =>
    throw (mismatch ("sum() takes at most 2 arguments (" ++ toString vs.length ++ " given)"))
  | "isinstance", [v, t] =>
    match askedTypes? 20 t with
    | some ts => return bool (ts.any (isBasedOn program v.typeOf))
    | none =>
      throw (mismatch "isinstance() arg 2 must be a type, a tuple of types, or a union")
  | "issubclass", [v, t] =>
    if !v.isType then throw (mismatch "issubclass() arg 1 must be a class")
    else
      match askedTypes? 20 t with
      | some ts => return bool (ts.any (isBasedOn program v))
      | none =>
        throw (mismatch "issubclass() arg 2 must be a class, a tuple of classes, or a union")
  | "getattr", [v, key] => askAttribute program name v key none
  | "getattr", [v, key, other] => askAttribute program name v key (some other)
  | "hasattr", [v, key] => askAttribute program name v key none
  | "iter", [v] => iteratorOf program v
  | "next", v :: more =>
    match v with
    | .supply kind found =>
      if viewTypes.contains kind then
        throw (mismatch (Text.quoted (program.typeName v) ++ " object is not an iterator"))
      match found, more with
      | first :: _, _ => return first
      | [], other :: _ => return other
      | [], [] => throw (.raised "StopIteration" [])
    | .halting _ found fault =>
      match found with
      | first :: _ => return first
      | [] => throw fault
    | v => throw (mismatch (Text.quoted (program.typeName v) ++ " object is not an iterator"))
  | "divmod", [v, w] => dividedBy program v w
  | "pow", vs => powerOf program vs
  | "round", [v] => round program v none
  | "round", [v, places] => round program v (some places)
  | "round", [] => throw (mismatch "round() missing required argument 'number' (pos 1)")
  | "round", vs =>
    throw (mismatch ("round() takes at most 2 arguments (" ++ toString vs.length ++ " given)"))
  | "format", [v] => (formed program v "").map text
  | "format", [v, form] =>
    match form with
    | .value (.text form) => (formed program v form).map text
    | form =>
      throw (mismatch ("format() argument 2 must be str, not " ++
        argumentTypeName program form))
  | "print", _ => return nothing
  | "vars", [v] =>
    match read program v "__dict__" with
    | .ok found => return found
    | .error _ => throw (mismatch "vars() argument must have __dict__ attribute")
  | "__import__", [.value (.text s)] =>
    if ["builtins", "typing", "sys", "os", "re", "types"].contains s then return thingOf "module"
    else
      throw (.withText "ModuleNotFoundError" ("No module named " ++ Text.quoted s))
  | _, _ => return thingOf "object"

end HintValue

end Vetting

import Vetting.Validator.Hint.BytesMethod
import Vetting.Validator.Hint.Function

/-!
# Vetting.Validator.Hint.Method

What the functions that are read of things and of types give. Functions that stand for operators say
that they do not know things that are not of their kind. Functions that change their thing give
nothing, and the change is not kept.
-/

namespace Vetting

namespace HintValue

/-! ### Operators -/

/-- The operators that functions of things stand for. -/
def operatorNames : List (String × BinaryOperator) :=
  [("add", .plus), ("sub", .minus), ("mul", .times), ("or", .or), ("and", .and), ("xor", .xor),
   ("mod", .remainder), ("floordiv", .floor), ("truediv", .divide), ("pow", .power),
   ("lshift", .left), ("rshift", .right)]

/-- The comparisons that functions of things stand for. -/
def comparisonNames : List (String × Comparison) :=
  [("lt", .less), ("gt", .greater), ("le", .lessEqual), ("ge", .greaterEqual), ("eq", .equal),
   ("ne", .unequal)]

/-- The name of a function between two low lines on both sides. -/
def innerName? (name : String) : Option String :=
  match Text.after? ['_', '_'] name.toList with
  | some rest =>
    (Text.after? ['_', '_'] rest.reverse).map fun inner => String.ofList inner.reverse
  | none => none

/-- What is said of a thing that is not of the kind that an operator knows. -/
def unknownKind : HintValue := thingOf "NotImplementedType"

/-- Whether an operator of a first thing knows a second one: a number of no wider kind, a set, or a
thing of the same type. -/
def knowsKind (v w : HintValue) : Bool :=
  match v.numberRank?, w.numberRank? with
  | some m, some n => n ≤ max m 1
  | some _, none => false
  | none, _ =>
    if v.members?.isSome then w.members?.isSome
    else v.generalTypeName == w.generalTypeName && v.generalTypeName != ""

/-- What a function that stands for an operator or a comparison gives. Of an operator turned around,
the thing is the second operand. -/
def callOperator? (program : Program) (object : HintValue) (name : String) (w : HintValue) :
    Option (Except Fault HintValue) :=
  let unlessUnknown (found : Except Fault HintValue) : Except Fault HintValue :=
    match found with
    | .ok v => .ok v
    | .error fault => if fault.isA "TypeError" then .ok unknownKind else .error fault
  match innerName? name with
  | none => none
  | some inner =>
    match operatorNames.lookup inner, comparisonNames.lookup inner with
    | some operator, _ =>
      some (if object.isSequence then operate program operator object w
        else if object.numberRank?.isSome && !knowsKind object w then .ok unknownKind
        else unlessUnknown (operate program operator object w))
    | none, some comparison =>
      some (if comparison = .equal || comparison = .unequal then
          if knowsKind object w || same object w then compare program comparison object w
          else .ok unknownKind
        else if object.numberRank?.isSome && !knowsKind object w then .ok unknownKind
        else unlessUnknown (compare program comparison object w))
    | none, none =>
      match inner.toList with
      | 'r' :: rest =>
        (operatorNames.lookup (String.ofList rest)).map fun operator =>
          if object.numberRank?.isSome && !knowsKind object w then .ok unknownKind
          else unlessUnknown (operate program operator w object)
      | _ => none

/-! ### Numbers -/

/-- Bytes of a whole number that is not below zero, the last ones first. -/
def lowBytes (length n : Nat) : List Char :=
  (List.range length).map fun k => Char.ofNat (n / Nat.pow 256 k % 256)

/-- Whether the order of bytes that a text tells starts with the last ones. -/
def isLittle (v : HintValue) : Except Fault Bool :=
  match v with
  | .value (.text "little") => .ok true
  | .value (.text "big") => .ok false
  | _ => .error (.withText "ValueError" "byteorder must be either 'little' or 'big'")

/-- A whole number as bytes. -/
def wholeToBytes (program : Program) (n : Int) (length order isSigned : HintValue) :
    Except Fault HintValue := do
  let length ← asNumber program length
  if length < 0 then throw (.withText "ValueError" "length argument must be non-negative")
  let little ← isLittle order
  let length := min length.toNat maxSize
  let size := Nat.pow 256 length
  let tooBig := Quantity.overflow "int too big to convert"
  let held ←
    if isSigned.truthy then
      if 2 * n < -Int.ofNat size ∨ Int.ofNat size ≤ 2 * n then throw tooBig
      else pure (Int.emod n (Int.ofNat size)).toNat
    else if n < 0 then throw (Quantity.overflow "can't convert negative int to unsigned")
    else if Int.ofNat size ≤ n then throw tooBig
    else pure n.toNat
  let bytes := lowBytes length held
  return .bytes (String.ofList (if little then bytes else bytes.reverse))

/-- A whole number of bytes. -/
def wholeOfBytes (program : Program) (v order isSigned : HintValue) : Except Fault HintValue := do
  let cs ←
    match v with
    | .bytes s => pure s.toList
    | .value (.text _) =>
      throw (mismatch "cannot convert 'str' object to bytes")
    | v => ofNumbers program (← items program v)
  let little ← isLittle order
  let bytes := if little then cs.reverse else cs
  let n := bytes.foldl (fun n c => 256 * n + c.toNat) 0
  let size := Nat.pow 256 bytes.length
  return int (if isSigned.truthy && decide (size ≤ 2 * n) then Int.ofNat n - Int.ofNat size
    else Int.ofNat n)

/-- The number of binary digits of a number that are set. The fuel bounds how many digits it has. -/
def setDigits : (fuel n : Nat) → Nat
  | 0, _ => 0
  | fuel + 1, n => if n = 0 then 0 else n % 2 + setDigits fuel (n / 2)

/-- A pair of whole numbers. -/
def pairOf (m : Int) (n : Nat) : HintValue := .tuple [int m, int (Int.ofNat n)]

/-- The fraction that a floating point number is. -/
def ratioOf (x : Double) : Except Fault HintValue :=
  match x.ratio? with
  | some (m, n) => .ok (pairOf m n)
  | none =>
    .error (if x matches .nan then
        .withText "ValueError" "cannot convert NaN to integer ratio"
      else Quantity.overflow "cannot convert Infinity to integer ratio")

/-- A floating point number in base sixteen. -/
def hexText : Double → String
  | .finite negative m e =>
    (if negative then "-" else "") ++ String.ofList (Double.hexadecimal m e)
  | x => x.text

/-- What a function of a number without arguments gives. -/
def callNumber? (program : Program) (object : HintValue) (q : Quantity) (name : String) :
    Option (Except Fault HintValue) :=
  let wholeBy (make : Double → Option Int) : Option (Except Fault HintValue) :=
    match q with
    | .whole n => some (.ok (int n))
    | .pointed x => some ((Quantity.wholeOf make x).map int)
    | .complex _ _ => none
  match name, q with
  | "conjugate", .complex real imaginary => some (.ok (.complex real imaginary.negated))
  | "conjugate", q | "__pos__", q => some (.ok (ofQuantity q))
  | "__neg__", q => some (.ok (ofQuantity q.negated))
  | "__abs__", q => some (q.magnitude.map ofQuantity)
  | "__invert__", .whole _ => some (operateOn program .invert object)
  | "__int__", _ | "__trunc__", _ => wholeBy Double.truncated?
  | "__floor__", _ => wholeBy Double.floor?
  | "__ceil__", _ => wholeBy Double.ceiling?
  | "__round__", _ => wholeBy Double.nearest?
  | "__index__", .whole n => some (.ok (int n))
  | "__float__", .complex _ _ => none
  | "__float__", q => some (q.asDouble.map fun x => .value (.float x))
  | "__complex__", q => some (q.asComplex.map fun (a, b) => .complex a b)
  | "__hash__", _ => some (.ok object.hashOf)
  | "bit_length", .whole n =>
    some (.ok (int (Int.ofNat (if n = 0 then 0 else Nat.log2 n.natAbs + 1))))
  | "bit_count", .whole n =>
    some (.ok (int (Int.ofNat (setDigits (n.natAbs.log2 + 1) n.natAbs))))
  | "as_integer_ratio", .whole n => some (.ok (pairOf n 1))
  | "as_integer_ratio", .pointed x => some (ratioOf x)
  | "is_integer", .pointed x => some (.ok (bool x.isWhole))
  | "hex", .pointed x => some (.ok (text (hexText x)))
  | _, _ => none

/-! ### Collections -/

/-- What a function of a sequence gives. -/
def callSequence? (program : Program) (vs : List HintValue) (name : String)
    (arguments : List HintValue) : Option (Except Fault HintValue) :=
  match name, arguments with
  | "count", [v] => some (.ok (int (Int.ofNat (vs.filter (same v)).length)))
  | "index", v :: _ =>
    some (match vs.findIdx? (same v) with
      | some n => .ok (int (Int.ofNat n))
      | none => .error (.withText "ValueError" (program.shown v ++ " is not in list")))
  | "copy", [] => some (.ok (.list vs))
  | "__reversed__", [] => some (.ok (.supply "list_reverseiterator" vs.reverse))
  | "pop", [] =>
    some (match vs.getLast? with
      | some v => .ok v
      | none => .error (.withText "IndexError" "pop from empty list"))
  | "pop", [n] => some (item program (.list vs) n)
  | _, _ => none

/-- What a function of a mapping gives. -/
def callMapping? (program : Program) (entries : List (HintValue × HintValue)) (name : String)
    (arguments : List HintValue) : Option (Except Fault HintValue) :=
  let find (key : HintValue) : Option HintValue :=
    (entries.find? fun (k, _) => same key k).map (·.2)
  match name, arguments with
  | "get", [] => some (.error (mismatch "get expected at least 1 argument, got 0"))
  | "get", key :: more => some (do
    key.hashed
    return (find key).getD (more.headD nothing))
  | "keys", [] => some (.ok (.supply "dict_keys" (entries.map (·.1))))
  | "values", [] => some (.ok (.supply "dict_values" (entries.map (·.2))))
  | "items", [] =>
    some (.ok (.supply "dict_items" (entries.map fun (key, v) => .tuple [key, v])))
  | "copy", [] => some (.ok (.mapping entries))
  | "popitem", [] =>
    some (match entries.getLast? with
      | some (key, v) => .ok (.tuple [key, v])
      | none => .error (.withText "KeyError" "popitem(): dictionary is empty"))
  | "pop", key :: more | "setdefault", key :: more => some (
    match find key, more with
    | some v, _ => .ok v
    | none, v :: _ => .ok v
    | none, [] => if name == "setdefault" then .ok nothing else .error (missingKey program key))
  | _, _ => none

/-- The items of all of some things. -/
def itemsOfAll (program : Program) : List HintValue → Except Fault (List (List HintValue))
  | [] => .ok []
  | v :: rest => do
    let vs ← items program v
    hashedAll vs
    return vs :: (← itemsOfAll program rest)

/-- What a function of a set gives. -/
def callSet? (program : Program) (object : HintValue) (vs : List HintValue) (name : String)
    (arguments : List HintValue) : Option (Except Fault HintValue) :=
  let made (found : List HintValue) : HintValue :=
    if object matches .frozenset _ then frozenOf found else setOf found
  let joined (operator : BinaryOperator) : Option (Except Fault HintValue) :=
    some (do
      let others ← itemsOfAll program arguments
      return made (others.foldl (fun found ws =>
        (setOperation? operator found (dedupe ws)).getD found) vs))
  let asked (test : List HintValue → Bool) : Option (Except Fault HintValue) :=
    match arguments with
    | [w] => some (do
      let ws ← items program w
      hashedAll ws
      return bool (test (dedupe ws)))
    | ws =>
      some (.error (mismatch ((if object matches .frozenset _ then "frozenset." else "set.") ++
        name ++ "() takes exactly one argument (" ++ toString ws.length ++ " given)")))
  match name, arguments with
  | "union", _ => joined .or
  | "intersection", _ => joined .and
  | "difference", _ => joined .minus
  | "symmetric_difference", [_] => joined .xor
  | "issubset", _ => asked fun ws => holdsAll ws vs
  | "issuperset", _ => asked fun ws => holdsAll vs ws
  | "isdisjoint", _ => asked fun ws => !ws.any fun w => vs.any (same w)
  | "copy", [] => some (.ok (made vs))
  | "pop", [] =>
    some (match vs with
      | v :: _ => .ok v
      | [] => .error (.withText "KeyError" "pop from an empty set"))
  | _, _ => none

/-- What a function of a range gives. -/
def callRange? (first step : Int) (count : Nat) (name : String) (arguments : List HintValue) :
    Option (Except Fault HintValue) :=
  match name, arguments with
  | "count", [v] =>
    let isIn := (v.quantity?.map (isInRange first step count)).getD false
    some (.ok (int (if isIn then 1 else 0)))
  | "index", [v] =>
    some (match v.whole?, (v.quantity?.map (isInRange first step count)).getD false with
      | some n, true => .ok (int (Int.fdiv (n - first) step))
      | some n, false => .error (.withText "ValueError" (toString n ++ " is not in range"))
      | none, _ =>
        .error (.withText "ValueError" "sequence.index(x): x not in sequence"))
  | _, _ => none

/-- The functions of collections that change them and give nothing. -/
def changing : List String :=
  ["add", "append", "clear", "discard", "extend", "insert", "remove", "reverse", "sort", "update",
   "add_note", "difference_update", "intersection_update", "symmetric_difference_update"]

/-- What a function of any thing gives. -/
def callGeneral (program : Program) (object : HintValue) (name : String)
    (vs : List HintValue) : Except Fault HintValue :=
  match name, vs with
  | "__len__", [] => tell program "len" object
  | "__getitem__", [key] => item program object key
  | "__contains__", [v] => (isHeld program v object).map bool
  | "__str__", [] => (written program object).map text
  | "__repr__", [] => (writtenOut program object).map text
  | "__format__", [.value (.text form)] => (formed program object form).map text
  | "__hash__", [] => tell program "hash" object
  | "__iter__", [] => iteratorOf program object
  | "__bool__", [] => .ok (bool object.truthy)
  | "__next__", [] => callFunction program "next" ⟨[object], []⟩
  | "__divmod__", [w] =>
    if knowsKind object w then dividedBy program object w else .ok unknownKind
  | "__rdivmod__", [w] =>
    if knowsKind object w then dividedBy program w object else .ok unknownKind
  | "__round__", [places] => round program object (some places)
  | "__dir__", [] => .ok (.list [text "__class__"])
  | "__sizeof__", [] => .ok (thingOf "int")
  | _, _ => .ok (if changing.contains name then nothing else thingOf "object")

/-- What a function of a thing gives. -/
def callOwn (program : Program) (object : HintValue) (name : String) (arguments : CallArguments) :
    Except Fault HintValue :=
  let vs := arguments.placed
  let part (place : Nat) (key : String) (other : HintValue) : HintValue :=
    TextMethod.argument vs arguments.named place key other
  let general : Except Fault HintValue :=
    match vs with
    | [w] => (callOperator? program object name w).getD (callGeneral program object name vs)
    | vs => callGeneral program object name vs
  let isInner := Text.startsWith ['_', '_'] name.toList
  match ArgumentRule.broken? object.generalTypeName name vs.length arguments.named.length with
  | some fault => .error fault
  | none =>
  match object with
  | .value (.text s) =>
    if isInner then general else TextMethod.call program s name vs arguments.named
  | .bytes s =>
    if isInner then general else BytesMethod.call program s name vs arguments.named
  | .list items => (callSequence? program items name vs).getD general
  | .tuple items =>
    match callSequence? program items name vs with
    | some (.error _) =>
      .error (.withText "ValueError" "tuple.index(x): x not in tuple")
    | some found => found
    | none => general
  | .mapping entries => (callMapping? program entries name vs).getD general
  | .set items | .frozenset items => (callSet? program object items name vs).getD general
  | .supply "dict_keys" items | .supply "dict_items" items =>
    if name == "isdisjoint" then (callSet? program object items name vs).getD general else general
  | .range first step _ count => (callRange? first step count name vs).getD general
  | .verdict t _ _ =>
    if name == "passing" || name == "failing" then
      makeVerdict t ⟨bool (name == "passing") :: vs, arguments.named⟩
    else general
  | .unraised _ _ => if name == "with_traceback" then .ok object else general
  | object =>
    match object.quantity?, name, vs with
    | some (.whole n), "to_bytes", _ =>
      wholeToBytes program n (part 0 "length" (int 1)) (part 1 "byteorder" (text "big"))
        ((arguments.named.lookup "signed").getD (bool false))
    | some _, "from_bytes", v :: _ =>
      wholeOfBytes program v (part 1 "byteorder" (text "big"))
        ((arguments.named.lookup "signed").getD (bool false))
    | some q, name, [] => (callNumber? program object q name).getD general
    | _, _, _ => general

/-- The floating point number that a text in base sixteen stands for. -/
def ofHexText (s : String) : Except Fault HintValue :=
  let fault : Fault :=
    .withText "ValueError" "invalid hexadecimal floating-point string"
  let cs := (Text.trim s.toList).map Char.toLower
  let (negative, cs) :=
    match cs with
    | '-' :: rest => (true, rest)
    | '+' :: rest => (false, rest)
    | cs => (false, cs)
  let cs := (Text.after? ['0', 'x'] cs).getD cs
  let isDigit (c : Char) : Bool := (Text.hexValue? c).isSome
  let number (cs : List Char) : Nat :=
    cs.foldl (fun n c => 16 * n + (Text.hexValue? c).getD 0) 0
  let whole := cs.takeWhile isDigit
  let (fraction, rest) :=
    match cs.drop whole.length with
    | '.' :: rest => (rest.takeWhile isDigit, rest.dropWhile isDigit)
    | rest => ([], rest)
  let power? : Option Int :=
    match rest with
    | [] => some 0
    | 'p' :: rest => (Numeral.read rest).toOption
    | _ => none
  match power? with
  | some power =>
    if whole.isEmpty && fraction.isEmpty then
      match PointNumeral.read? (Text.trim s.toList) with
      | some x => if x.isFinite then .error fault else .ok (.value (.float x))
      | none => .error fault
    else
      let x := Double.ofScaled negative (number (whole ++ fraction))
        (power - 4 * Int.ofNat fraction.length)
      if x.isFinite then .ok (.value (.float x))
      else
        .error (Quantity.overflow "hexadecimal value too large to represent as a float")
  | none =>
    match PointNumeral.read? (Text.trim s.toList) with
    | some x => if x.isFinite then .error fault else .ok (.value (.float x))
    | none => .error fault

/-- The functions that all things have and types of values have in their own way. -/
def sharedNames : List String :=
  ["__eq__", "__format__", "__ge__", "__gt__", "__hash__", "__le__", "__lt__", "__ne__", "__repr__",
   "__str__"]

/-- What a function that was read of a type gives. -/
def callUnbound (program : Program) (type : HintValue) (name : String) (arguments : CallArguments) :
    Except Fault HintValue :=
  let isVerdict :=
    match type with
    | .verdictType _ => true
    | .entity (.classRef number) => program.isVerdictClass number
    | _ => false
  let typeName := program.typeTitle type
  match type, name, arguments.placed with
  | .type t, "mro", _ :: _ =>
    if t == "type" then
      match arguments.placed with
      | [.type u] => .ok (.list ((BaseType.generalLineage u).map .type))
      | _ => .ok (.list [])
    else
      .error (mismatch (t ++ ".mro() takes no arguments (" ++
        toString arguments.placed.length ++ " given)"))
  | .type t, "mro", [] =>
    if t == "type" then .error (mismatch "unbound method type.mro() needs an argument")
    else .ok (.list ((BaseType.generalLineage t).map .type))
  | _, "__subclasses__", [] => .ok (.list [])
  | .type "dict", "fromkeys", v :: more => do
    let keys ← items program v
    hashedAll keys
    return mappingOf (keys.map fun key => (key, more.headD nothing))
  | .type "str", "maketrans", vs => TextMethod.substitutionTable program vs
  | .type "bytes", "fromhex", [.value (.text s)] =>
    match ofHexDigits 0 s.toList with
    | .ok cs => .ok (.bytes (String.ofList cs))
    | .error place =>
      .error (.withText "ValueError"
        ("non-hexadecimal number found in fromhex() arg at position " ++ toString place))
  | .type "int", "from_bytes", v :: more =>
    wholeOfBytes program v
      ((more.head?).getD ((arguments.named.lookup "byteorder").getD (text "big")))
      ((arguments.named.lookup "signed").getD (bool false))
  | .type "float", "fromhex", [.value (.text s)] => ofHexText s
  | .type "type", "__or__", [v, w] => operate program .or v w
  | .type t, "__class_getitem__", [v] => item program (.type t) v
  | .type t, "__call__", _ => make program t arguments
  | type, name, placed =>
    if isVerdict && (name == "passing" || name == "failing") then
      makeVerdict type ⟨bool (name == "passing") :: placed, arguments.named⟩
    else if hasGeneral typeName name && (type matches .type _) &&
        (!AttributeNames.commonNames.contains name ||
          (sharedNames.contains name && typeName != "object" && typeName != "type")) then
      match placed with
      | [] =>
        .error (mismatch ("unbound method " ++ typeName ++ "." ++ name ++ "() needs an argument"))
      | v :: rest =>
        if isBasedOn program v.typeOf type then
          callOwn program v name { arguments with placed := rest }
        else
          .error (mismatch ("descriptor " ++ Text.quoted name ++ " for " ++
            Text.quoted typeName ++ " objects doesn't apply to a " ++
            Text.quoted (program.typeName v) ++ " object"))
    else .ok (thingOf "object")

end HintValue

end Vetting

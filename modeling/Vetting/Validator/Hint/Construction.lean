import Vetting.Decimal.PointNumeral
import Vetting.TypeRecord.Decode
import Vetting.Validator.Hint.ArgumentRule
import Vetting.Validator.Hint.Attribute
import Vetting.Validator.Hint.TextMethod

/-!
# Vetting.Validator.Hint.Construction

What calls of types make: numbers, texts, collections, new types, verdicts, and faults that are not
raised.
-/

namespace Vetting

/-- What a call is given. -/
structure CallArguments where
  /-- What is given by its place. -/
  placed : List HintValue := []
  /-- What is given by the name of a parameter. -/
  named : List (String × HintValue) := []
  deriving Inhabited

namespace HintValue

/-- Whether a number of arguments lies within bounds. -/
def counted (name : String) (least most given : Nat) : Except Fault Unit :=
  match ArgumentRule.outside? name least most given with
  | some fault => .error fault
  | none => .ok ()

/-- No argument may be given by a name. -/
def unnamed (name : String) (arguments : CallArguments) : Except Fault Unit :=
  if arguments.named.isEmpty then .ok ()
  else .error (mismatch (name ++ "() takes no keyword arguments"))

/-- The whole number that something counts as, where one is needed. -/
def asNumber (program : Program) (v : HintValue) : Except Fault Int :=
  match v.whole? with
  | some n => .ok n
  | none =>
    .error (mismatch (Text.quoted (program.typeName v) ++
      " object cannot be interpreted as an integer"))

/-- The pairs that a mapping is made of. -/
def pairsOf (program : Program) : (place : Nat) → List HintValue →
    Except Fault (List (HintValue × HintValue))
  | _, [] => .ok []
  | place, v :: rest => do
    let fault : Fault :=
      mismatch ("cannot convert dictionary update sequence element #" ++ toString place ++
        " to a sequence")
    match ← itemsOr program fault v with
    | [key, w] =>
      key.hashed
      let more ← pairsOf program (place + 1) rest
      return (key, w) :: more
    | vs =>
      throw (.withText "ValueError" ("dictionary update sequence element #" ++ toString place ++
        " has length " ++ toString vs.length ++ "; 2 is required"))

/-- The mapping of some entries, of which later ones replace earlier ones. -/
def mappingOf (entries : List (HintValue × HintValue)) : HintValue :=
  .mapping (entries.foldl (fun found (key, v) => withEntry found key v) [])

/-- A new mapping. -/
def newMapping (program : Program) (arguments : CallArguments) : Except Fault HintValue := do
  counted "dict" 0 1 arguments.placed.length
  let first ←
    match arguments.placed with
    | [.mapping entries] => pure entries
    | [v] => do pairsOf program 0 (← items program v)
    | _ => pure []
  return mappingOf (first ++ arguments.named.map fun (name, v) => (text name, v))

/-- The whole number of a text in a base. In base zero a mark before the digits tells the base. -/
def inBase? (base : Nat) (s : String) : Option Int :=
  let digit (c : Char) : Nat :=
    if c.isDigit then c.toNat - 48 else if c.isAlpha then c.toLower.toNat - 87 else 36
  let magnitude? (cs : List Char) : Option Nat :=
    let (base, cs) :=
      match cs with
      | '0' :: c :: rest =>
        let marked : Nat :=
          match c.toLower with
          | 'x' => 16
          | 'o' => 8
          | 'b' => 2
          | _ => 0
        if marked ≠ 0 ∧ (base = 0 ∨ base = marked) then (marked, rest)
        else (if base = 0 then 10 else base, cs)
      | cs => (if base = 0 then 10 else base, cs)
    if cs.isEmpty || cs.any (fun c => base ≤ digit c) then none
    else some (cs.foldl (fun n c => base * n + digit c) 0)
  match Text.trim s.toList with
  | '-' :: rest => (magnitude? rest).map fun n => -Int.ofNat n
  | '+' :: rest => (magnitude? rest).map Int.ofNat
  | cs => (magnitude? cs).map Int.ofNat

/-- A new whole number of one thing. -/
def newWholeOf (program : Program) (v : HintValue) : Except Fault HintValue :=
  match v, v.quantity? with
  | .value v, _ =>
    match TypeRecord.decodeCount v with
    | .ok n => .ok (int n)
    | .error trouble => .error trouble.fault
  | .bytes s, _ =>
    match TypeRecord.decodeCount (.text s) with
    | .ok n => .ok (int n)
    | .error _ =>
      .error (.withText "ValueError" ("invalid literal for int() with base 10: " ++
        program.shown (.bytes s)))
  | v, _ =>
    if v matches .thing (.type "int") then .ok v
    else
      .error (mismatch
        ("int() argument must be a string, a bytes-like object or a real number, not " ++
          Text.quoted (program.typeName v)))

/-- A new whole number of the digits of a text in a base. -/
def newWholeIn (program : Program) (v base : HintValue) : Except Fault HintValue := do
  let base ← asNumber program base
  if base ≠ 0 ∧ (base < 2 ∨ 36 < base) then
    throw (.withText "ValueError" "int() base must be >= 2 and <= 36, or 0")
  let read (s shown : String) : Except Fault HintValue :=
    match inBase? base.toNat s with
    | some n => .ok (int n)
    | none =>
      .error (.withText "ValueError" ("invalid literal for int() with base " ++ toString base ++
        ": " ++ shown))
  match v with
  | .value (.text s) => read s (Text.quoted s)
  | .bytes s => read s (program.shown (.bytes s))
  | _ => throw (mismatch "int() can't convert non-string with explicit base")

/-- A new whole number. -/
def newWhole (program : Program) (arguments : CallArguments) : Except Fault HintValue :=
  match arguments.placed, arguments.named with
  | [], [] => .ok (int 0)
  | [v], [] => newWholeOf program v
  | [v, base], [] | [v], [("base", base)] => newWholeIn program v base
  | [], [("base", _)] => .error (mismatch "int() missing string argument")
  | vs, (name, _) :: _ =>
    if vs.length = 2 && name == "base" then
      .error (mismatch "argument for int() given by name ('base') and position (2)")
    else
      .error (mismatch (Text.quoted name ++ " is an invalid keyword argument for int()"))
  | vs, [] => do
    counted "int" 0 2 vs.length
    return int 0

/-- A new number with a point. -/
def newPointed (program : Program) : List HintValue → Except Fault HintValue
  | [] => .ok (.value (.float (Double.zero false)))
  | [v] =>
    let read (s shown : String) : Except Fault HintValue :=
      match PointNumeral.read? s.toList with
      | some x => .ok (.value (.float x))
      | none => .error (.withText "ValueError" ("could not convert string to float: " ++ shown))
    match v, v.quantity? with
    | .value (.text s), _ => read s (Text.quoted s)
    | .bytes s, _ => read s (program.shown (.bytes s))
    | _, some (.whole n) => (Quantity.wholeAsDouble n).map fun x => .value (.float x)
    | _, some (.pointed x) => .ok (.value (.float x))
    | v, _ =>
      if v.numberRank?.any (· < 3) then .ok (thingOf "float")
      else
        .error (mismatch ("float() argument must be a string or a real number, not " ++
          Text.quoted (program.typeName v)))
  | vs => do
    counted "float" 0 1 vs.length
    return thingOf "float"

/-- The letter of imaginary parts. -/
def isImaginaryMark (c : Char) : Bool := c == 'j' || c == 'J'

/-- The parts of the complex number that a text without blanks around it stands for. -/
def complexParts? (cs : List Char) : Option (Double × Double) :=
  let zero := Double.zero false
  let signOf (c : Char) : Double := Double.one.withSign (c == '-')
  match PointNumeral.start? cs with
  | some (x, []) => some (x, zero)
  | some (x, [c]) => if isImaginaryMark c then some (zero, x) else none
  | some (x, c :: rest) =>
    if c = '+' ∨ c = '-' then
      match PointNumeral.start? (c :: rest), rest with
      | some (y, [d]), _ => if isImaginaryMark d then some (x, y) else none
      | _, [d] => if isImaginaryMark d then some (x, signOf c) else none
      | _, _ => none
    else none
  | none =>
    match cs with
    | [c] => if isImaginaryMark c then some (zero, Double.one) else none
    | [c, d] =>
      if (c = '+' ∨ c = '-') ∧ isImaginaryMark d then some (zero, signOf c) else none
    | _ => none

/-- The complex number that a text stands for. It may stand in brackets. -/
def complexOfText? (s : String) : Option HintValue := do
  let cs ← PointNumeral.withoutLows? false (Text.trim s.toList)
  let cs :=
    match cs, cs.getLast? with
    | '(' :: rest, some ')' => Text.trim rest.dropLast
    | cs, _ => cs
  let (real, imaginary) ← complexParts? cs
  some (.complex real imaginary)

/-- A new complex number of its parts. -/
def newComplexOf (program : Program) (v : HintValue) (w? : Option HintValue) :
    Except Fault HintValue := do
  match v, w? with
  | .value (.text s), none =>
    match complexOfText? s with
    | some found => return found
    | none => throw (.withText "ValueError" "complex() arg is a malformed string")
  | .value (.text _), some _ =>
    throw (mismatch "complex() can't take second arg if first is a string")
  | _, some (.value (.text _)) => throw (mismatch "complex() second arg can't be a string")
  | v, w? =>
    let p ←
      match v.quantity? with
      | some p => pure p
      | none =>
        throw (mismatch ("complex() first argument must be a string or a number, not " ++
          Text.quoted (program.typeName v)))
    let q ←
      match w? with
      | none => pure (Quantity.whole 0)
      | some w =>
        match w.quantity? with
        | some q => pure q
        | none =>
          throw (mismatch ("complex() second argument must be a number, not " ++
            Text.quoted (program.typeName w)))
    let (a, b) ← p.asComplex
    let (c, d) ← q.asComplex
    let real := if q matches .complex _ _ then a.sub d else a
    let imaginary := if p matches .complex _ _ then (if w?.isSome then b.add c else b) else c
    return .complex real imaginary

/-- A new complex number. -/
def newComplex (program : Program) (arguments : CallArguments) : Except Fault HintValue :=
  let part? (place : Nat) (name : String) : Option HintValue :=
    (arguments.placed[place]?).or (arguments.named.lookup name)
  match arguments.named.find? fun (name, _) => name != "real" && name != "imag" with
  | some (name, _) =>
    .error (mismatch (Text.quoted name ++ " is an invalid keyword argument for complex()"))
  | none =>
    if 2 < arguments.placed.length then
      .error (mismatch ("complex() takes at most 2 arguments (" ++
        toString arguments.placed.length ++ " given)"))
    else
      newComplexOf program ((part? 0 "real").getD (int 0)) (part? 1 "imag")

/-- A new text. -/
def newText (program : Program) (arguments : CallArguments) : Except Fault HintValue :=
  let part? (place : Nat) (name : String) : Option HintValue :=
    (arguments.placed[place]?).or (arguments.named.lookup name)
  match part? 0 "object", part? 1 "encoding", part? 2 "errors" with
  | none, _, _ => .ok (text "")
  | some v, none, none => (written program v).map text
  | some v, encoding?, errors? =>
    let encoding := encoding?.getD (text "utf-8")
    match encoding, v with
    | .value (.text _), .bytes s => decoded program s encoding (errors?.getD (text "strict"))
    | .value (.text _), .value (.text _) => .error (mismatch "decoding str is not supported")
    | .value (.text _), v =>
      .error (mismatch ("decoding to str: need a bytes-like object, " ++ program.typeName v ++
        " found"))
    | w, _ =>
      .error (mismatch ("str() argument 'encoding' must be str, not " ++
        argumentTypeName program w))

/-- New bytes. -/
def newBytes (program : Program) (arguments : CallArguments) : Except Fault HintValue :=
  let part? (place : Nat) (name : String) : Option HintValue :=
    (arguments.placed[place]?).or (arguments.named.lookup name)
  match part? 0 "source", part? 1 "encoding" with
  | none, _ => .ok (.bytes "")
  | some (.value (.text s)), some encoding =>
    encoded program s encoding ((part? 2 "errors").getD (text "strict"))
  | some (.value (.text _)), none => .error (mismatch "string argument without an encoding")
  | some _, some _ => .error (mismatch "encoding without a string argument")
  | some (.bytes s), none => .ok (.bytes s)
  | some v, none =>
    match v.whole? with
    | some n =>
      if n < 0 then .error (.withText "ValueError" "negative count")
      else .ok (.bytes (String.ofList (List.replicate (min n.toNat maxSize) (Char.ofNat 0))))
    | none => do
      let fault : Fault :=
        mismatch ("cannot convert " ++ Text.quoted (program.typeName v) ++ " object to bytes")
      return .bytes (String.ofList (← ofNumbers program (← itemsOr program fault v)))

/-- A range of whole numbers: where it starts, before which number it ends, and its step. -/
def newRange (program : Program) (arguments : List HintValue) : Except Fault HintValue := do
  counted "range" 1 3 arguments.length
  let ns ← arguments.mapM (asNumber program)
  let made (first last step : Int) : HintValue :=
    let count :=
      if 0 < step then Int.fdiv (last - first + step - 1) step
      else Int.fdiv (first - last - step - 1) (-step)
    .range first step last count.toNat
  match ns with
  | [last] => return made 0 last 1
  | [first, last] => return made first last 1
  | [first, last, step] =>
    if step = 0 then throw (.withText "ValueError" "range() arg 3 must not be zero")
    else return made first last step
  | _ => return made 0 0 1

/-- A type that is made of a name, the types it is based on, and what it holds. -/
def newType (program : Program) : List HintValue → Except Fault HintValue
  | [v] => .ok v.typeOf
  | [name, bases, body] =>
    match name, bases, body with
    | .value (.text name), .tuple bases, .mapping _ =>
      match bases.find? fun b => match b with
        | .type t => BaseType.finalTypes.contains t
        | _ => false with
      | some b =>
        .error (mismatch ("type " ++ Text.quoted (program.typeTitle b) ++
          " is not an acceptable base type"))
      | none =>
        let isVerdict (b : HintValue) : Bool :=
          match b with
          | .verdictType _ => true
          | .entity (.classRef number) => program.isVerdictClass number
          | _ => false
        if !bases.all isType then
          .error (mismatch ("metaclass conflict: the metaclass of a derived class must be a " ++
            "(non-strict) subclass of the metaclasses of all its bases"))
        else if bases.any isVerdict then .ok (.verdictType name)
        else .ok (.type ("__main__." ++ name))
    | .value (.text _), .tuple _, v =>
      .error (mismatch ("type.__new__() argument 3 must be dict, not " ++ program.typeName v))
    | .value (.text _), v, _ =>
      .error (mismatch ("type.__new__() argument 2 must be tuple, not " ++ program.typeName v))
    | v, _, _ =>
      .error (mismatch ("type.__new__() argument 1 must be str, not " ++ program.typeName v))
  | _ => .error (mismatch "type() takes 1 or 3 arguments")

/-- Things together with whole numbers from one on. -/
def numbered (first : Int) (vs : List HintValue) : List HintValue :=
  vs.zipIdx.map fun (v, n) => .tuple [int (first + Int.ofNat n), v]

/-- Things that were found one by one, and the fault that ended the search, if one did. -/
structure Findings where
  items : List HintValue := []
  fault? : Option Fault := none

namespace Findings

/-- Findings, and those that follow where no fault ended the first ones. -/
def andThen {m : Type → Type} [Monad m] (first : Findings) (next : m Findings) : m Findings :=
  if first.fault?.isSome then pure first
  else do
    let more ← next
    return { more with items := first.items ++ more.items }

/-- The things that were found, if no fault ended the search. -/
def all (found : Findings) : Except Fault (List HintValue) :=
  match found.fault? with
  | some fault => .error fault
  | none => .ok found.items

/-- What gives the things that were found one by one. -/
def asSupply (found : Findings) (typeName : String) : HintValue :=
  match found.fault? with
  | some fault => .halting typeName found.items fault
  | none => .supply typeName found.items

end Findings

/-- What is found of a collection one by one. -/
def findingsOf (program : Program) (v : HintValue) : Except Fault Findings :=
  match v with
  | .halting _ vs fault => .ok { items := vs, fault? := some fault }
  | v => (items program v).map fun vs => { items := vs }

/-- The first things of all findings, the second ones, and so on, until the first findings end that
have no more. The fuel bounds their number. -/
def zipped : (fuel : Nat) → List Findings → Findings
  | 0, _ => {}
  | fuel + 1, lists =>
    match lists.find? fun found => found.items.isEmpty with
    | some found => { fault? := found.fault? }
    | none =>
      if lists.isEmpty then {}
      else
        let more := zipped fuel (lists.map fun found => { found with items := found.items.drop 1 })
        { more with items := .tuple (lists.filterMap fun found => found.items.head?) :: more.items }

/-- The types whose things are made without arguments given by name. -/
def placedTypes : List String :=
  ["bool", "float", "frozenset", "list", "range", "reversed", "set", "slice", "tuple", "type"]

/-- The kinds of fault whose details have forms that only bytes or other faults fit. -/
def strictKinds : List String :=
  ["BaseExceptionGroup", "ExceptionGroup", "UnicodeDecodeError", "UnicodeEncodeError",
   "UnicodeTranslateError"]

/-- A fault of a general kind that is not raised. Some kinds become others by their details. -/
def newFault (kind : String) (arguments : List HintValue) : Except Fault HintValue :=
  if strictKinds.contains kind then .ok (thingOf kind)
  else
    match asValues? arguments with
    | none => .ok (.unraised kind arguments)
    | some details => (Fault.make kind details).map fun fault => .unraised fault.kindName arguments

/-- Lists that are all of one size, as a call by name wants it, or the fault of the first other. -/
def sameSizes (lists : List (List HintValue)) : Except Fault Unit :=
  match lists with
  | [] => .ok ()
  | first :: rest =>
    match (rest.zipIdx).find? fun (vs, _) => vs.length != first.length with
    | none => .ok ()
    | some (vs, n) =>
      .error (.withText "ValueError" ("zip() argument " ++ toString (n + 2) ++ " is " ++
        (if vs.length < first.length then "shorter" else "longer") ++ " than argument" ++
        (if n = 0 then " 1" else "s 1-" ++ toString (n + 1))))

/-- What gives the things of a collection one by one; of what gives things itself, it itself. -/
def iteratorOf (program : Program) (v : HintValue) : Except Fault HintValue :=
  let name : String :=
    match v with
    | .value (.text s) =>
      if s.toList.all fun c => c.toNat < 128 then "str_ascii_iterator" else "str_iterator"
    | .bytes _ => "bytes_iterator"
    | .list _ => "list_iterator"
    | .tuple _ => "tuple_iterator"
    | .set _ | .frozenset _ => "set_iterator"
    | .mapping _ | .supply "dict_keys" _ => "dict_keyiterator"
    | .supply "dict_values" _ => "dict_valueiterator"
    | .supply "dict_items" _ => "dict_itemiterator"
    | .range _ _ _ _ => "range_iterator"
    | _ => "generic_alias_iterator"
  match v with
  | .halting _ _ _ => .ok v
  | .supply given _ =>
    if viewTypes.contains given then (items program v).map (.supply name) else .ok v
  | v => (items program v).map (.supply name)

/-- The items of something from its end. -/
def reversedItems (program : Program) (v : HintValue) : Except Fault (List HintValue) :=
  let fault : Fault :=
    mismatch (Text.quoted (program.typeName v) ++ " object is not reversible")
  match v with
  | .list _ | .tuple _ | .value (.text _) | .bytes _ | .range _ _ _ _ | .mapping _ =>
    (items program v).map List.reverse
  | .supply name vs =>
    if viewTypes.contains name then .ok vs.reverse
    else .error fault
  | _ => .error fault

/-- What a call of a general type makes. -/
def make (program : Program) (typeName : String) (arguments : CallArguments) :
    Except Fault HintValue := do
  let vs := arguments.placed
  if placedTypes.contains typeName || (FaultKind.parents.lookup typeName).isSome then
    unnamed typeName arguments
  match typeName with
  | "bool" => do
    counted "bool" 0 1 vs.length
    return bool ((vs.head?.map truthy).getD false)
  | "int" => newWhole program arguments
  | "float" => newPointed program vs
  | "complex" => newComplex program arguments
  | "str" => newText program arguments
  | "bytes" => newBytes program arguments
  | "dict" => newMapping program arguments
  | "type" => newType program vs
  | "range" => newRange program vs
  | "object" =>
    if vs.isEmpty && arguments.named.isEmpty then return thingOf "object"
    else throw (mismatch "object() takes no arguments")
  | "NoneType" =>
    if vs.isEmpty && arguments.named.isEmpty then return nothing
    else throw (mismatch "NoneType takes no arguments")
  | "slice" => do
    counted "slice" 1 3 vs.length
    match vs with
    | [last] => return .slice nothing last nothing
    | [first, last, step] => return .slice first last step
    | vs => return .slice (vs.headD nothing) (vs.getLastD nothing) nothing
  | "list" | "tuple" | "set" | "frozenset" => do
    counted typeName 0 1 vs.length
    let made ←
      match vs with
      | [.range first step last count] =>
        if maxIndex < Int.ofNat count then
          throw (Quantity.overflow "Python int too large to convert to C ssize_t")
        else if maxRoom < count then throw (.raised "MemoryError" [])
        else items program (.range first step last count)
      | [v] => items program v
      | _ => pure []
    match typeName with
    | "list" => return .list made
    | "tuple" => return .tuple made
    | _ => do
      hashedAll made
      return if typeName == "set" then setOf made else frozenOf made
  | "enumerate" =>
    match arguments.named.find? fun (name, _) => name != "iterable" && name != "start" with
    | some (name, _) =>
      throw (mismatch (Text.quoted name ++ " is an invalid keyword argument for enumerate()"))
    | none => pure ()
    match vs.head?.or (arguments.named.lookup "iterable") with
    | some v => do
      let first ← asNumber program
        ((vs[1]?).getD ((arguments.named.lookup "start").getD (int 0)))
      let found ← findingsOf program v
      return { found with items := numbered first found.items : Findings }.asSupply "enumerate"
    | none => throw (mismatch "enumerate() missing required argument 'iterable' (pos 1)")
  | "reversed" => do
    counted "reversed" 1 1 vs.length
    return .supply "reversed" (← reversedItems program (vs.headD nothing))
  | "zip" => do
    match arguments.named.find? fun (name, _) => name != "strict" with
    | some (name, _) =>
      throw (mismatch (Text.quoted name ++ " is an invalid keyword argument for zip()"))
    | none => pure ()
    let lists ← vs.mapM (findingsOf program)
    if ((arguments.named.lookup "strict").map truthy).getD false then
      sameSizes (← lists.mapM Findings.all)
    return (zipped maxSize lists).asSupply "zip"
  | "super" => throw (.withText "RuntimeError" "super(): no arguments")
  | "staticmethod" | "classmethod" => do
    counted typeName 1 1 vs.length
    return thingOf typeName
  | t =>
    if (FaultKind.parents.lookup t).isSome || t == "BaseException" then newFault t vs
    else if (AttributeNames.ownNames.lookup t).isSome || Entity.isGeneralType t ||
        Text.startsWith "__main__.".toList t.toList then
      return thingOf t
    else throw (mismatch ("cannot create " ++ Text.quoted t ++ " instances"))

/-- What a call of the type of verdicts makes: it needs the outcome, and may have a message. -/
def makeVerdict (type : HintValue) (arguments : CallArguments) : Except Fault HintValue :=
  let title := "ValidatorResult"
  let count := arguments.placed.length
  let known := ["passed", "message"]
  match arguments.named.find? fun (name, _) => !known.contains name with
  | some (name, _) =>
    .error (mismatch (title ++ ".__init__() got an unexpected keyword argument " ++
      Text.quoted name))
  | none =>
    if 2 < count then
      .error (mismatch (title ++ ".__init__() takes from 2 to 3 positional arguments but " ++
        toString (count + 1) ++ " were given"))
    else
      match arguments.named.find? fun (name, _) => (known.take count).contains name with
      | some (name, _) =>
        .error (mismatch (title ++ ".__init__() got multiple values for argument " ++
          Text.quoted name))
      | none =>
        if count = 0 && (arguments.named.lookup "passed").isNone then
          .error (mismatch (title ++ ".__init__() missing 1 required positional argument: " ++
            "'passed'"))
        else
          let part (place : Nat) (name : String) : HintValue :=
            (arguments.placed[place]?).getD ((arguments.named.lookup name).getD nothing)
          .ok (.verdict type (part 0 "passed") (part 1 "message"))

end HintValue

end Vetting

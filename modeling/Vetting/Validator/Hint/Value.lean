import Vetting.Validator.Entity
import Vetting.Validator.Hint.Quantity

/-!
# Vetting.Validator.Hint.Value

What the expressions of hints stand for. Most of it are types, and what is made of types; but a
hint may be any expression, so there are values, collections and functions as well.
-/

namespace Vetting

/-- What an expression of a hint stands for. -/
inductive HintValue where
  /-- Nothing, a truth value, a number or a text. -/
  | value (v : Value)
  | complex (real imaginary : Double)
  /-- Bytes, each as the character with its number. -/
  | bytes (s : String)
  | ellipsis
  | list (items : List HintValue)
  | tuple (items : List HintValue)
  | set (items : List HintValue)
  /-- A set that does not change. -/
  | frozenset (items : List HintValue)
  /-- Whole numbers in steps: the first one, the step, before which one they end, and how many they
  are. -/
  | range (first step last : Int) (count : Nat)
  | mapping (entries : List (HintValue × HintValue))
  | slice (first last step : HintValue)
  /-- A general type. -/
  | type (name : String)
  /-- The type of verdicts, or one below it. -/
  | verdictType (name : String)
  | entity (e : Entity)
  /-- A type that is given arguments. -/
  | alias (origin : HintValue) (arguments : List HintValue)
  /-- Types of which one is meant. -/
  | union (members : List HintValue)
  /-- Types of which one is meant, and texts that name such. -/
  | choice (members : List HintValue)
  /-- What makes of a type the choice between it and nothing. -/
  | optionalForm
  /-- A type that is named by a text. -/
  | reference (s : String)
  /-- A function that belongs to a thing. -/
  | method (object : HintValue) (name : String)
  /-- A function without a name: its parameters, perhaps with the values that they have where none
  is given, its body, and what is known around it. -/
  | closure (parameters : List (String × Option HintValue)) (body : Expression)
      (locals : List (String × HintValue))
  /-- What gives things one by one. -/
  | supply (typeName : String) (items : List HintValue)
  /-- What gives things one by one, and raises a fault behind the last of them. -/
  | halting (typeName : String) (items : List HintValue) (fault : Fault)
  /-- A verdict of a type of verdicts. -/
  | verdict (type passed message : HintValue)
  /-- A fault of a general kind that is not raised. -/
  | unraised (kind : String) (arguments : List HintValue)
  /-- A thing of which only the type is known. -/
  | thing (type : HintValue)
  deriving Repr, Inhabited

namespace HintValue

/-- Nothing. -/
def nothing : HintValue := .value .null

/-- A text. -/
def text (s : String) : HintValue := .value (.text s)

/-- A truth value. -/
def bool (b : Bool) : HintValue := .value (.bool b)

/-- A whole number. -/
def int (n : Int) : HintValue := .value (.int n)

/-- The type of nothing. -/
def nothingType : HintValue := .type "NoneType"

/-- A thing of a general type. -/
def thingOf (typeName : String) : HintValue := .thing (.type typeName)

mutual

/-- What a value stands for. -/
def ofValue : Value → HintValue
  | .list items => .list (ofValues items)
  | .object fields => .mapping (ofFields fields)
  | v => .value v

/-- What some values stand for. -/
def ofValues : List Value → List HintValue
  | [] => []
  | v :: rest => ofValue v :: ofValues rest

/-- What the fields of an object stand for. -/
def ofFields : List (String × Value) → List (HintValue × HintValue)
  | [] => []
  | (key, v) :: rest => (text key, ofValue v) :: ofFields rest

end

mutual

/-- The value that something is, if it is one that catalogs have. -/
def asValue? : HintValue → Option Value
  | .value v => some v
  | .list items => (asValues? items).map .list
  | .mapping entries => (asFields? entries).map .object
  | _ => none

/-- The values that some things are, if all are such. -/
def asValues? : List HintValue → Option (List Value)
  | [] => some []
  | v :: rest =>
    match asValue? v, asValues? rest with
    | some first, some more => some (first :: more)
    | _, _ => none

/-- The fields that some entries are, if all are such. -/
def asFields? : List (HintValue × HintValue) → Option (List (String × Value))
  | [] => some []
  | (.value (.text key), v) :: rest =>
    match asValue? v, asFields? rest with
    | some first, some more => some ((key, first) :: more)
    | _, _ => none
  | _ => none

end

/-- What a thing that is known by its name stands for. -/
def ofKnown (name : String) : HintValue :=
  if Entity.verdictTypes.contains name then .verdictType name
  else if name == "Optional" then .optionalForm
  else if name == "Ellipsis" then .ellipsis
  else if Entity.isGeneralType name then .type name
  else thingOf (Entity.knownTypeName name)

/-- What a thing stands for. -/
def ofEntity : Entity → HintValue
  | .value v => ofValue v
  | .known name => ofKnown name
  | e => .entity e

/-- Whether something is a type. -/
def isType : HintValue → Bool
  | .type _ | .verdictType _ | .entity (.classRef _) => true
  | _ => false

/-- Whether something is a type, or made of types, or stands for a type. -/
def isJoinable : HintValue → Bool
  | .value .null | .alias _ _ | .union _ => true
  | v => v.isType

/-- Whether something joins with anything. -/
def isOpenForm : HintValue → Bool
  | .optionalForm | .choice _ | .reference _ => true
  | _ => false

/-- The general type of what something is; nothing for a thing of another type. -/
def generalTypeName : HintValue → String
  | .value v => v.typeName
  | .complex _ _ => "complex"
  | .bytes _ => "bytes"
  | .ellipsis => "ellipsis"
  | .list _ => "list"
  | .tuple _ => "tuple"
  | .set _ => "set"
  | .frozenset _ => "frozenset"
  | .range _ _ _ _ => "range"
  | .mapping _ => "dict"
  | .slice _ _ _ => "slice"
  | .type _ | .verdictType _ => "type"
  | .entity e => e.typeName
  | .alias _ _ => "types.GenericAlias"
  | .union _ => "types.UnionType"
  | .choice _ => "typing._UnionGenericAlias"
  | .optionalForm => "typing._SpecialForm"
  | .reference _ => "typing.ForwardRef"
  | .method object _ => if object.isType then "method_descriptor" else "builtin_function_or_method"
  | .closure _ _ _ => "function"
  | .supply name _ | .halting name _ _ => name
  | .verdict _ _ _ => ""
  | .unraised kind _ => kind
  | .thing (.type name) => name
  | .thing _ => ""

/-- The type of what something is. -/
def typeOf : HintValue → HintValue
  | .thing t => t
  | .verdict t _ _ => t
  | v => .type v.generalTypeName

/-- Whether something counts as true: all do but nothing, zeros, and what is empty. -/
def truthy : HintValue → Bool
  | .value v => v.truthy
  | .complex real imaginary => !(real.isZero && imaginary.isZero)
  | .bytes s => !s.isEmpty
  | .list items | .tuple items | .set items | .frozenset items => !items.isEmpty
  | .range _ _ _ count => count != 0
  | .mapping entries => !entries.isEmpty
  | _ => true

/-- The whole number that something counts as. -/
def whole? : HintValue → Option Int
  | .value (.int n) => some n
  | .value (.bool b) => some (if b then 1 else 0)
  | _ => none

/-- The number that something counts as. -/
def quantity? : HintValue → Option Quantity
  | .value (.float x) => some (.pointed x)
  | .complex real imaginary => some (.complex real imaginary)
  | v => v.whole?.map .whole

/-- The types of what shows the keys, the values or the entries of a mapping. -/
def viewTypes : List String := ["dict_keys", "dict_values", "dict_items"]

/-- A number. -/
def ofQuantity : Quantity → HintValue
  | .whole n => int n
  | .pointed x => .value (.float x)
  | .complex real imaginary => .complex real imaginary

/-- The items of a set of either kind. -/
def members? : HintValue → Option (List HintValue)
  | .set items | .frozenset items => some items
  | _ => none

/-- Whether two values that are no numbers are equal. -/
def sameValue : Value → Value → Bool
  | .text s, .text t => s == t
  | .null, .null => true
  | _, _ => false

/-- Whether two values are equal: truth values are equal to numbers. -/
def sameSimple (v w : HintValue) : Bool :=
  match v.quantity?, w.quantity?, v, w with
  | some p, some q, _, _ => p.equals q
  | none, none, .value v, .value w => sameValue v w
  | _, _, _, _ => false

/-- Whether two things are the same thing of a program. -/
def sameEntity : Entity → Entity → Bool
  | .function m, .function n => m == n
  | .classRef m, .classRef n => m == n
  | .bound m, .bound n => m == n
  | .builtin b, .builtin c => b == c
  | _, _ => false

mutual

/-- Whether two things are equal. -/
def same : HintValue → HintValue → Bool
  | .value v, .value w => sameSimple (.value v) (.value w)
  | .value v, .complex a b => sameSimple (.value v) (.complex a b)
  | .complex a b, .value w => sameSimple (.complex a b) (.value w)
  | .complex a b, .complex c d => sameSimple (.complex a b) (.complex c d)
  | .bytes s, .bytes t => s == t
  | .ellipsis, .ellipsis => true
  | .list vs, .list ws => sameAll vs ws
  | .tuple vs, .tuple ws => sameAll vs ws
  | .set vs, .set ws | .set vs, .frozenset ws | .frozenset vs, .set ws
  | .frozenset vs, .frozenset ws => vs.length == ws.length && holdsAll ws vs
  | .range a s _ m, .range b t _ n =>
    m == n && (m == 0 || a == b && (m == 1 || s == t))
  | .mapping vs, .mapping ws => vs.length == ws.length && sameEntries vs ws
  | .type m, .type n => m == n
  | .verdictType m, .verdictType n => m == n
  | .entity e, .entity f => sameEntity e f
  | .alias o vs, .alias p ws => same o p && sameAll vs ws
  | .union vs, .union ws => vs.length == ws.length && holdsAll ws vs
  | .choice vs, .choice ws => vs.length == ws.length && holdsAll ws vs
  | .optionalForm, .optionalForm => true
  | .reference s, .reference t => s == t
  | .method o m, .method p n => same o p && m == n
  | .verdict t p m, .verdict u q n => same t u && same p q && same m n
  | .slice a b c, .slice d e f => same a d && same b e && same c f
  | _, _ => false

/-- Whether things are equal one by one. -/
def sameAll : List HintValue → List HintValue → Bool
  | [], [] => true
  | v :: vs, w :: ws => same v w && sameAll vs ws
  | _, _ => false

/-- Whether `held` holds an equal of each of some things. -/
def holdsAll (held : List HintValue) : List HintValue → Bool
  | [] => true
  | v :: vs => held.any (same v) && holdsAll held vs

/-- Whether the entries are all there among others. -/
def sameEntries : List (HintValue × HintValue) → List (HintValue × HintValue) → Bool
  | [], _ => true
  | (key, v) :: rest, others =>
    (others.any fun (k, w) => same key k && same v w) && sameEntries rest others

end

/-- Things without those that are equal to an earlier one. -/
def dedupe (vs : List HintValue) : List HintValue :=
  vs.foldl (fun found v => if found.any (same v) then found else found ++ [v]) []

/-- The first thing found that cannot be told from others by what it holds, by its type. -/
def unhashable? : HintValue → Option String
  | .list _ => some "list"
  | .set _ => some "set"
  | .mapping _ => some "dict"
  | .slice _ _ _ => some "slice"
  | .tuple items | .alias _ items | .union items | .choice items => unhashableIn? items
  | .verdict _ passed message => (unhashable? passed).or (unhashable? message)
  | _ => none
where
  /-- The first among some things. -/
  unhashableIn? : List HintValue → Option String
    | [] => none
    | v :: rest => (unhashable? v).or (unhashableIn? rest)

/-- The fault of a wrong type, with its message. -/
def mismatch (message : String) : Fault := .withText "TypeError" message

/-- The fault of a thing that cannot be told from others by what it holds. -/
def unhashableFault (typeName : String) : Fault :=
  mismatch ("unhashable type: " ++ Text.quoted typeName)

/-- Whether something can be told from others by what it holds. -/
def hashed (v : HintValue) : Except Fault Unit :=
  match v.unhashable? with
  | some typeName => .error (unhashableFault typeName)
  | none => .ok ()

/-- Whether all of some things can be told from others by what they hold. -/
def hashedAll : List HintValue → Except Fault Unit
  | [] => .ok ()
  | v :: rest => do
    v.hashed
    hashedAll rest

end HintValue

end Vetting

import Vetting.Validator.Hint

/-!
# Vetting.Validator.Descriptor

What is told of a tagged thing: its names, what it is declared to return, whether it is called
without an instance or a class, and how many parameters it has. Only a static function without
parameters that returns a truth value or a verdict is eligible to be run.
-/

namespace Vetting

/-- What is told of a tagged thing. -/
structure Descriptor where
  qualifiedName : String
  /-- The module, and the class or function that the thing is defined in. -/
  context : String
  returnKind : ReturnKind
  isStatic : Bool
  /-- How many parameters there are; -1 where that is not known. -/
  parameterCount : Int
  /-- What is called. -/
  callee : Entity
  deriving Repr, Inhabited

namespace Descriptor

/-- The part of a dotted name after its last dot. -/
def lastPart (name : String) : String := String.ofList (Text.lastPiece '.' name.toList)

/-- The name without what it is defined in. -/
def name (d : Descriptor) : String := lastPart d.qualifiedName

/-- The name with the innermost of what it is defined in. -/
def label (d : Descriptor) : String := lastPart d.context ++ "." ++ d.name

/-- Whether the function can be run as a validator. -/
def eligible (d : Descriptor) : Bool :=
  d.isStatic && d.parameterCount == 0 && d.returnKind != .invalid

end Descriptor

namespace Program

/-- Whether the thing inside `e`, if it is a function or a class, is tagged. -/
def isMarked (program : Program) : Entity → Bool
  | .function number => ((program.functions[number]?).map (·.isTagged)).getD false
  | .bound number => ((program.functions[number]?).map (·.isTagged)).getD false
  | .classRef number =>
    (program.lineage number).any fun
      | .own k => ((program.classes[k]?).map (·.isTagged)).getD false
      | .known _ => false
  | .hostileTagged _ _ => true
  | _ => false

/-- Whether a thing is tagged. A hostile thing raises when it is asked. -/
def isTagged (program : Program) (e : Entity) : Except Fault Bool :=
  match e.unwrap with
  | .hostile fault => .error fault
  | inner => .ok (program.isMarked inner)

/-- The class body that a qualified name leads to from a module, and the name's last part. -/
def ownerOf (program : Program) : Entity → List String → Except Fault (Option Entity)
  | e, [] => .ok (some e)
  | e, part :: rest =>
    match program.attribute? part e with
    | .error fault => .error fault
    | .ok none => .ok none
    | .ok (some found) => ownerOf program found rest

/-- The thing as which a function stands in the class body that its qualified name leads to. -/
def classEntry (program : Program) (home qualname : String) : Except Fault (Option Entity) :=
  let parts := (Text.pieces '.' qualname.toList).map String.ofList
  match program.moduleNamed? home, parts.dropLast, parts.getLast? with
  | some m, first :: rest, some last =>
    match m.members.lookup first with
    | none => .ok none
    | some e =>
      match program.ownerOf e rest with
      | .error fault => .error fault
      | .ok (some (.classRef number)) =>
        .ok ((program.classes[number]?).bind fun c => c.members.lookup last)
      | .ok _ => .ok none
  | _, _, _ => .ok none

/-- Whether a qualified name is of something defined right in a class body. -/
def isInClass (qualname : String) : Bool :=
  match ((Text.pieces '.' qualname.toList).map String.ofList).reverse with
  | _ :: outer :: _ => outer != "<locals>"
  | _ => false

/-- Whether a function's first parameter is by its name an instance or a class. -/
def takesReceiver (parameters : List String) : Bool :=
  match parameters with
  | first :: _ => first == "self" || first == "cls"
  | [] => false

/-- Whether a function is static by where it stands: outside of classes; in a class body, as a
static function; where the class cannot be found, without an instance or a class as parameter. -/
def isStaticByPlace (program : Program) (home qualname : String) (parameters : List String) :
    Except Fault Bool :=
  if isInClass qualname then
    match program.classEntry home qualname with
    | .error fault => .error fault
    | .ok none => .ok (!takesReceiver parameters)
    | .ok (some (.static _)) => .ok true
    | .ok (some _) => .ok false
  else .ok true

/-- A descriptor put together from the names of a thing. -/
def descriptorOf (home qualname : String) (kind : ReturnKind) (isStatic : Bool) (count : Int)
    (callee : Entity) : Descriptor :=
  let home := if home.isEmpty then "<unknown>" else home
  let context :=
    match Text.beforeLast? '.' qualname.toList with
    | some front => home ++ "." ++ String.ofList front
    | none => home
  ⟨home ++ "." ++ qualname, context, kind, isStatic, count, callee⟩

/-- Whether a function is static: `isStatic?` where that is known from how it was found. -/
def isStaticFunction (program : Program) (f : Function) (isStatic? : Option Bool) :
    Except Fault Bool :=
  match isStatic? with
  | some isStatic => .ok isStatic
  | none => program.isStaticByPlace f.home f.qualname f.parameters

/-- What is told of a function that returns things of a kind. -/
def functionDescriptor (number : Nat) (f : Function) (isStatic : Bool) (kind : ReturnKind) :
    Descriptor :=
  descriptorOf f.home f.qualname kind isStatic f.parameters.length (.function number)

/-- The parameters of a class, where they are known: those of what makes its instances, without the
instance, in the first type of its lineage that tells of it. -/
def classParameters? (program : Program) (number : Nat) : Option (List String) :=
  ((program.lineage number).findSome? fun
    | .own k =>
      match (program.classes[k]?).bind fun c => c.members.lookup "__init__" with
      | some (.function f) =>
        some (some ((((program.functions[f]?).map (·.parameters)).getD []).drop 1))
      | _ => none
    | .known "ValidatorResult" => some (some ["passed", "message"])
    | .known "SubResult" => none
    | .known name =>
      some ((Entity.knownParameters? name).map fun count => List.replicate count "value")).join

/-- What is told of a thing that is not a function. -/
def describeOther (program : Program) (isStatic? : Option Bool) (e : Entity) :
    Except Fault Descriptor :=
  match e with
  | .classRef number => do
    let c := (program.classes[number]?).getD default
    let parameters? := program.classParameters? number
    let isStatic ←
      match isStatic? with
      | some b => pure b
      | none => program.isStaticByPlace c.home c.qualname (parameters?.getD [])
    let count : Int :=
      match parameters? with
      | some parameters => parameters.length
      | none => -1
    return descriptorOf c.home c.qualname .invalid isStatic count e
  | .builtin b =>
    .ok (descriptorOf (b.home?.getD "") b.qualname .invalid (isStatic?.getD true)
      (match b.parameters? with
        | some n => n
        | none => -1) e)
  | .known name =>
    .ok (descriptorOf (Entity.knownHome name) name .invalid (isStatic?.getD true)
      (match Entity.knownParameters? name with
        | some n => n
        | none => -1) e)
  | .value v => .ok (descriptorOf "" v.shown .invalid (isStatic?.getD true) (-1) e)
  | .hostile fault | .hostileTagged fault _ => .error fault
  | e => .ok (descriptorOf "" e.typeName .invalid (isStatic?.getD true) (-1) e)

/-- A thing that is described: the number of its function, if it is one, and whether that is static,
where it is known from how the function was found. -/
def functionIn? : Entity → Option (Nat × Option Bool)
  | .function number => some (number, none)
  | .bound number => some (number, some false)
  | .static (.function number) => some (number, some true)
  | .classBound (.function number) => some (number, some false)
  | _ => none

/-- What is told of a thing that is no function. -/
def describeThing (program : Program) : Entity → Except Fault Descriptor
  | .static inner => program.describeOther (some true) inner
  | .classBound inner => program.describeOther (some false) inner
  | e => program.describeOther none e

/-- Tag a thing and enter it into the table. -/
def tag (program : Program) (e : Entity) : Except Fault Program :=
  let entered (program : Program) : Program := { program with table := program.table ++ [e] }
  match e.unwrap with
  | .function number =>
    .ok (entered { program with
      functions := program.functions.modify number fun f => { f with isTagged := true } })
  | .classRef number =>
    .ok (entered { program with
      classes := program.classes.modify number fun c => { c with isTagged := true } })
  | .hostile fault | .hostileTagged fault _ => .error fault
  | .known name =>
    if Entity.verdictTypes.contains name then .ok (entered program)
    else if Entity.isGeneralType name then
      .error (.withText "TypeError"
        ("cannot set '__validation_method__' attribute of immutable type " ++ Text.quoted name))
    else .error (.withText "AttributeError"
      ("'" ++ Entity.knownTypeName name ++ "' object has no attribute '__validation_method__'"))
  | other =>
    .error (.withText "AttributeError"
      ("'" ++ other.typeName ++ "' object has no attribute '__validation_method__'"))

end Program

namespace HintReader

/-- What is told of a function: `isStatic?` where that is known from how it was found. -/
def describeFunction (reader : HintReader) (number : Nat) (isStatic? : Option Bool) :
    Session World Descriptor := do
  let program := (← Session.get).program
  let f := (program.functions[number]?).getD default
  let isStatic ← Session.ofExcept (program.isStaticFunction f isStatic?)
  return Program.functionDescriptor number f isStatic (← reader.returnKind f)

/-- What is told of a thing. The hints of a function are read for it. -/
def describe (reader : HintReader) (e : Entity) : Session World Descriptor :=
  match Program.functionIn? e with
  | some (number, isStatic?) => reader.describeFunction number isStatic?
  | none => do Session.ofExcept ((← Session.get).program.describeThing e)

end HintReader

end Vetting

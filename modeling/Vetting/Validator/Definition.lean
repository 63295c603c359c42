import Vetting.Validator.Descriptor

/-!
# Vetting.Validator.Definition

The sources of validator modules, and what running them adds to the program of a world. The members
of a module run in order and bind names; functions may be decorated, and the decorator that tags a
function enters it into the registration table at once. The hints of a function are evaluated when
it is defined, and may call functions that are there already. When a member goes wrong, what was
bound and tagged before it stays; a module that was being imported is not kept.
-/

namespace Vetting

/-- What a function is decorated with. -/
inductive Decorator where
  /-- Tags the function as a validator. -/
  | tag
  | static
  | classBound
  | property
  /-- Puts another function around it that looks the same. -/
  | wraps
  deriving DecidableEq, Repr

/-- How the thing at the end of a path is taken from what it belongs to. -/
inductive Access where
  /-- As it is read. -/
  | read
  /-- As it stands in the class. -/
  | raw
  /-- As it is read from a new instance. -/
  | fromInstance
  deriving DecidableEq, Repr

/-- The description of a thing. -/
inductive EntitySource where
  /-- What a path leads to in a module. -/
  | path (moduleName path : String) (access : Access)
  | value (v : Value)
  | builtin (name : String)
  | hostile (fault : Fault)
  | hostileTagged (fault : Fault)

/-- A member of a module, a class or a function. -/
inductive Member where
  /-- A function: its hints are expressions. -/
  | function (name : String) (returns? : Option String) (parameters : List String)
      (decorators : List Decorator) (replies : List Reply)
  | class (name : String) (bases : List String) (members : List Member)
  /-- A function that runs its members once, when it is defined. -/
  | factory (name : String) (members : List Member)
  /-- A thing of another module under a name of this one. -/
  | borrow (moduleName path name : String)
  /-- One more name for a thing. -/
  | alias (name target : String)
  | delete (name : String)
  | assign (name : String) (source : EntitySource)
  | raise (fault : Fault)
  deriving Inhabited

/-- The source of a module. -/
structure ModuleSource where
  name : String
  members : List Member
  /-- The names of this library are not there. -/
  isBare : Bool := false
  /-- Hints are kept as the texts they are written in. -/
  keepsHints : Bool := false
  /-- The module cannot be found by its name. -/
  isDetached : Bool := false

namespace Definition

/-- Where a member runs. -/
structure Place where
  moduleNumber : Nat
  home : String
  keepsHints : Bool
  /-- What stands before the names that are defined here. -/
  outward : String := ""
  /-- The names of the functions around, the nearest first. -/
  enclosing : List Names := []
  isModule : Bool := true
  /-- The class whose body this is. -/
  className? : Option String := none

/-- A name as it is bound in a class body: a name that starts with two low lines and does not end
with two belongs to its class alone. -/
def ownName (place : Place) (name : String) : String :=
  match place.className? with
  | none => name
  | some className =>
    let chars := name.toList
    if Text.startsWith ['_', '_'] chars && !Text.endsWith ['_', '_'] chars then
      match className.toList.dropWhile (· == '_') with
      | [] => name
      | c :: rest => "_" ++ String.ofList (c :: rest) ++ name
    else name

/-- The module that a place belongs to. -/
def moduleOf (place : Place) (program : Program) : ValidatorModule :=
  (program.modules[place.moduleNumber]?).getD default

/-- The words that stand for values everywhere. -/
def valueWords : List (String × Value) :=
  [("None", .null), ("True", .bool true), ("False", .bool false)]

/-- What a name stands for at a place, given the names bound there. -/
def entityNamed? (place : Place) (names : Names) (program : Program) (name : String) :
    Option Entity :=
  let near := (names :: place.enclosing).findSome? fun frame => frame.lookup name
  let far := ((moduleOf place program).members.lookup name).or (Entity.general? name)
  (near.or far).or ((valueWords.lookup name).map .value)

/-- What the expressions at a place see. -/
def scopeAt (place : Place) (names : Names) (program : Program) : HintValue.Scope where
  program
  lookup name :=
    match entityNamed? place names program name with
    | some e => some (.ofEntity e)
    | none => HintValue.inModule? (moduleOf place program) name

/-- The expression that a text is. -/
def expressionOf (text : List Char) : Except Fault Expression :=
  match Expression.read? text with
  | some e => .ok e
  | none => .error (.withText "SyntaxError" "invalid syntax")

/-- What an expression at a place stands for. -/
def evaluateAt (place : Place) (names : Names) (text : String) : Session World HintValue := do
  let e ← expressionOf (Text.trim text.toList)
  let program := (← Session.get).program
  HintValue.evaluate (scopeAt place names program) HintValue.evaluationDepth e

/-- A hint as a function keeps it: the text it is written in, or what it stands for. -/
def readHint (place : Place) (names : Names) (text : String) : Session World HintValue :=
  if place.keepsHints then do
    let text := Text.trim text.toList
    let e ← expressionOf text
    return .text (e.plainForm?.getD (String.ofList text))
  else evaluateAt place names text

/-- The text up to an equals sign that stands outside of quotes. -/
def beforeEquals (quote? : Option Char) : List Char → List Char
  | [] => []
  | c :: rest =>
    match quote? with
    | some quote => c :: beforeEquals (if c = quote then none else some quote) rest
    | none =>
      if c = '=' then []
      else c :: beforeEquals (if c = '\'' ∨ c = '"' then some c else none) rest

/-- A parameter of a function. -/
structure Parameter where
  name : String
  /-- The text of its hint. -/
  hint? : Option String := none
  /-- The text of the value that it has where none is given. -/
  value? : Option String := none
  deriving Repr

/-- A parameter as it is written. The marks that stand between parameters are none themselves. -/
def parameter? (text : String) : Option Parameter :=
  let front := beforeEquals none text.toList
  let value? : Option String :=
    match text.toList.drop front.length with
    | _ :: value => some (String.ofList value)
    | [] => none
  match (Text.trim front).dropWhile (· == '*') with
  | [] => none
  | ['/'] => none
  | chars =>
    let name := String.ofList (Text.trim (chars.takeWhile (· != ':')))
    match chars.dropWhile (· != ':') with
    | _ :: hint => some ⟨name, some (String.ofList (Text.trim hint)), value?⟩
    | [] => some ⟨name, none, value?⟩

/-- Bind a name at a place. The names of a module are seen by all that runs after. -/
def bind (place : Place) (names : Names) (name : String) (e : Entity) : Session World Names := do
  let names := names.bind (ownName place name) e
  if place.isModule then
    World.onProgram (Session.modify fun program =>
      { program with
        modules := program.modules.modify place.moduleNumber fun m => { m with members := names } })
  return names

/-- Unbind a name at a place. -/
def unbind (place : Place) (names : Names) (name : String) : Session World Names := do
  let name := ownName place name
  if (names.lookup name).isNone then Session.fail (HintValue.unknownName name)
  let names := names.unbind name
  if place.isModule then
    World.onProgram (Session.modify fun program =>
      { program with
        modules := program.modules.modify place.moduleNumber fun m => { m with members := names } })
  return names

/-- Put another function around one. -/
def wrap (program : Program) (number : Nat) : Entity × Program :=
  let (wrapped, program) := program.addFunction ((program.functions[number]?).getD default)
  (.function wrapped, program)

/-- Decorate a thing once. -/
def decorate (e : Entity) : Decorator → Session Program Entity
  | .tag => do
    let program ← Session.get
    let program ← Session.ofExcept (program.tag e)
    Session.set program
    return e
  | .static => return .static e
  | .classBound => return .classBound e
  | .property => return .property e
  | .wraps => do
    match e.unwrap with
    | .function number => do
      let program ← Session.get
      let (wrapped, program) := wrap program number
      Session.set program
      return wrapped
    | other => return other

/-- Decorate a thing, beginning with the last decorator. -/
def decorateAll (e : Entity) (decorators : List Decorator) : Session Program Entity :=
  decorators.foldr (fun decorator step => do decorate (← step) decorator) (pure e)

/-- Define a function. -/
def define (place : Place) (names : Names) (name : String) (returns? : Option String)
    (parameters : List String) (replies : List Reply) : Session World Entity := do
  let found := parameters.filterMap parameter?
  let _ ← (found.filterMap (·.value?)).mapM (evaluateAt place names)
  let hints ← (found.filterMap (·.hint?)).mapM (readHint place names)
  let returnHint ← returns?.mapM (readHint place names)
  World.onProgram do
    let (script, program) := (← Session.get).addScript replies
    let (number, program) := program.addFunction
      { home := place.home
        qualname := place.outward ++ name
        parameters := found.map (·.name)
        parameterHints := hints
        returnHint
        body := .script script
        moduleNumber := place.moduleNumber }
    Session.set program
    return .function number

/-- The fault of a thing that a class cannot be based on. -/
def baseFault (e : Entity) : Fault :=
  Program.classFault
    (match e with
    | .function _ => "function() argument 'code' must be code, not str"
    | .bound _ => "method expected 2 arguments, got 3"
    | .static _ | .classBound _ => e.typeName ++ " expected 1 argument, got 3"
    | .value .null => "NoneType takes no arguments"
    | .value (.int _) => "int() takes at most 2 arguments (3 given)"
    | .value (.text _) => "str() argument 'encoding' must be str, not tuple"
    | .value v => v.typeName ++ " expected at most 1 argument, got 3"
    | .known "Ellipsis" => "EllipsisType takes no arguments"
    | .known "NotImplemented" => "NotImplementedType takes no arguments"
    | e => "cannot create " ++ Text.quoted e.typeName ++ " instances")

/-- The thing that a class is to be based on, given what stands for it. A type with arguments stands
for the type. -/
def baseEntity : HintValue → Except Fault Entity
  | .entity e => .ok e
  | .value v => .ok (.value v)
  | .list _ => .ok (.value (.list []))
  | .mapping _ => .ok (.value (.object []))
  | .type name | .verdictType name => .ok (.known name)
  | .optionalForm => .ok (.known "Optional")
  | .ellipsis => .ok (.known "Ellipsis")
  | .alias origin _ => baseEntity origin
  | v =>
    .error (Program.classFault
      ("cannot create " ++ Text.quoted v.generalTypeName ++ " instances"))

/-- The kind of a thing that a class is to be based on. Truth values are numbers. -/
def baseKind (e : Entity) : String := if e.typeName == "bool" then "int" else e.typeName

/-- Things that a class is to be based on. All must be of one kind. -/
def checkBases (found : List Entity) : Except Fault (List Entity) := do
  for e in found do
    match e with
    | .hostile fault | .hostileTagged fault _ => throw fault
    | .known "Optional" => throw (Program.classFault "Cannot subclass typing.Optional")
    | _ => pure ()
  match found.map baseKind with
  | [] => return found
  | kind :: kinds =>
    if kinds.all (· == kind) then return found
    else
      throw (Program.classFault
        ("metaclass conflict: the metaclass of a derived class must be a " ++
          "(non-strict) subclass of the metaclasses of all its bases"))

/-- The things that a class is to be based on, before its body is run. -/
def basesNamed (place : Place) (names : Names) (bases : List String) :
    Session World (List Entity) := do
  let found ← bases.mapM fun name => do
    let program := (← Session.get).program
    match entityNamed? place names program name with
    | some e => pure e
    | none => do baseEntity (← evaluateAt place names name)
  Session.ofExcept (checkBases found)

/-- The type that a class is based on, where a thing is one. -/
def baseType (e : Entity) : Except Fault BaseType :=
  match e with
  | .classRef number => .ok (.own number)
  | .known name =>
    if Entity.verdictTypes.contains name || Entity.isGeneralType name ||
      BaseType.finalTypes.contains name then .ok (.known name)
    else .error (baseFault e)
  | e => .error (baseFault e)

/-- The fault of a thing that lacks an attribute. -/
def lacks (program : Program) (e : Entity) (name : String) : Fault :=
  HintValue.lacks program (.ofEntity e) name

/-- What stands at the end of a path below a thing. -/
def walkPath (program : Program) (e : Entity) : List String → Except Fault Entity
  | [] => .ok e
  | part :: rest => do
    let missing := lacks program e part
    match part, e with
    | "<locals>", .function number =>
      match ((program.functions[number]?).map (·.inside)).getD [], rest with
      | inside, name :: rest =>
        match inside.lookup name with
        | some found => walkPath program found rest
        | none => throw (.withText "KeyError" name)
      | _, [] => throw missing
    | part, e =>
      match ← program.attribute? part e with
      | some found => walkPath program found rest
      | none => throw missing

/-- The last step of a path, taken from the thing that it belongs to. -/
def lastStep (program : Program) (access : Access) (owner : Entity) (name : String) :
    Except Fault Entity :=
  match access, owner with
  | .raw, .classRef number =>
    match ((program.classes[number]?).map (·.members)).bind fun ms => ms.lookup name with
    | some e => .ok e
    | none => .error (.withText "KeyError" name)
  | .fromInstance, .classRef number =>
    if program.isVerdictClass number && (program.rawAttribute? number "__init__").isNone then
      .error (.withText "TypeError"
        "ValidatorResult.__init__() missing 1 required positional argument: 'passed'")
    else
      match program.instanceAttribute? number name with
      | some e => .ok e
      | none => walkPath program owner [name]
  | _, owner => walkPath program owner [name]

/-- What a path leads to in a module. -/
def follow (program : Program) (m : ValidatorModule) (parts : List String) (access : Access) :
    Except Fault Entity :=
  match parts with
  | [] => .error (.withText "AttributeError" "the path is empty")
  | first :: rest =>
    match m.members.lookup first with
    | none =>
      .error (.withText "AttributeError"
        ("module " ++ Text.quoted m.name ++ " has no attribute " ++ Text.quoted first))
    | some e =>
      match rest.reverse with
      | [] => .ok e
      | last :: front =>
        match front with
        | "<locals>" :: _ => walkPath program e rest
        | front =>
          match walkPath program e front.reverse with
          | .error fault => .error fault
          | .ok owner => lastStep program access owner last

/-- The thing that a description describes, for a module of the name `home`. -/
def resolve (program : Program) (modules : List (String × Nat)) (home : String) :
    EntitySource → Except Fault Entity
  | .value v => .ok (.value v)
  | .hostile fault => .ok (.hostile fault)
  | .hostileTagged fault => .ok (.hostileTagged fault home)
  | .builtin name =>
    match Entity.builtins.lookup name with
    | some b => .ok (.builtin b)
    | none => .ok (.function 0)
  | .path moduleName path access =>
    match (modules.lookup moduleName).bind fun number => program.modules[number]? with
    | none => .error (.withText "KeyError" moduleName)
    | some m => follow program m ((Text.pieces '.' path.toList).map String.ofList) access

/-- The thing that a description describes, for what runs at a place. -/
def resolveAt (place : Place) (source : EntitySource) : Session World Entity := do
  let program := (← Session.get).program
  Session.ofExcept (resolve program program.loaded place.home source)

/-- Define a class that is based on some things, when its body was run. -/
def defineClass (place : Place) (name : String) (bases : List Entity) (members : Names) :
    Session World Entity :=
  World.onProgram do
    let program ← Session.get
    let bases ← Session.ofExcept (bases.mapM baseType)
    let c ← Session.ofExcept (program.makeClass place.home (place.outward ++ name) bases members)
    let (number, program) := program.addClass c
    Session.set program
    return .classRef number

/-- Keep the names inside a function that was called while its module ran. -/
def keepInside (inside : Names) : Entity → Session World Unit
  | .function number =>
    World.onProgram (Session.modify fun program =>
      { program with
        functions := program.functions.modify number fun f => { f with inside } })
  | _ => pure ()

mutual

/-- Run one member: the names after it. -/
def runMember (place : Place) (names : Names) : Member → Session World Names
  | .function name returns? parameters decorators replies => do
    let e ← define place names name returns? parameters replies
    let e ← World.onProgram (decorateAll e decorators)
    bind place names name e
  | .class name bases members => do
    let bases ← basesNamed place names bases
    let isFunction := !place.isModule && place.className?.isNone
    let inner : Place :=
      { place with
        outward := place.outward ++ name ++ "."
        enclosing := if isFunction then names :: place.enclosing else place.enclosing
        isModule := false
        className? := some name }
    let members ← runMembers inner [] members
    bind place names name (← defineClass place name bases members)
  | .factory name members => do
    let e ← define place names name none [] []
    let bound ← bind place names name e
    let isFunction := !place.isModule && place.className?.isNone
    let inner : Place :=
      { place with
        outward := place.outward ++ name ++ ".<locals>."
        enclosing := if isFunction then names :: place.enclosing else place.enclosing
        isModule := false
        className? := none }
    let inside ← runMembers inner [] members
    keepInside inside e
    return bound
  | .borrow moduleName path name => do
    bind place names name (← resolveAt place (.path moduleName path .read))
  | .alias name target => do
    let program := (← Session.get).program
    match entityNamed? place names program (ownName place target) with
    | some e => bind place names name e
    | none => Session.fail (HintValue.unknownName (ownName place target))
  | .delete name => unbind place names name
  | .assign name source => do bind place names name (← resolveAt place source)
  | .raise fault => Session.fail fault

/-- Run members in order: the names after them. -/
def runMembers (place : Place) (names : Names) : List Member → Session World Names
  | [] => pure names
  | first :: rest => do
    let names ← runMember place names first
    runMembers place names rest

end

/-- Make an empty module, and load it under its name if it can be found by it; its number. -/
def openModule (source : ModuleSource) : Session World Nat :=
  World.onProgram do
    let (number, program) := (← Session.get).addModule
      { name := source.name, members := if source.isBare then [] else Entity.libraryNames }
    Session.set (if source.isDetached then program else program.load source.name number)
    return number

/-- Run the members of a module that was opened. What was bound before a member went wrong stays. -/
def fillModule (source : ModuleSource) (number : Nat) : Session World Unit := do
  let program := (← Session.get).program
  let _ ← runMembers
    { moduleNumber := number, home := source.name, keepsHints := source.keepsHints }
    (((program.modules[number]?).map (·.members)).getD []) source.members

/-- Import a module: one that goes wrong cannot be found afterwards. -/
def importModule (source : ModuleSource) : Session World Unit := do
  let number ← openModule source
  match ← Session.attempt (fillModule source number) with
  | .ok () => pure ()
  | .error fault =>
    World.onProgram (Session.modify fun program => program.unload source.name)
    Session.fail fault

end Definition

end Vetting

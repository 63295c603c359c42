import Vetting.Validator.Hint.Value
import Vetting.Validator.Lineage

/-!
# Vetting.Validator.Program

The program that validators are defined in: modules with names for functions, classes and values.
Functions, classes and modules are kept once, and names stand for them by number, so that two names
can stand for one function. Some functions are tagged as validators; every tag that is given enters
the thing tagged into the registration table.
-/

namespace Vetting

/-- A function. -/
structure Function where
  /-- The name of the module that the function says it belongs to. -/
  home : String
  /-- The name with the names of the classes and functions around it. -/
  qualname : String
  parameters : List String := []
  /-- What is hinted of the parameters. -/
  parameterHints : List HintValue := []
  /-- What is hinted of what the function returns. -/
  returnHint : Option HintValue := none
  isTagged : Bool := false
  body : Body
  /-- The module in which hints are looked up. -/
  moduleNumber : Nat
  /-- The names inside the function, where it is one that was called while its module ran. -/
  inside : Names := []
  deriving Repr, Inhabited

/-- A class. -/
structure Class where
  home : String
  qualname : String
  bases : List BaseType := []
  /-- The types in which attributes are looked up after the class itself, in order. -/
  ancestors : List BaseType := []
  /-- The general type whose layout the things of the class have. -/
  layout : String := "object"
  isTagged : Bool := false
  members : Names := []
  deriving Repr, Inhabited

/-- A module. -/
structure ValidatorModule where
  name : String
  members : Names := []
  deriving Repr, Inhabited

/-- The program that validators are defined in. -/
structure Program where
  functions : Array Function := #[]
  classes : Array Class := #[]
  modules : Array ValidatorModule := #[]
  scripts : Array (List Reply) := #[]
  /-- The modules that can be found by name, in the order in which their names came up. -/
  loaded : List (String × Nat) := []
  /-- What was tagged, in order. -/
  table : List Entity := []
  deriving Inhabited

namespace Program

/-- The program with one more function, and its number. -/
def addFunction (program : Program) (f : Function) : Nat × Program :=
  (program.functions.size, { program with functions := program.functions.push f })

/-- The program with one more class, and its number. -/
def addClass (program : Program) (c : Class) : Nat × Program :=
  (program.classes.size, { program with classes := program.classes.push c })

/-- The program with one more module, and its number. -/
def addModule (program : Program) (m : ValidatorModule) : Nat × Program :=
  (program.modules.size, { program with modules := program.modules.push m })

/-- The program with one more script, and its number. -/
def addScript (program : Program) (replies : List Reply) : Nat × Program :=
  (program.scripts.size, { program with scripts := program.scripts.push replies })

/-- What a function does when it is called. -/
def bodyOf? (program : Program) (number : Nat) : Option Body :=
  (program.functions[number]?).map (·.body)

/-- The module of a name, if one is loaded. -/
def moduleNamed? (program : Program) (name : String) : Option ValidatorModule :=
  (program.loaded.lookup name).bind fun number => program.modules[number]?

/-- The program in which a name stands for a module. -/
def load (program : Program) (name : String) (number : Nat) : Program :=
  let loaded :=
    if program.loaded.any (·.1 == name) then
      program.loaded.map fun (key, old) => if key == name then (key, number) else (key, old)
    else program.loaded ++ [(name, number)]
  { program with loaded }

/-- The program in which a name stands for no module. -/
def unload (program : Program) (name : String) : Program :=
  { program with loaded := program.loaded.filter (·.1 != name) }

/-- The types in which an attribute of a class is looked up, in order. -/
def lineage (program : Program) (number : Nat) : List BaseType :=
  .own number :: ((program.classes[number]?).map (·.ancestors)).getD []

/-- The types in which an attribute of a type is looked up, in order. -/
def lineageOf (program : Program) : BaseType → List BaseType
  | .own number => program.lineage number
  | .known name => BaseType.knownLineage name

/-- An attribute of a class as it stands in the class or in one that it is based on. -/
def rawAttribute? (program : Program) (number : Nat) (name : String) : Option Entity :=
  (program.lineage number).findSome? fun
    | .own k => (program.classes[k]?).bind fun c => c.members.lookup name
    | .known _ => none

/-- An attribute of a class as it is read from the class. -/
def classAttribute? (program : Program) (number : Nat) (name : String) : Option Entity :=
  (rawAttribute? program number name).map fun
    | .static inner => inner
    | .classBound (.function f) => .bound f
    | e => e

/-- An attribute of a class as it is read from an instance. -/
def instanceAttribute? (program : Program) (number : Nat) (name : String) : Option Entity :=
  (rawAttribute? program number name).map fun
    | .static inner => inner
    | .classBound (.function f) => .bound f
    | .function f => .bound f
    | e => e

/-- An attribute of a thing. A hostile thing raises when it is asked for one. -/
def attribute? (program : Program) (name : String) : Entity → Except Fault (Option Entity)
  | .classRef number => .ok (program.classAttribute? number name)
  | .hostile fault | .hostileTagged fault _ => .error fault
  | _ => .ok none

/-- Whether verdicts are what the values of a class are. -/
def isVerdictClass (program : Program) (number : Nat) : Bool :=
  (program.lineage number).contains (.known "ValidatorResult")

/-- The name of a type without what it is defined in. -/
def titleOf (program : Program) : BaseType → String
  | .own number =>
    let qualname := ((program.classes[number]?).map (·.qualname)).getD ""
    String.ofList (Text.lastPiece '.' qualname.toList)
  | .known name => name

/-- The layout of the things of a type. -/
def layoutOf (program : Program) : BaseType → String
  | .own number => ((program.classes[number]?).map (·.layout)).getD "object"
  | .known name => BaseType.layoutOf name

/-- The fault of a class that cannot be made. -/
def classFault (message : String) : Fault := .withText "TypeError" message

/-- The layout of the things of a class that is based on some types, after the layout that those
before them share. -/
def layoutBelow (program : Program) : (layout? : Option String) → List BaseType →
    Except Fault String
  | layout?, [] => .ok (layout?.getD "object")
  | layout?, t :: rest => do
    if BaseType.isFinal t then
      throw (classFault
        ("type " ++ Text.quoted (program.titleOf t) ++ " is not an acceptable base type"))
    let here := program.layoutOf t
    match BaseType.sharedLayout (layout?.getD here) here with
    | some layout => layoutBelow program (some layout) rest
    | none => throw (classFault "multiple bases have instance lay-out conflict")

/-- The first of some types that stands among those after it. -/
def firstRepeated? : List BaseType → Option BaseType
  | [] => none
  | t :: rest => if rest.contains t then some t else firstRepeated? rest

/-- A class that is based on some types. Without any it is based on the most general one. -/
def makeClass (program : Program) (home qualname : String) (bases : List BaseType)
    (members : Names) : Except Fault Class := do
  let bases := if bases.isEmpty then [.known "object"] else bases
  let layout ← program.layoutBelow none bases
  if let some t := firstRepeated? bases then
    throw (classFault ("duplicate base class " ++ program.titleOf t))
  match BaseType.mergeLineages bases (bases.map program.lineageOf) with
  | .ok ancestors => return { home, qualname, bases, ancestors, layout, members }
  | .error heads =>
    throw (classFault ("Cannot create a consistent method resolution\norder (MRO) for bases " ++
      ", ".intercalate (heads.map program.titleOf)))

/-- The name of the module of the built-in validator. -/
def builtinHome : String := "validation_shims.unused_imports"

/-- The name of the built-in validator. -/
def builtinName : String := "check_for_unused_imports"

/-- The program that holds the built-in validator alone; it is tagged, and function number 0. -/
def initial : Program where
  functions := #[
    { home := builtinHome
      qualname := builtinName
      returnHint := some (.verdictType "ValidatorResult")
      isTagged := true
      body := .unusedImports
      moduleNumber := 0 }]
  modules := #[{ name := builtinHome, members := [(builtinName, .function 0)] }]
  loaded := [(builtinHome, 0)]
  table := [.function 0]

/-- The program with an empty registration table. -/
def withoutTable (program : Program) : Program := { program with table := [] }

end Program

end Vetting

import Vetting.Validator.Roll

/-!
# Vetting.Validator.Registry

The validators that can be found. The registration table is asked first; when it is no table, or
holds something that cannot be described, the modules are walked instead, and what cannot be looked
into is left out. Only errors are passed over in this way: an exit or an interrupt ends the
discovery. Of two validators of one name the later one counts, at its later place.

Things are described one after the other, since reading the hints of one may run functions of the
program and so change what the next one reads.
-/

namespace Vetting

/-- What stands in a list of modules. -/
inductive ModuleSlot where
  | absent
  | module (number : Nat)
  /-- Something, written `shown`, that raises when it is looked into. -/
  | failing (shown : String) (fault : Fault)

/-- A value that stands where a module should stand. -/
def ModuleSlot.other (v : Value) : ModuleSlot :=
  .failing v.shown (.withText "TypeError" "vars() argument must have __dict__ attribute")

/-- What is asked for validators first. -/
inductive TableSource where
  /-- The registration table of the program. -/
  | registration
  | listed (entities : List Entity)
  /-- Something that is no table. -/
  | invalid (v : Value)

/-- Where validators are looked for, and those that were found. -/
structure Registry where
  table : TableSource := .registration
  /-- The modules that are walked; all that are loaded, if none are given. -/
  modules? : Option (List ModuleSlot) := none
  usesTable : Bool := true
  found? : Option (List Descriptor) := none

namespace Program

/-- The module that a thing says it belongs to. -/
def homeOf (program : Program) : Entity → Option String
  | .function number => (program.functions[number]?).map (·.home)
  | .bound number => (program.functions[number]?).map (·.home)
  | .classRef number => (program.classes[number]?).map (·.home)
  | .builtin b => b.home?
  | .hostileTagged _ home => some home
  | _ => none

/-- The tagged things in a class body, and the fault that ends the search in it. -/
def taggedIn (program : Program) : Names → List Entity × Option Fault
  | [] => ([], none)
  | (_, e) :: rest =>
    match program.isTagged e with
    | .error fault => ([], some fault)
    | .ok isTagged =>
      let (found, fault?) := taggedIn program rest
      (if isTagged then e :: found else found, fault?)

/-- What is told of a class `qualname` of the module `home` that could not be searched. Only errors
are told, and only those whose text can be made; all others end the search of the module. -/
def classError (home qualname : String) (fault : Fault) : Except Fault String :=
  if fault.isError then
    match fault.said with
    | .ok text => .ok (home ++ "." ++ qualname ++ ": " ++ text)
    | .error other => .error (.during fault other)
  else .error fault

/-- What searching a class finds. What is found before a fault stays, and the fault is told. -/
def searchClass (program : Program) (home : String) (c : Class) :
    Except Fault (List Entity × List String) :=
  if c.home == home then
    match program.taggedIn c.members with
    | (found, none) => .ok (found, [])
    | (found, some fault) => (classError home c.qualname fault).map fun error => (found, [error])
  else .ok ([], [])

/-- What a thing gives that a module has a name for, and the class that could not be searched. -/
def searchNamed (program : Program) (home : String) :
    Entity → Except Fault (List Entity × List String)
  | .classRef number => program.searchClass home ((program.classes[number]?).getD default)
  | e =>
    (program.isTagged e).map fun isTagged =>
      (if isTagged && program.homeOf e.unwrap == some home then [e] else [], [])

/-- What walking some names of a module finds, and the classes that could not be searched. -/
def walkNames (program : Program) (home : String) :
    Names → Except Fault (List Entity × List String)
  | [] => .ok ([], [])
  | (_, e) :: rest => do
    let (here, errors) ← program.searchNamed home e
    let (found, more) ← walkNames program home rest
    return (here ++ found, errors ++ more)

/-- What a module is written as, and what walking its names finds. -/
def searchSlot (program : Program) :
    ModuleSlot → String × Except Fault (List Entity × List String)
  | .absent => ("None", .ok ([], []))
  | .failing shown fault => (shown, .error fault)
  | .module number =>
    let m := (program.modules[number]?).getD default
    ("<module " ++ Text.quoted m.name ++ ">", program.walkNames m.name m.members)

/-- What walking one module finds. A module that an error ends is skipped. -/
def walkModule (program : Program) (slot : ModuleSlot) : Session σ (List Entity) :=
  match program.searchSlot slot with
  | (_, .ok (found, errors)) => do
    Session.write (errors.map fun error =>
      ⟨.debug, .registry, some ("Skipping class during validator walk: " ++ error), none⟩)
    return found
  | (shown, .error fault) =>
    if fault.isError then do
      Session.noteFault .debug .registry "Skipping module %r during validator walk: %s"
        [(shown, shown)] fault
      return []
    else Session.fail fault

/-- What walking modules in turn finds. -/
def walk (program : Program) : List ModuleSlot → Session σ (List Entity)
  | [] => pure []
  | slot :: rest => do
    let here ← program.walkModule slot
    let found ← walk program rest
    return here ++ found

end Program

namespace Registry

/-- Descriptors without those that a later one of the same name replaces. -/
def dedupe (ds : List Descriptor) : List Descriptor := (ds.foldl Roll.renew {}).entries

/-- The things in a table, if it is one. -/
def entriesOf (program : Program) : TableSource → Except Fault (List Entity)
  | .registration => .ok program.table
  | .listed entities => .ok entities
  | .invalid v =>
    .error (.framework .discovery ("registration table is not a sequence: " ++ v.shown))

/-- The validators of a table. -/
def fromTable (reader : HintReader) (table : TableSource) : Session World (List Descriptor) := do
  let entities ← Session.ofExcept (entriesOf (← Session.get).program table)
  return dedupe (← entities.mapM reader.describe)

/-- What is told of things. What an error ends is left out. -/
def describeEach (reader : HintReader) : List Entity → Session World (List Descriptor)
  | [] => pure []
  | e :: rest => do
    let here ←
      match ← Session.attempt (reader.describe e) with
      | .ok d => pure [d]
      | .error fault => if fault.isError then pure [] else Session.fail fault
    let more ← describeEach reader rest
    return here ++ more

/-- The modules that are walked: all that are loaded, if none are given. -/
def slotsOf (program : Program) (modules? : Option (List ModuleSlot)) : List ModuleSlot :=
  modules?.getD (program.loaded.map fun (_, number) => .module number)

/-- The validators in the modules. What cannot be described is left out. -/
def fromModules (reader : HintReader) (modules? : Option (List ModuleSlot)) :
    Session World (List Descriptor) := do
  let program := (← Session.get).program
  let found ← program.walk (slotsOf program modules?)
  return dedupe (← describeEach reader found)

/-- What is noted where the table is given up. -/
def lookupFailed : String := "Indexed validator lookup failed (%s); walking modules"

/-- Look for validators: in the table, and where an error ends that, in the modules. -/
def discover (reader : HintReader) (registry : Registry) : Session World (List Descriptor) :=
  if registry.usesTable then do
    match ← Session.attempt (fromTable reader registry.table) with
    | .ok ds => return ds
    | .error fault =>
      if fault.isError then do
        Session.noteFault .warning .registry lookupFailed [] fault
        fromModules reader registry.modules?
      else Session.fail fault
  else fromModules reader registry.modules?

/-- The descriptor that a name stands for: a qualified name before a label before a bare name. -/
def findIn (ds : List Descriptor) (name : String) : Option Descriptor :=
  ((ds.find? (·.qualifiedName == name)).or (ds.find? (·.label == name))).or
    (ds.find? (·.name == name))

end Registry

end Vetting

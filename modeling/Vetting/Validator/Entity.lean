import Vetting.Verdict

/-!
# Vetting.Validator.Entity

What the names of a validator module stand for: functions and classes, which are kept elsewhere and
are referred to by number, values, and the types and functions that have a name in every module.
-/

namespace Vetting

/-- What the call of a function returns. -/
inductive Returned where
  | value (v : Value)
  | verdict (v : Verdict)
  /-- An object of another type. -/
  | other (typeName : String)
  deriving Inhabited

namespace Returned

/-- The name of the type of what is returned. -/
def typeName : Returned → String
  | value v => v.typeName
  | verdict _ => "ValidatorResult"
  | other name => name

end Returned

/-- How the call of a function ends. -/
inductive Reply where
  | returns (r : Returned)
  | raises (fault : Fault)
  deriving Inhabited

/-- What a function does when it is called. -/
inductive Body where
  /-- It gives the replies of a script, one per call; the last one is given again and again. -/
  | script (number : Nat)
  /-- It searches the configured sources for unused imports. -/
  | unusedImports
  deriving DecidableEq, Repr, Inhabited

/-- A built-in function, with what it tells of itself. -/
structure Builtin where
  home? : Option String
  qualname : String
  parameters? : Option Nat
  deriving DecidableEq, Repr

/-- What a name can stand for. -/
inductive Entity where
  /-- A function. -/
  | function (number : Nat)
  /-- A function that is called without an instance or a class. -/
  | static (inner : Entity)
  /-- A function that is called on its class. -/
  | classBound (inner : Entity)
  /-- A function that is called when an attribute is read. -/
  | property (inner : Entity)
  /-- A function bound to an instance or a class. -/
  | bound (number : Nat)
  | classRef (number : Nat)
  | value (v : Value)
  | builtin (b : Builtin)
  /-- A general type, or another thing that is known by its name. -/
  | known (name : String)
  /-- A thing that raises whatever one asks of it. -/
  | hostile (fault : Fault)
  /-- The same, but tagged, and of the module `home`. -/
  | hostileTagged (fault : Fault) (home : String)
  deriving Repr, Inhabited

/-- Names and what they stand for, in the order in which the names were first bound. -/
abbrev Names := List (String × Entity)

namespace Names

/-- The names with one more bound. A name that is there keeps its place. -/
def bind (names : Names) (name : String) (entity : Entity) : Names :=
  if names.any (·.1 == name) then
    names.map fun (key, old) => if key == name then (key, entity) else (key, old)
  else names ++ [(name, entity)]

/-- The names without one of them. -/
def unbind (names : Names) (name : String) : Names := names.filter (·.1 != name)

end Names

namespace Entity

/-- The function inside a static or class-bound one; anything else is itself. -/
def unwrap : Entity → Entity
  | .static inner => inner
  | .classBound inner => inner
  | e => e

/-- The general types that are no kinds of fault, with the number of their parameters where it is
known. -/
def generalTypes : List (String × Option Nat) :=
  [("bool", none), ("bytearray", none), ("bytes", none), ("classmethod", none),
   ("complex", some 2), ("dict", none), ("enumerate", some 2), ("filter", none),
   ("float", some 1), ("frozenset", none), ("int", none), ("list", some 1), ("map", none),
   ("memoryview", some 1), ("object", some 0), ("property", some 4), ("range", none),
   ("reversed", some 1), ("set", none), ("slice", none), ("staticmethod", none), ("str", none),
   ("super", none), ("tuple", some 1), ("type", none), ("zip", none)]

/-- The functions that have a name in every module, with the number of their parameters where it is
known. -/
def generalFunctions : List (String × Option Nat) :=
  [("__build_class__", none), ("__import__", some 5), ("abs", some 1), ("aiter", some 1),
   ("all", some 1), ("anext", none), ("any", some 1), ("ascii", some 1), ("bin", some 1),
   ("breakpoint", none), ("callable", some 1), ("chr", some 1), ("compile", some 7),
   ("delattr", some 2), ("dir", none), ("divmod", some 2), ("eval", some 3), ("exec", some 4),
   ("format", some 2), ("getattr", none), ("globals", some 0), ("hasattr", some 2),
   ("hash", some 1), ("hex", some 1), ("id", some 1), ("input", some 1), ("isinstance", some 2),
   ("issubclass", some 2), ("iter", none), ("len", some 1), ("locals", some 0), ("max", none),
   ("min", none), ("next", none), ("oct", some 1), ("open", some 8), ("ord", some 1),
   ("pow", some 3), ("print", some 5), ("repr", some 1), ("round", some 2), ("setattr", some 3),
   ("sorted", some 3), ("sum", some 2), ("vars", none)]

/-- Other things that have a name in every module. -/
def generalThings : List String :=
  ["Ellipsis", "NotImplemented", "copyright", "credits", "exit", "help", "license", "quit"]

/-- Whether a name is that of a general type. -/
def isGeneralType (name : String) : Bool :=
  (generalTypes.lookup name).isSome || (FaultKind.parents.lookup name).isSome ||
    name == "BaseException"

/-- What a name stands for in every module. -/
def general? (name : String) : Option Entity :=
  let name := FaultKind.canonical name
  if isGeneralType name || generalThings.contains name then some (.known name)
  else if name == "__debug__" then some (.value (.bool true))
  else (generalFunctions.lookup name).map fun count =>
    .builtin ⟨some "builtins", name, count⟩

/-- The built-in functions that can be described, by name. -/
def builtins : List (String × Builtin) :=
  [("len", ⟨some "builtins", "len", some 1⟩), ("dict.update", ⟨none, "dict.update", none⟩)]

/-- The type of verdicts, and the type below it. -/
def verdictTypes : List String := ["ValidatorResult", "SubResult"]

/-- The names of this library that modules have from the start. -/
def libraryNames : Names :=
  (verdictTypes ++ ["Optional"]).map fun name => (name, .known name)

/-- The name of the type of a thing that is known by its name. -/
def knownTypeName (name : String) : String :=
  if isGeneralType name || verdictTypes.contains name then "type"
  else if name == "Optional" then "_SpecialForm"
  else if name == "Ellipsis" then "ellipsis"
  else if name == "NotImplemented" then "NotImplementedType"
  else if name == "help" then "_Helper"
  else if name == "exit" || name == "quit" then "Quitter"
  else "_Printer"

/-- The module that a thing known by its name belongs to. -/
def knownHome (name : String) : String :=
  if name == "ValidatorResult" then "validation_shims.results"
  else if name == "SubResult" then "__main__"
  else if name == "Optional" then "typing"
  else if isGeneralType name then "builtins"
  else ""

/-- The number of parameters of a thing known by its name, where it is known. -/
def knownParameters? (name : String) : Option Nat :=
  if verdictTypes.contains name || name == "Optional" then some 2
  else (generalTypes.lookup name).join

/-- The name of a thing's type, as it is told where the thing cannot be tagged. -/
def typeName : Entity → String
  | .function _ => "function"
  | .static _ => "staticmethod"
  | .classBound _ => "classmethod"
  | .property _ => "property"
  | .bound _ => "method"
  | .classRef _ => "type"
  | .value v => v.typeName
  | .builtin _ => "builtin_function_or_method"
  | .known name => knownTypeName name
  | .hostile _ => "Hostile"
  | .hostileTagged _ _ => "Hostile"

end Entity

end Vetting

import Vetting.Validator.Hint.AttributeNames
import Vetting.Validator.Hint.Typing

/-!
# Vetting.Validator.Hint.Attribute

What is read of the things that hints name. Types tell their names and what they are based on,
types with arguments tell these, and of a thing of a general type its functions can be read.
-/

namespace Vetting

namespace HintValue

/-- The fault of an attribute that is not there. -/
def lacking (message : String) : Fault := .withText "AttributeError" message

/-- The fault of a thing that lacks an attribute. -/
def lacks (program : Program) (object : HintValue) (name : String) : Fault :=
  if object.isType then
    lacking ("type object " ++ Text.quoted (program.typeTitle object) ++ " has no attribute " ++
      Text.quoted name)
  else
    lacking (Text.quoted (program.typeName object) ++ " object has no attribute " ++
      Text.quoted name)

/-- What a type that a class is based on stands for. -/
def ofBase : BaseType → HintValue
  | .own number => .entity (.classRef number)
  | .known name => ofKnown name

/-- Whether the things of a general type have an attribute. -/
def hasGeneral (typeName name : String) : Bool :=
  AttributeNames.commonNames.contains name ||
    (BaseType.generalLineage typeName).any fun t =>
      ((AttributeNames.ownNames.lookup t).getD []).contains name

/-- The attributes of verdicts that can be read of their type. -/
def verdictNames : List String :=
  ["__annotations__", "__dataclass_fields__", "__dataclass_params__", "__match_args__", "failing",
   "passing", "status"]

/-- An attribute of a type that tells about the type. -/
def describing? (program : Program) (object : HintValue) (name : String) : Option HintValue :=
  let path := program.typePath object
  let title := String.ofList (Text.lastPiece '.' (program.typeTitle object).toList)
  let bases : List HintValue :=
    match object with
    | .type name | .verdictType name => ((BaseType.knownLineage name).drop 1).map ofBase
    | .entity (.classRef number) => ((program.lineage number).drop 1).map ofBase
    | _ => [.type "object"]
  let nearest : List HintValue :=
    match object with
    | .entity (.classRef number) =>
      (((program.classes[number]?).map (·.bases)).getD []).map ofBase
    | .type "ExceptionGroup" => [.type "BaseExceptionGroup", .type "Exception"]
    | _ => bases.take 1
  match name with
  | "__name__" => some (text title)
  | "__qualname__" =>
    match object with
    | .entity (.classRef number) =>
      some (text (((program.classes[number]?).map (·.qualname)).getD ""))
    | _ => some (text title)
  | "__module__" =>
    match object with
    | .entity (.classRef number) => some (text (((program.classes[number]?).map (·.home)).getD ""))
    | _ =>
      some (text (((Text.beforeLast? '.' path.toList).map String.ofList).getD "builtins"))
  | "__class__" => some (.type "type")
  | "__doc__" => some (if object matches .entity _ then nothing else thingOf "str")
  | "__mro__" => some (.tuple (object :: bases))
  | "__bases__" => some (.tuple nearest)
  | "__base__" => some (nearest.headD nothing)
  | "__dict__" => some (thingOf "mappingproxy")
  | _ => none

/-- What is read of a type. -/
def readType (program : Program) (object : HintValue) (name : String) :
    Except Fault HintValue := do
  let isVerdict :=
    match object with
    | .verdictType _ => true
    | .entity (.classRef number) => program.isVerdictClass number
    | _ => false
  let found? : Option Entity ←
    match object with
    | .entity e => program.attribute? name e
    | _ => pure none
  match found?, describing? program object name with
  | some e, _ => return ofEntity e
  | none, some v => return v
  | none, none =>
    let isGeneral :=
      match object with
      | .type t => hasGeneral t name
      | _ => AttributeNames.commonNames.contains name
    if isVerdict && name == "message" then return nothing
    else if isVerdict && name == "status" then return thingOf "property"
    else if isGeneral || hasGeneral "type" name || (isVerdict && verdictNames.contains name) then
      return .method object name
    else throw (lacks program object name)

/-- What is read of a number, if it tells about the number. -/
def numberPart? (q : Quantity) (name : String) : Option HintValue :=
  match q, name with
  | .whole n, "real" | .whole n, "numerator" => some (int n)
  | .whole _, "imag" => some (int 0)
  | .whole _, "denominator" => some (int 1)
  | .pointed x, "real" => some (.value (.float x))
  | .pointed _, "imag" => some (.value (.float (Double.zero false)))
  | .complex real _, "real" => some (.value (.float real))
  | .complex _ imaginary, "imag" => some (.value (.float imaginary))
  | _, _ => none

/-- What is read of a range, a part or a fault, if it tells about the thing. -/
def ownPart? (object : HintValue) (name : String) : Option HintValue :=
  match object, name with
  | .range first _ _ _, "start" => some (int first)
  | .range _ _ last _, "stop" => some (int last)
  | .range _ step _ _, "step" => some (int step)
  | .slice first _ _, "start" => some first
  | .slice _ last _, "stop" => some last
  | .slice _ _ step, "step" => some step
  | .unraised _ arguments, "args" => some (.tuple arguments)
  | .unraised _ _, "__cause__" | .unraised _ _, "__context__" => some nothing
  | .unraised _ _, "__traceback__" => some nothing
  | .verdict _ passed _, "passed" => some passed
  | .verdict _ _ message, "message" => some message
  | .verdict _ passed _, "status" => some (text (if passed.truthy then "PASS" else "FAIL"))
  | _, _ => none

/-- What is read of a thing of a general type. -/
def readGeneral (program : Program) (object : HintValue) (name : String) :
    Except Fault HintValue :=
  match (object.quantity?.bind fun q => numberPart? q name).or (ownPart? object name), name with
  | some v, _ => .ok v
  | none, "__class__" => .ok object.typeOf
  | none, "__doc__" => .ok (thingOf "str")
  | none, _ =>
    if hasGeneral object.generalTypeName name then .ok (.method object name)
    else .error (lacks program object name)

/-- What is read of a function. -/
def readFunction (program : Program) (object : HintValue) (name qualname home : String) :
    Except Fault HintValue :=
  match name with
  | "__name__" => .ok (text (String.ofList (Text.lastPiece '.' qualname.toList)))
  | "__qualname__" => .ok (text qualname)
  | "__module__" => .ok (text home)
  | _ => readGeneral program object name

/-- What is read of a thing. -/
def read (program : Program) (object : HintValue) (name : String) : Except Fault HintValue :=
  if object.isType then readType program object name
  else
    match object with
    | .entity (.function number) =>
      let f := (program.functions[number]?).getD default
      readFunction program object name f.qualname f.home
    | .entity (.builtin b) =>
      readFunction program object name b.qualname (b.home?.getD "")
    | .entity e =>
      match program.attribute? name e with
      | .error fault => .error fault
      | .ok (some found) => .ok (ofEntity found)
      | .ok none => readGeneral program object name
    | .closure _ _ _ => readFunction program object name "<lambda>" "builtins"
    | .method _ own =>
      if name == "__name__" then .ok (text own) else readGeneral program object name
    | .alias origin arguments =>
      if name == "__origin__" then .ok origin
      else if name == "__args__" then .ok (.tuple arguments)
      else if name == "__parameters__" then .ok (.tuple [])
      else if name == "__class__" then .ok object.typeOf
      else if hasGeneral "types.GenericAlias" name && !AttributeNames.commonNames.contains name then
        .ok (.method object name)
      else readType program origin name
    | .union members =>
      if name == "__args__" then .ok (.tuple members)
      else if name == "__parameters__" then .ok (.tuple [])
      else readGeneral program object name
    | .choice members =>
      if name == "__args__" then .ok (.tuple members)
      else if name == "__parameters__" then .ok (.tuple [])
      else if name == "__origin__" then .ok (thingOf "typing._SpecialForm")
      else if name == "__module__" then .ok (text "typing")
      else if name == "__name__" || name == "__qualname__" || name == "_name" then
        .ok (text (if members.length = 2 && members.any (same nothingType) then "Optional"
          else "Union"))
      else if name == "__class__" then .ok object.typeOf
      else if AttributeNames.commonNames.contains name then .ok (.method object name)
      else .error (lacking name)
    | .optionalForm =>
      if name == "__name__" || name == "__qualname__" || name == "_name" then
        .ok (text "Optional")
      else if name == "__module__" then .ok (text "typing")
      else if name == "__class__" then .ok object.typeOf
      else if AttributeNames.commonNames.contains name then .ok (.method object name)
      else .error (lacking name)
    | .verdict (.entity (.classRef number)) _ _ =>
      match (if name == "passed" || name == "message" then none
        else program.instanceAttribute? number name), ownPart? object name with
      | some e, _ => .ok (ofEntity e)
      | none, some v => .ok v
      | none, none =>
        if name == "__class__" then .ok object.typeOf
        else if AttributeNames.commonNames.contains name || verdictNames.contains name then
          .ok (.method object name)
        else .error (lacks program object name)
    | .verdict _ _ _ =>
      match ownPart? object name with
      | some v => .ok v
      | none =>
        if name == "__class__" then .ok object.typeOf
        else if name == "__match_args__" then .ok (.tuple [text "passed", text "message"])
        else if name == "__dict__" then
          .ok (.mapping (["passed", "message"].filterMap fun key =>
            (ownPart? object key).map fun v => (text key, v)))
        else if verdictNames.contains name || AttributeNames.commonNames.contains name then
          .ok (.method object name)
        else .error (lacks program object name)
    | .thing (.entity (.classRef number)) =>
      match program.instanceAttribute? number name with
      | some e => .ok (ofEntity e)
      | none =>
        if name == "__class__" then .ok object.typeOf
        else if AttributeNames.commonNames.contains name || program.isVerdictClass number then
          .ok (.method object name)
        else .error (lacks program object name)
    | .thing (.verdictType _) =>
      if name == "passed" then .ok (thingOf "bool")
      else if name == "message" then .ok nothing
      else if name == "status" then .ok (thingOf "str")
      else if name == "__class__" then .ok object.typeOf
      else if verdictNames.contains name || AttributeNames.commonNames.contains name then
        .ok (.method object name)
      else .error (lacks program object name)
    | .supply _ _ | .halting _ _ _ =>
      if name == "__iter__" || name == "__next__" then .ok (.method object name)
      else readGeneral program object name
    | v => readGeneral program v name

end HintValue

end Vetting

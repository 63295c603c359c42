import Vetting.Validator.Hint.Method
import Vetting.Validator.World

/-!
# Vetting.Validator.Hint.Call

What the calls of hints give. A call of a function of the program runs its body, which may change
what the functions act on.
-/

namespace Vetting

namespace HintValue

/-- What a field of a verdict stands for. -/
def ofHeld : Held → HintValue
  | .value v => ofValue v
  | .object _ => thingOf "object"

/-- What a thing that is returned stands for. -/
def ofReturned : Returned → HintValue
  | .value v => ofValue v
  | .verdict found =>
    .verdict (.verdictType "ValidatorResult") (ofHeld found.passed) (ofHeld found.message)
  | .other name => thingOf name

/-- What the call of a function of the program gives: it is called if it takes the arguments. -/
def callProgram (number : Nat) (arguments : CallArguments) : Session World HintValue := do
  let f := ((← Session.get).program.functions[number]?).getD default
  let given := arguments.placed.length
  match arguments.named with
  | (name, _) :: _ =>
    throw (mismatch (f.qualname ++ "() got an unexpected keyword argument " ++ Text.quoted name))
  | [] =>
    if f.parameters.isEmpty && given != 0 then
      throw (mismatch (f.qualname ++ "() takes 0 positional arguments but " ++ toString given ++
        (if given = 1 then " was" else " were") ++ " given"))
    else return ofReturned (← World.callFunction number)

/-- What leaving the program with a code raises. -/
def leaving (arguments : CallArguments) : Except Fault HintValue :=
  match arguments.placed, arguments.named with
  | [], [] => .error (.raised "SystemExit" [.null])
  | [code], [] | [], [("code", code)] => .error (.raised "SystemExit" [(asValue? code).getD .null])
  | _, (name, _) :: _ =>
    .error (mismatch ("Quitter.__call__() got an unexpected keyword argument " ++
      Text.quoted name))
  | placed, [] =>
    .error (mismatch ("Quitter.__call__() takes from 1 to 2 positional arguments but " ++
      toString (placed.length + 1) ++ " were given"))

/-- What a call gives, where the callee is neither a function of the program nor one without a
name. -/
def call (program : Program) (callee : HintValue) (arguments : CallArguments) :
    Except Fault HintValue :=
  let title := program.typeTitle callee
  match callee with
  | .type t => make program t arguments
  | .verdictType _ => makeVerdict callee arguments
  | .entity (.classRef number) =>
    if program.isVerdictClass number then makeVerdict callee arguments
    else if arguments.placed.isEmpty && arguments.named.isEmpty ||
        (program.rawAttribute? number "__init__").isSome then
      .ok (.thing callee)
    else .error (mismatch (title ++ "() takes no arguments"))
  | .entity (.builtin b) => callFunction program b.qualname arguments
  | .alias (.type t) _ => make program t arguments
  | .optionalForm => .error (mismatch "Cannot instantiate typing.Optional")
  | .choice _ => .error (mismatch "Cannot instantiate typing.Union")
  | .method object name =>
    if object.isType then callUnbound program object name arguments
    else callOwn program object name arguments
  | .thing (.type "object") => .ok (thingOf "object")
  | .thing (.type "Quitter") => leaving arguments
  | v => .error (mismatch (Text.quoted (program.typeName v) ++ " object is not callable"))

end HintValue

end Vetting

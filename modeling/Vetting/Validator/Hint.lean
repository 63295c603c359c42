import Vetting.Validator.Hint.Evaluation

/-!
# Vetting.Validator.Hint

What a function hints of the values it returns. A hint is what an expression stands for, or a text
that names a type. Texts are looked up in the function's module, and a text inside a text once more.
When an error ends that for one hint of a function, the hint of the returned values counts as it
stands: of a text, the part after the last dot. What is no error, such as an exit that a hint asks
for, passes through.

How hints are looked up is no part of what is told of validators: a `HintReader` does it, and
`HintReader.standard` is the one that hosts start with.
-/

namespace Vetting

/-- What a validator is declared to return. -/
inductive ReturnKind where
  | boolean
  | structured
  | invalid
  deriving DecidableEq, Repr, Inhabited

namespace ReturnKind

/-- The name of a return kind. -/
def name : ReturnKind → String
  | boolean => "bool"
  | structured => "ValidatorResult"
  | invalid => "invalid"

/-- The kind that the end of a dotted text names. Quotes around the text are passed over. -/
def ofText (text : List Char) : ReturnKind :=
  let isQuote (c : Char) : Bool := c == '\'' || c == '"'
  let bare := ((text.dropWhile isQuote).reverse.dropWhile isQuote).reverse
  let last := String.ofList (Text.lastPiece '.' bare)
  if last == boolean.name then boolean
  else if last == structured.name then structured
  else invalid

end ReturnKind

namespace HintValue

/-- What a name stands for in a module. -/
def inModule? (m : ValidatorModule) (name : String) : Option HintValue :=
  match (m.members.lookup name).or (Entity.general? name) with
  | some e => some (ofEntity e)
  | none => if name == "__name__" then some (text m.name) else none

/-- What stands for a text where it is read as a type. -/
def asReference : HintValue → Except Fault HintValue
  | .value (.text s) => ofReference s
  | v => .ok v

mutual

/-- A hint whose texts are looked up. A text that is met again while it is looked up stays as it
is. The fuel bounds how deep texts and types lie in one another. -/
def settle (scope : Scope) : (fuel : Nat) → (pending : List String) → HintValue →
    Session World HintValue
  | 0, _, _ => throw tooDeep
  | fuel + 1, pending, v =>
    match v with
    | .reference s =>
      if pending.contains s then return v
      else
        match Expression.ofReference? s with
        | none => throw (.withText "SyntaxError" "invalid syntax")
        | some e => do
          let found ← evaluate scope evaluationDepth e
          let found ← found.typeArgument scope.program "Forward references must evaluate to types."
          settle scope fuel (s :: pending) found
    | .alias origin arguments => do
      let arguments ← Session.ofExcept (arguments.mapM asReference)
      return .alias origin (← settleAll scope fuel pending arguments)
    | .union members => do
      match ← settleAll scope fuel pending members with
      | [] => return v
      | first :: rest => Session.ofExcept (rest.foldlM (operate scope.program .or) first)
    | .choice members => do
      let found ← settleAll scope fuel pending members
      if sameAll members found then return v
      else
        choiceOf (← Session.ofExcept (found.mapM
          (typeArgument scope.program "Union[arg, ...]: each arg must be a type.")))
    | v => return v

/-- Hints whose texts are looked up. -/
def settleAll (scope : Scope) : (fuel : Nat) → (pending : List String) → List HintValue →
    Session World (List HintValue)
  | 0, _, _ => throw tooDeep
  | _ + 1, _, [] => return []
  | fuel + 1, pending, v :: rest => do
    let first ← settle scope fuel pending v
    let more ← settleAll scope fuel pending rest
    return first :: more

end

/-- A hint of a function whose texts are looked up. -/
def settled (scope : Scope) : HintValue → Session World HintValue
  | .value .null => return nothingType
  | v => do settle scope evaluationDepth [] (← asReference v)

/-- The return kind that a hint stands for as it is. -/
def kind (program : Program) : HintValue → ReturnKind
  | .type "bool" => .boolean
  | .verdictType _ => .structured
  | .value (.text s) => .ofText s.toList
  | .entity (.classRef number) => if program.isVerdictClass number then .structured else .invalid
  | _ => .invalid

end HintValue

namespace Program

/-- What names stand for in the module of a function. -/
def scopeOf (program : Program) (f : Function) : HintValue.Scope where
  program
  lookup name := (program.modules[f.moduleNumber]?).bind fun m => HintValue.inModule? m name

end Program

/-- A reader of hints: what a function's hint of its returned values stands for, if it has one. -/
abbrev HintReader := Function → Session World (Option HintValue)

namespace HintReader

/-- The reader that looks up all hints of a function, those of its parameters first. -/
def standard : HintReader := fun f => do
  let scope := (← Session.get).program.scopeOf f
  let _ ← f.parameterHints.mapM (HintValue.settled scope)
  f.returnHint.mapM (HintValue.settled scope)

/-- What a function is declared to return. Where an error ends the reading of its hints, the hint of
its returned values counts as it is written. -/
def returnKind (reader : HintReader) (f : Function) : Session World ReturnKind := do
  let read ← Session.attempt (reader f)
  let program := (← Session.get).program
  let kindOf (hint? : Option HintValue) : ReturnKind := hint?.elim .invalid (·.kind program)
  match read with
  | .ok hint? => return kindOf hint?
  | .error fault => if fault.isError then return kindOf f.returnHint else Session.fail fault

end HintReader

end Vetting

import Vetting.Validator.Hint.Reader
import Vetting.Validator.Program

/-!
# Vetting.Validator.Hint.Typing

How what hints stand for is written out, and how types are joined. Where two types are joined, both
must be types; where one side is open, the other may be a text that names a type, or any thing that
is not several things at once.
-/

namespace Vetting

namespace Program

/-- The name of a type as it is written in front of what it lacks. -/
def typeTitle (program : Program) : HintValue → String
  | .type name => if Text.startsWith "typing.".toList name.toList then
      String.ofList (Text.lastPiece '.' name.toList) else name
  | .verdictType name => name
  | .entity (.classRef number) =>
    let qualname := ((program.classes[number]?).map (·.qualname)).getD ""
    String.ofList (Text.lastPiece '.' qualname.toList)
  | _ => "object"

/-- The name of the type of something. -/
def typeName (program : Program) (v : HintValue) : String := program.typeTitle v.typeOf

/-- The name of a type with the module that it belongs to. -/
def typePath (program : Program) : HintValue → String
  | .type name => name
  | .verdictType name =>
    if name == "ValidatorResult" then "validation_shims.results." ++ name else "__main__." ++ name
  | .entity (.classRef number) =>
    match program.classes[number]? with
    | some c => c.home ++ "." ++ c.qualname
    | none => ""
  | _ => "object"

/-- A thing of the program written out. -/
def shownEntity (program : Program) : Entity → String
  | .classRef number => "<class '" ++ program.typePath (.entity (.classRef number)) ++ "'>"
  | .function number =>
    "<function " ++ ((program.functions[number]?).map (·.qualname)).getD "" ++ ">"
  | .builtin b => "<built-in function " ++ b.qualname ++ ">"
  | e => "<" ++ e.typeName ++ " object>"

/-- A thing as an argument of an alias, given how it is written elsewhere: types and functions by
their names. -/
def asArgument (program : Program) (v : HintValue) (shown : String) : String :=
  match v with
  | .ellipsis => "..."
  | .entity (.builtin b) => b.qualname
  | .entity (.function number) =>
    match program.functions[number]? with
    | some f => f.home ++ "." ++ f.qualname
    | none => shown
  | v => if v.isType then program.typePath v else shown

/-- A thing as an alternative of a choice, given how it is written elsewhere. -/
def asAlternative (program : Program) (v : HintValue) (shown : String) : String :=
  match v with
  | .ellipsis => "..."
  | .entity (.function number) =>
    match program.functions[number]? with
    | some f => String.ofList (Text.lastPiece '.' f.qualname.toList)
    | none => shown
  | .closure _ _ _ => "<lambda>"
  | v => if v.isType then program.typePath v else shown

/-- The name that a verdict is written with: that of its class with the classes around. -/
def verdictTitle (program : Program) : HintValue → String
  | .entity (.classRef number) => ((program.classes[number]?).map (·.qualname)).getD ""
  | v => program.typeTitle v

/-- Bytes written out: those that are no basic characters by their numbers. -/
def shownBytes (s : String) : String :=
  let quote : Char := if s.contains '\'' && !s.contains '"' then '"' else '\''
  let digits (n : Nat) : List Char :=
    let found := Nat.toDigits 16 n
    List.replicate (2 - found.length) '0' ++ found
  let body := s.toList.flatMap fun c =>
    if c = quote ∨ c = '\\' then ['\\', c]
    else if c = '\t' then ['\\', 't']
    else if c = '\n' then ['\\', 'n']
    else if c = '\r' then ['\\', 'r']
    else if c.toNat < 32 ∨ 127 ≤ c.toNat then '\\' :: 'x' :: digits c.toNat
    else [c]
  String.ofList ('b' :: quote :: body ++ [quote])

mutual

/-- What a hint stands for, written out. -/
def shown (program : Program) : HintValue → String
  | .value v => v.shown
  | .complex real imaginary => Quantity.complexText real imaginary
  | .bytes s => shownBytes s
  | .ellipsis => "Ellipsis"
  | .list items => "[" ++ ", ".intercalate (shownAll program items) ++ "]"
  | .tuple items =>
    "(" ++ ", ".intercalate (shownAll program items) ++ (if items.length = 1 then ",)" else ")")
  | .set items =>
    if items.isEmpty then "set()"
    else "\x7b" ++ ", ".intercalate (shownAll program items) ++ "\x7d"
  | .frozenset items =>
    if items.isEmpty then "frozenset()"
    else "frozenset(\x7b" ++ ", ".intercalate (shownAll program items) ++ "\x7d)"
  | .range first step last _ =>
    "range(" ++ toString first ++ ", " ++ toString last ++
      (if step = 1 then ")" else ", " ++ toString step ++ ")")
  | .mapping entries => "\x7b" ++ ", ".intercalate (shownEntries program entries) ++ "\x7d"
  | .slice first last step =>
    "slice(" ++ shown program first ++ ", " ++ shown program last ++ ", " ++ shown program step ++
      ")"
  | .type name => "<class '" ++ name ++ "'>"
  | .verdictType name => "<class '" ++ program.typePath (.verdictType name) ++ "'>"
  | .entity e => program.shownEntity e
  | .alias origin arguments =>
    program.typePath origin ++ "[" ++
      (if arguments.isEmpty then "()"
        else ", ".intercalate (shownArguments program arguments)) ++ "]"
  | .union members =>
    " | ".intercalate ((shownArguments program members).map fun s =>
      if s == "NoneType" then "None" else s)
  | .choice members =>
    let written := shownAlternatives program members
    match written.filter (· != "NoneType") with
    | [one] => "typing.Optional[" ++ one ++ "]"
    | _ => "typing.Union[" ++ ", ".intercalate written ++ "]"
  | .optionalForm => "typing.Optional"
  | .reference s => "ForwardRef(" ++ Text.quoted s ++ ")"
  | .method object name =>
    if object.isType then
      "<method " ++ Text.quoted name ++ " of " ++ Text.quoted (program.typePath object) ++
        " objects>"
    else "<built-in method " ++ name ++ " of " ++ program.typeName object ++ " object>"
  | .closure _ _ _ => "<function <lambda>>"
  | .supply name items =>
    if HintValue.viewTypes.contains name then
      name ++ "([" ++ ", ".intercalate (shownAll program items) ++ "])"
    else "<" ++ name ++ " object>"
  | .halting name _ _ => "<" ++ name ++ " object>"
  | .verdict t passed message =>
    program.verdictTitle t ++ "(passed=" ++ shown program passed ++ ", message=" ++
      shown program message ++ ")"
  | .unraised kind arguments =>
    kind ++ "(" ++ ", ".intercalate (shownAll program arguments) ++ ")"
  | .thing (.type "NotImplementedType") => "NotImplemented"
  | .thing t => "<" ++ program.typePath t ++ " object>"

/-- Things written out one by one. -/
def shownAll (program : Program) : List HintValue → List String
  | [] => []
  | v :: rest => shown program v :: shownAll program rest

/-- Things written out one by one as arguments of an alias. -/
def shownArguments (program : Program) : List HintValue → List String
  | [] => []
  | v :: rest => program.asArgument v (shown program v) :: shownArguments program rest

/-- Things written out one by one as alternatives of a choice. -/
def shownAlternatives (program : Program) : List HintValue → List String
  | [] => []
  | v :: rest => program.asAlternative v (shown program v) :: shownAlternatives program rest

/-- Entries written out one by one. -/
def shownEntries (program : Program) : List (HintValue × HintValue) → List String
  | [] => []
  | (key, v) :: rest =>
    (shown program key ++ ": " ++ shown program v) :: shownEntries program rest

end

end Program

namespace Expression

/-- The expression of a text that names a type. A text may start with a star, which stands for the
items of what follows. -/
def ofReference? (s : String) : Option Expression :=
  match s.toList with
  | '*' :: rest => readSeveral? ("(*".toList ++ rest ++ ",)[0]".toList)
  | chars => readSeveral? chars

end Expression

namespace HintValue

/-- The type that a text names, if the text is an expression. -/
def ofReference (s : String) : Except Fault HintValue :=
  match Expression.ofReference? s with
  | some _ => .ok (.reference s)
  | none =>
    .error (.withText "SyntaxError"
      ("Forward reference must be an expression -- got " ++ Text.quoted s))

/-- How many characters of several things are shown where one type is expected. -/
def shownLength : Nat := 100

/-- What stands for a type where one is expected. -/
def typeArgument (program : Program) (expectation : String) : HintValue → Except Fault HintValue
  | .value .null => .ok nothingType
  | .value (.text s) => ofReference s
  | .optionalForm => .error (mismatch "Plain typing.Optional is not valid as type argument")
  | .tuple items =>
    .error (mismatch (expectation ++ " Got " ++
      String.ofList ((program.shown (.tuple items)).toList.take shownLength) ++ "."))
  | v => .ok v

/-- The alternatives that something stands for. -/
def alternatives : HintValue → List HintValue
  | .union members => members
  | .choice members => members
  | v => [v]

/-- The choice between some alternatives. -/
def choiceOf (members : List HintValue) : Except Fault HintValue := do
  let members := members.flatMap alternatives
  hashedAll members
  match dedupe members with
  | [one] => return one
  | several => return .choice several

/-- The choice between something and nothing. -/
def optionalOf (program : Program) (v : HintValue) : Except Fault HintValue := do
  let v ← v.typeArgument program "typing.Optional requires a single type."
  choiceOf [v, nothingType]

/-- The choice between two things. -/
def eitherOf (program : Program) (v w : HintValue) : Except Fault HintValue := do
  let v ← v.typeArgument program "Union[arg, ...]: each arg must be a type."
  let w ← w.typeArgument program "Union[arg, ...]: each arg must be a type."
  choiceOf [v, w]

/-- The types that something stands for where types are joined. -/
def joinedTypes : HintValue → List HintValue
  | .value .null => [nothingType]
  | .union members => members
  | v => [v]

/-- Two types joined. -/
def unionOf (v w : HintValue) : HintValue :=
  match dedupe (v.joinedTypes ++ w.joinedTypes) with
  | [one] => one
  | several => .union several

/-- Two things joined, where they are types or one of them is open. -/
def joined? (program : Program) (v w : HintValue) : Option (Except Fault HintValue) :=
  match v, w with
  | .value .null, .value .null => none
  | v, w =>
    if v.isJoinable && w.isJoinable then some (.ok (unionOf v w))
    else if v.isOpenForm || w.isOpenForm then some (eitherOf program v w)
    else none

end HintValue

end Vetting

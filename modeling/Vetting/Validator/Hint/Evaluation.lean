import Vetting.Validator.Hint.Call

/-!
# Vetting.Validator.Hint.Evaluation

What an expression of a hint stands for, when it is known what its names stand for. The parts of an
expression are evaluated from left to right, and the first fault ends the evaluation. A name that an
expression gives to a thing is known in what is evaluated behind it. What is to be given one by one
is found at once, but a fault on the way is kept until the things before it were given. A call of a
function of the program runs its body, and what that changed stays, however the evaluation ends.
-/

namespace Vetting

namespace HintValue

/-- The fault of a name that stands for nothing. -/
def unknownName (name : String) : Fault :=
  .withText "NameError" ("name " ++ Text.quoted name ++ " is not defined")

/-- How deep an evaluation goes. -/
def evaluationDepth : Nat := 5000

/-- The fault of an evaluation that goes too deep. -/
def tooDeep : Fault := .withText "RecursionError" "maximum recursion depth exceeded"

/-- Names written one after the other, the last one behind a word. -/
def listed : List String → String
  | [] => ""
  | [s] => Text.quoted s
  | [s, t] => Text.quoted s ++ " and " ++ Text.quoted t
  | ss =>
    ", ".intercalate (ss.dropLast.map Text.quoted) ++ ", and " ++ Text.quoted (ss.getLastD "")

/-- The names of the parameters that arguments are given to by place. -/
def placedParameters (parameters : List (String × Option HintValue)) : List String :=
  ((parameters.takeWhile fun (name, _) => name.toList.head? != some '*').map (·.1)).filter
    (· != "/")

/-- The names of the parameters that arguments are given to by name alone. -/
def namedParameters (parameters : List (String × Option HintValue)) : List String :=
  ((parameters.dropWhile fun (name, _) => name.toList.head? != some '*').map (·.1)).filter
    fun name => name.toList.head? != some '*'

/-- The parameter that takes all further arguments, if there is one. -/
def furtherParameter? (stars : List Char) (parameters : List (String × Option HintValue)) :
    Option String :=
  parameters.findSome? fun (name, _) =>
    match Text.after? stars name.toList with
    | some (c :: rest) => if c = '*' then none else some (String.ofList (c :: rest))
    | _ => none

/-- What the parameters of a function without a name stand for in a call. -/
def bound (parameters : List (String × Option HintValue)) (arguments : CallArguments) :
    Except Fault (List (String × HintValue)) :=
  let given := arguments.placed.length
  let placed := placedParameters parameters
  let all := placed ++ namedParameters parameters
  let further? := furtherParameter? ['*'] parameters
  let others? := furtherParameter? ['*', '*'] parameters
  let plural (n : Nat) : String := if n = 1 then "" else "s"
  let unknown := arguments.named.filter fun (name, _) => !all.contains name
  match (if others?.isSome then none else unknown.head?) with
  | some (name, _) =>
    .error (mismatch ("<lambda>() got an unexpected keyword argument " ++ Text.quoted name))
  | none =>
    match arguments.named.find? fun (name, _) => (placed.take given).contains name with
    | some (name, _) =>
      .error (mismatch ("<lambda>() got multiple values for argument " ++ Text.quoted name))
    | none =>
      if placed.length < given && further?.isNone then
        .error (mismatch ("<lambda>() takes " ++ toString placed.length ++
          " positional argument" ++ plural placed.length ++ " but " ++ toString given ++
          (if given = 1 then " was" else " were") ++ " given"))
      else
        let defaults := parameters.filterMap fun (name, v?) => v?.map fun v => (name, v)
        let found := placed.zip arguments.placed ++ arguments.named ++ defaults
        let further := further?.toList.map fun name =>
          (name, HintValue.tuple (arguments.placed.drop placed.length))
        let others := others?.toList.map fun name =>
          (name, HintValue.mapping (unknown.map fun (key, v) => (text key, v)))
        match (placed.drop given).filter fun p => (found.lookup p).isNone with
        | [] => .ok (found ++ further ++ others)
        | missing =>
          .error (mismatch ("<lambda>() missing " ++ toString missing.length ++
            " required positional argument" ++ plural missing.length ++ ": " ++ listed missing))

mutual

/-- What the names of a target stand for when it is given a thing. -/
def matched (program : Program) : Target → HintValue → Except Fault (List (String × HintValue))
  | .name s, v => .ok [(s, v)]
  | .several targets, v => do
    let fault : Fault :=
      mismatch ("cannot unpack non-iterable " ++ program.typeName v ++ " object")
    let vs ← itemsOr program fault v
    if targets.length < vs.length then
      throw (.withText "ValueError"
        ("too many values to unpack (expected " ++ toString targets.length ++ ")"))
    else if vs.length < targets.length then
      throw (.withText "ValueError"
        ("not enough values to unpack (expected " ++ toString targets.length ++ ", got " ++
          toString vs.length ++ ")"))
    else matchedAll program targets vs

/-- What the names of some targets stand for when each is given a thing. -/
def matchedAll (program : Program) :
    List Target → List HintValue → Except Fault (List (String × HintValue))
  | target :: targets, v :: vs => do
    let first ← matched program target v
    let more ← matchedAll program targets vs
    return first ++ more
  | _, _ => .ok []

end

/-- A collection of a shape. -/
def collected (shape : CollectionShape) (items : List HintValue) : Except Fault HintValue :=
  match shape with
  | .tuple => .ok (.tuple items)
  | .list => .ok (.list items)
  | .set => do
    hashedAll items
    return setOf items

/-- What is made of things that are found one by one. -/
def gathered (program : Program) (gathering : Gathering) (found : Findings) :
    Except Fault HintValue := do
  if gathering = .supply then return found.asSupply "generator"
  let vs ← found.all
  match gathering with
  | .supply => return .supply "generator" vs
  | .list => collected .list vs
  | .set => collected .set vs
  | .mapping => do return mappingOf (← pairsOf program 0 vs)

/-- What an item of a collection that stands for the items of a thing stands for. -/
def spreadItems (program : Program) (v : HintValue) : Except Fault (List HintValue) :=
  itemsOr program (mismatch ("Value after * must be an iterable, not " ++ program.typeName v)) v

/-- The parts of an expression that is evaluated: the program, and what names stand for. -/
structure Scope where
  program : Program
  /-- What a name stands for where the expression stands. -/
  lookup : String → Option HintValue
  /-- What names stand for in the functions around. -/
  locals : List (String × HintValue) := []

namespace Scope

/-- A scope in which some more names are known. -/
def withLocals (scope : Scope) (names : List (String × HintValue)) : Scope :=
  { scope with locals := names }

end Scope

/-- The names that expressions gave to things, the last ones first. -/
abbrev Given := List (String × HintValue)

/-- What an evaluation changes: the names that were given, and what functions act on. -/
structure Surroundings where
  given : Given := []
  world : World

/-- An evaluation, which may give names to things and call functions. -/
abbrev Evaluating := Session Surroundings

/-- A step on what functions act on. -/
def onWorld {α : Type} (step : Session World α) : Evaluating α :=
  Session.zoom (·.world) (fun world around => { around with world }) step

/-- What an evaluation finds, or the fault that ends it. -/
def attempted (evaluation : Evaluating Findings) : Evaluating Findings :=
  tryCatch evaluation fun fault => pure { fault? := some fault }

/-- What a search finds for each of some things, as far as no fault ends it. -/
def searchEach (vs : List HintValue) (search : HintValue → Evaluating Findings) :
    Evaluating Findings := do
  let found ← vs.foldlM (fun (found : Findings) v =>
    if found.fault?.isSome then pure found
    else do
      let here ← attempted (search v)
      return { here with items := here.items.reverse ++ found.items }) {}
  return { found with items := found.items.reverse }

/-- What a name stands for. -/
def Scope.find (scope : Scope) (name : String) : Evaluating HintValue := do
  let around ← Session.get
  match ((scope.locals.lookup name).or (around.given.lookup name)).or (scope.lookup name) with
  | some v => return v
  | none => throw (unknownName name)

/-- The functions that put things in order by keys. -/
def orderingFunctions : List String := ["max", "min", "sorted"]

mutual

/-- What an expression stands for. -/
def evaluateIn (scope : Scope) : (fuel : Nat) → Expression → Evaluating HintValue
  | 0, _ => throw tooDeep
  | fuel + 1, e =>
    match e with
    | .name s => scope.find s
    | .constant v => return .value v
    | .imaginary x => return .complex (Double.zero false) x
    | .bytes s => return .bytes s
    | .ellipsis => return .ellipsis
    | .collection shape es => do collected shape (← evaluateItems scope fuel es)
    | .mapping keys values => do
      return .mapping (← evaluateEntries scope fuel [] keys values)
    | .spread e => evaluateIn scope fuel e
    | .keyword _ e => evaluateIn scope fuel e
    | .attribute object name => do read scope.program (← evaluateIn scope fuel object) name
    | .item object key => do
      let object ← evaluateIn scope fuel object
      let key ← evaluateIn scope fuel key
      item scope.program object key
    | .slice first last step => do
      let first ← evaluateIn scope fuel first
      let last ← evaluateIn scope fuel last
      let step ← evaluateIn scope fuel step
      return .slice first last step
    | .call callee arguments => do
      let callee ← evaluateIn scope fuel callee
      let arguments ← evaluateArguments scope fuel {} arguments
      apply scope fuel callee arguments
    | .unary operator e => do operateOn scope.program operator (← evaluateIn scope fuel e)
    | .binary operator left right => do
      let left ← evaluateIn scope fuel left
      let right ← evaluateIn scope fuel right
      operate scope.program operator left right
    | .compare first comparisons others => do
      let first ← evaluateIn scope fuel first
      evaluateComparisons scope fuel first comparisons others
    | .andThen first second => do
      let v ← evaluateIn scope fuel first
      if v.truthy then evaluateIn scope fuel second else return v
    | .orElse first second => do
      let v ← evaluateIn scope fuel first
      if v.truthy then return v else evaluateIn scope fuel second
    | .choose test yes no => do
      let v ← evaluateIn scope fuel test
      if v.truthy then evaluateIn scope fuel yes else evaluateIn scope fuel no
    | .function parameters body => do
      return .closure (← evaluateParameters scope fuel parameters) body scope.locals
    | .each gathering element sources => do
      gathered scope.program gathering (← evaluateOuter scope fuel element sources)
    | .filled parts => do
      let vs ← evaluateItems scope fuel parts
      return text (String.join (← vs.mapM fun v => (written scope.program v : Evaluating String)))
    | .formed e conversion? form => do
      let v ← evaluateIn scope fuel e
      let form ← evaluateIn scope fuel form
      let v ← converted scope.program conversion? v
      return text (← formed scope.program v (plainText scope.program form))
    | .named name e => do
      let v ← evaluateIn scope fuel e
      Session.modify fun around => { around with given := (name, v) :: around.given }
      return v

/-- What the parameters of a function have where nothing is given. -/
def evaluateParameters (scope : Scope) : (fuel : Nat) → List (String × Option Expression) →
    Evaluating (List (String × Option HintValue))
  | 0, _ => throw tooDeep
  | _ + 1, [] => return []
  | fuel + 1, (name, e?) :: rest => do
    let first ←
      match e? with
      | some e => do pure (name, some (← evaluateIn scope fuel e))
      | none => pure (name, none)
    let more ← evaluateParameters scope fuel rest
    return first :: more

/-- What the items of a collection stand for. -/
def evaluateItems (scope : Scope) : (fuel : Nat) → List Expression → Evaluating (List HintValue)
  | 0, _ => throw tooDeep
  | _ + 1, [] => return []
  | fuel + 1, .spread e :: rest => do
    let vs ← spreadItems scope.program (← evaluateIn scope fuel e)
    let more ← evaluateItems scope fuel rest
    return vs ++ more
  | fuel + 1, e :: rest => do
    let v ← evaluateIn scope fuel e
    let more ← evaluateItems scope fuel rest
    return v :: more

/-- What the entries of a mapping stand for, after those that were found. -/
def evaluateEntries (scope : Scope) : (fuel : Nat) → (found : List (HintValue × HintValue)) →
    (keys values : List Expression) → Evaluating (List (HintValue × HintValue))
  | 0, _, _, _ => throw tooDeep
  | fuel + 1, found, .spread e :: keys, _ :: values => do
    match ← evaluateIn scope fuel e with
    | .mapping entries =>
      evaluateEntries scope fuel (entries.foldl (fun es (key, v) => withEntry es key v) found)
        keys values
    | v =>
      throw (mismatch (Text.quoted (scope.program.typeName v) ++ " object is not a mapping"))
  | fuel + 1, found, first :: keys, second :: values => do
    let key ← evaluateIn scope fuel first
    let v ← evaluateIn scope fuel second
    key.hashed
    evaluateEntries scope fuel (withEntry found key v) keys values
  | _ + 1, found, _, _ => return found

/-- What the arguments of a call stand for, behind those that were found. -/
def evaluateArguments (scope : Scope) : (fuel : Nat) → (found : CallArguments) → List Expression →
    Evaluating CallArguments
  | 0, _, _ => throw tooDeep
  | _ + 1, found, [] => return found
  | fuel + 1, found, .spread e :: rest => do
    let vs ← spreadItems scope.program (← evaluateIn scope fuel e)
    evaluateArguments scope fuel { found with placed := found.placed ++ vs } rest
  | fuel + 1, found, .keyword name e :: rest => do
    let v ← evaluateIn scope fuel e
    let named ←
      match name.isEmpty, v with
      | false, v => pure [(name, v)]
      | true, .mapping entries =>
        pure (entries.filterMap fun (key, v) => match key with
          | .value (.text s) => some (s, v)
          | _ => none)
      | true, v =>
        throw (mismatch ("argument after ** must be a mapping, not " ++ scope.program.typeName v))
    evaluateArguments scope fuel { found with named := found.named ++ named } rest
  | fuel + 1, found, e :: rest => do
    let v ← evaluateIn scope fuel e
    evaluateArguments scope fuel { found with placed := found.placed ++ [v] } rest

/-- The outcome of comparisons that follow one another: the first one that does not hold, or the
last one. -/
def evaluateComparisons (scope : Scope) : (fuel : Nat) → (first : HintValue) → List Comparison →
    List Expression → Evaluating HintValue
  | 0, _, _, _ => throw tooDeep
  | fuel + 1, first, comparison :: comparisons, e :: others => do
    let second ← evaluateIn scope fuel e
    let outcome ← compare scope.program comparison first second
    if comparisons.isEmpty || !outcome.truthy then return outcome
    else evaluateComparisons scope fuel second comparisons others
  | _ + 1, _, _, _ => return bool true

/-- What an element stands for with the items of sources. What goes wrong with the first source is
raised at once. -/
def evaluateOuter (scope : Scope) : (fuel : Nat) → (element : Expression) →
    List (Target × Expression × List Expression) → Evaluating Findings
  | 0, _, _ => throw tooDeep
  | fuel + 1, element, sources =>
    match sources with
    | (target, source, tests) :: more => do
      let given ← findingsOf scope.program (← evaluateIn scope fuel source)
      let found ← searchEach given.items fun v => do
        let inner := scope.withLocals ((← matched scope.program target v) ++ scope.locals)
        if ← evaluateTests inner fuel tests then evaluateSources inner fuel element more
        else return {}
      found.andThen (pure { fault? := given.fault? })
    | [] => return {}

/-- What an element stands for with the items of sources. -/
def evaluateSources (scope : Scope) : (fuel : Nat) → (element : Expression) →
    List (Target × Expression × List Expression) → Evaluating Findings
  | 0, _, _ => throw tooDeep
  | fuel + 1, element, [] => do return { items := [← evaluateIn scope fuel element] }
  | fuel + 1, element, sources => evaluateOuter scope fuel element sources

/-- Whether all tests count as true. -/
def evaluateTests (scope : Scope) : (fuel : Nat) → List Expression → Evaluating Bool
  | 0, _ => throw tooDeep
  | _ + 1, [] => return true
  | fuel + 1, e :: rest => do
    let v ← evaluateIn scope fuel e
    if v.truthy then evaluateTests scope fuel rest else return false

/-- What a call gives. Texts can be evaluated once more, and functions can be called with the items
of a thing. -/
def apply (scope : Scope) : (fuel : Nat) → (callee : HintValue) → CallArguments →
    Evaluating HintValue
  | 0, _, _ => throw tooDeep
  | fuel + 1, callee, arguments =>
    match callee, arguments.placed with
    | .closure parameters body locals, _ => do
      let names ← bound parameters arguments
      evaluateIn (scope.withLocals (names ++ locals)) fuel body
    | .type "map", f :: lists => do
      if lists.isEmpty then throw (mismatch "map() must have at least two arguments.")
      let found ← lists.mapM fun v => (findingsOf scope.program v : Evaluating Findings)
      let rows := zipped maxSize found
      let results ← applyEach scope fuel f rows.items
      return (← results.andThen (pure { fault? := rows.fault? })).asSupply "map"
    | .type "filter", [f, v] => do
      let found ← findingsOf scope.program v
      let kept ←
        match f with
        | .value .null => pure found
        | f => do
          let kept ← applyEach scope fuel f (found.items.map fun v => .tuple [v])
          kept.andThen (pure { fault? := found.fault? })
      let passing := ((found.items.zip kept.items).filter fun (_, k) => k.truthy).map (·.1)
      return { kept with items := passing : Findings }.asSupply "filter"
    | .type "filter", vs => do
      counted "filter" 2 2 vs.length
      return thingOf "filter"
    | .entity (.builtin ⟨_, "eval", _⟩), [.value (.text s)] =>
      let bare := s.toList.dropWhile fun c => c = ' ' || c = '\t'
      match Expression.readSeveral? bare with
      | none =>
        throw (.withText "SyntaxError" ("invalid syntax (<string>, line " ++
          (if bare.isEmpty then "0)" else "1)")))
      | some e => evaluateIn scope fuel e
    | .entity (.builtin ⟨_, name, _⟩), placed => do
      match orderingFunctions.contains name, arguments.named.lookup "key" with
      | true, some f =>
        if f matches .value .null then call scope.program callee arguments
        else do
          let vs ←
            match placed with
            | [v] => items scope.program v
            | vs => pure vs
          let keys ← (← applyEach scope fuel f (vs.map fun v => .tuple [v])).all
          if name == "sorted" then sorted scope.program arguments (some keys)
          else mostOf scope.program name arguments (some keys)
      | _, _ => call scope.program callee arguments
    | .entity (.function number), _ | .entity (.bound number), _
    | .entity (.static (.function number)), _ => onWorld (callProgram number arguments)
    | callee, _ => call scope.program callee arguments

/-- What calls with the items of each of some things give. -/
def applyEach (scope : Scope) : (fuel : Nat) → (callee : HintValue) → List HintValue →
    Evaluating Findings
  | 0, _, _ => throw tooDeep
  | fuel + 1, callee, rows =>
    searchEach rows fun row => do
      let vs ← items scope.program row
      return { items := [← apply scope fuel callee ⟨vs, []⟩] }

end

/-- What an expression stands for, where no expression has given names yet. -/
def evaluate (scope : Scope) (fuel : Nat) (e : Expression) : Session World HintValue := fun world =>
  let o := evaluateIn scope fuel e { world }
  ⟨o.result, o.state.world, o.journal⟩

end HintValue

end Vetting

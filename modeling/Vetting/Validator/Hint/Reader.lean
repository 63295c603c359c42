import Vetting.Validator.Hint.Naming
import Vetting.Validator.Hint.Token

/-!
# Vetting.Validator.Hint.Reader

Reading an expression from its tokens. The operators bind in levels: an operator of a higher level
takes its operands before one of a lower level does, and on one level the operator further left
comes first. `Expression.read?` reads a whole text as one expression; white space before the
expression is a mistake, between its parts it is not.
-/

namespace Vetting

namespace HintReader

/-- The tokens of an expression. -/
abbrev Tokens := List HintToken

/-- The operator that some tokens start with, if it is of a level. -/
def operatorAt? (level : Nat) : Tokens → Option (BinaryOperator × Tokens)
  | .sign s :: rest =>
    match BinaryOperator.signs.lookup s with
    | some operator => if operator.level = level then some (operator, rest) else none
    | none => none
  | _ => none

/-- The comparison that some tokens start with. -/
def comparisonAt? : Tokens → Option (Comparison × Tokens)
  | .sign s :: rest => (Comparison.signs.lookup s).map fun c => (c, rest)
  | .word "in" :: rest => some (.within, rest)
  | .word "not" :: .word "in" :: rest => some (.without, rest)
  | .word "is" :: .word "not" :: rest => some (.different, rest)
  | .word "is" :: rest => some (.same, rest)
  | _ => none

/-- The words that are constants. -/
def constantWords : List (String × Value) :=
  [("None", .null), ("True", .bool true), ("False", .bool false)]

/-- Texts that follow one another, joined. -/
def joinTexts (parts : List Expression) : Expression :=
  let plain := parts.filterMap fun
    | .constant (.text s) => some s
    | _ => none
  if plain.length = parts.length then .constant (.text (String.join plain)) else .filled parts

/-- The bytes that follow one another, joined to `before`. -/
def joinBytes (before : String) : Tokens → Expression × Tokens
  | .bytes s :: rest => joinBytes (before ++ s) rest
  | rest => (.bytes before, rest)

/-- Whether a text or bytes come first: they cannot be joined to the other kind. -/
def startsQuoted : Tokens → Bool
  | .text _ :: _ | .bytes _ :: _ | .mixed _ :: _ => true
  | _ => false

/-- Whether some tokens start with a sign. -/
def closes (close : String) : Tokens → Bool
  | .sign s :: _ => s == close
  | _ => false

/-- Whether some tokens start with a sign that stands behind an end of a part. -/
def endsBound (ts : Tokens) : Bool := closes ":" ts || closes "]" ts || closes "," ts

/-- Whether arguments may stand in their order: those that are given by a name stand last, and each
name once. -/
def areOrdered : List Expression → Bool
  | [] => true
  | .keyword name _ :: rest =>
    (rest.all fun
      | .keyword other _ => name.isEmpty || other != name
      | .spread _ => !name.isEmpty
      | _ => false) && areOrdered rest
  | _ :: rest => areOrdered rest

mutual

/-- What an expression calls things, if it can. -/
def targetOf? : Expression → Option Target
  | .name s => some (.name s)
  | .collection .tuple es => (targetsOf? es).map .several
  | .collection .list es => (targetsOf? es).map .several
  | _ => none

/-- What expressions call things, if all can. -/
def targetsOf? : List Expression → Option (List Target)
  | [] => some []
  | e :: rest =>
    match targetOf? e, targetsOf? rest with
    | some first, some more => some (first :: more)
    | _, _ => none

end

/-- The expression of some items: one item without a comma behind it is no tuple. -/
def ofItems (items : List Expression) (hasComma : Bool) : Option Expression :=
  match items, hasComma with
  | [.spread _], false => none
  | [e], false => some e
  | items, _ => some (.collection .tuple items)

mutual

/-- An expression. The fuel bounds the depth and the number of parts. -/
def expression : (fuel : Nat) → Tokens → Option (Expression × Tokens)
  | 0, _ => none
  | fuel + 1, .word "lambda" :: ts => do
    let (names, ts) ← parameters fuel ts
    let (body, ts) ← expression fuel ts
    return (.function names body, ts)
  | fuel + 1, ts => do
    let (first, ts) ← disjunction fuel ts
    match ts with
    | .word "if" :: ts => do
      let (test, ts) ← disjunction fuel ts
      match ts with
      | .word "else" :: ts => do
        let (other, ts) ← expression fuel ts
        return (.choose test first other, ts)
      | _ => none
    | ts => return (first, ts)

/-- The parameters of a function without a name up to the colon. -/
def parameters : (fuel : Nat) → Tokens → Option (List (String × Option Expression) × Tokens)
  | 0, _ => none
  | _ + 1, .sign ":" :: ts => some ([], ts)
  | fuel + 1, ts => do
    let (first, ts) ← parameter fuel ts
    match ts with
    | .sign ":" :: ts => return ([first], ts)
    | .sign "," :: ts => do
      let (more, ts) ← parameters fuel ts
      return (first :: more, ts)
    | _ => none

/-- A parameter of a function without a name. -/
def parameter : (fuel : Nat) → Tokens → Option ((String × Option Expression) × Tokens)
  | 0, _ => none
  | fuel + 1, .word s :: .sign "=" :: ts =>
    (expression fuel ts).map fun (e, ts) => ((s, some e), ts)
  | _ + 1, .word s :: ts => if HintToken.reserved.contains s then none else some ((s, none), ts)
  | _ + 1, .sign s :: .word name :: ts =>
    if s = "*" ∨ s = "**" then some ((s ++ name, none), ts) else none
  | _ + 1, .sign s :: ts => if s = "*" ∨ s = "/" then some ((s, none), ts) else none
  | _ + 1, _ => none

/-- Texts that follow one another. -/
def quotedTexts : (fuel : Nat) → Tokens → Option (List Expression × Tokens)
  | 0, _ => none
  | fuel + 1, .text s :: ts => do
    let (more, ts) ← quotedTexts fuel ts
    return (.constant (.text s) :: more, ts)
  | fuel + 1, .mixed parts :: ts => do
    let first ← mixedParts fuel parts
    let (more, ts) ← quotedTexts fuel ts
    return (first ++ more, ts)
  | _ + 1, ts => some ([], ts)

/-- The parts of a text with expressions in it. -/
def mixedParts : (fuel : Nat) → List MixedPart → Option (List Expression)
  | 0, _ => none
  | _ + 1, [] => some []
  | fuel + 1, .text s :: parts => do
    let more ← mixedParts fuel parts
    return .constant (.text s) :: more
  | fuel + 1, .inner source conversion? form :: parts => do
    let e ← innerExpression fuel source
    let form ← mixedParts fuel form
    let more ← mixedParts fuel parts
    return .formed e conversion? (joinTexts form) :: more

/-- The expression that a part of a text is. -/
def innerExpression : (fuel : Nat) → (source : String) → Option Expression
  | 0, _ => none
  | fuel + 1, source => do
    let ts ← HintToken.read? ("(" ++ source ++ ")").toList
    let (e, ts) ← atom fuel ts
    if ts.isEmpty && !HintToken.isBare source.toList then some e else none

/-- An expression that may be given a name, or the items of one. -/
def member : (fuel : Nat) → Tokens → Option (Expression × Tokens)
  | 0, _ => none
  | fuel + 1, .sign "*" :: ts => (binary fuel 0 ts).map fun (e, ts) => (.spread e, ts)
  | fuel + 1, .word s :: .sign ":=" :: ts =>
    if HintToken.reserved.contains s then none
    else (expression fuel ts).map fun (e, ts) => (.named s e, ts)
  | fuel + 1, ts => expression fuel ts

/-- Alternatives of which the first that counts as true counts. -/
def disjunction : (fuel : Nat) → Tokens → Option (Expression × Tokens)
  | 0, _ => none
  | fuel + 1, ts => do
    let (first, ts) ← conjunction fuel ts
    match ts with
    | .word "or" :: ts => do
      let (second, ts) ← disjunction fuel ts
      return (.orElse first second, ts)
    | ts => return (first, ts)

/-- Conditions of which the first that does not count as true counts. -/
def conjunction : (fuel : Nat) → Tokens → Option (Expression × Tokens)
  | 0, _ => none
  | fuel + 1, ts => do
    let (first, ts) ← inversion fuel ts
    match ts with
    | .word "and" :: ts => do
      let (second, ts) ← conjunction fuel ts
      return (.andThen first second, ts)
    | ts => return (first, ts)

/-- A comparison, perhaps turned around. -/
def inversion : (fuel : Nat) → Tokens → Option (Expression × Tokens)
  | 0, _ => none
  | fuel + 1, .word "not" :: ts => (inversion fuel ts).map fun (e, ts) => (.unary .not e, ts)
  | fuel + 1, ts => do
    let (first, ts) ← binary fuel 0 ts
    let ((comparisons, others), ts) ← comparisons fuel ts
    return (if comparisons.isEmpty then first else .compare first comparisons others, ts)

/-- What a first operand is compared with. -/
def comparisons : (fuel : Nat) → Tokens →
    Option ((List Comparison × List Expression) × Tokens)
  | 0, _ => none
  | fuel + 1, ts =>
    match comparisonAt? ts with
    | none => some (([], []), ts)
    | some (comparison, ts) => do
      let (operand, ts) ← binary fuel 0 ts
      let ((more, others), ts) ← comparisons fuel ts
      return ((comparison :: more, operand :: others), ts)

/-- Operands with operators of at least a level between them. -/
def binary : (fuel : Nat) → (level : Nat) → Tokens → Option (Expression × Tokens)
  | 0, _, _ => none
  | fuel + 1, level, ts =>
    if level = 6 then factor fuel ts
    else do
      let (first, ts) ← binary fuel (level + 1) ts
      operands fuel level first ts

/-- What an operand is joined to by operators of a level. -/
def operands : (fuel : Nat) → (level : Nat) → Expression → Tokens →
    Option (Expression × Tokens)
  | 0, _, _, _ => none
  | fuel + 1, level, first, ts =>
    match operatorAt? level ts with
    | none => some (first, ts)
    | some (operator, ts) => do
      let (second, ts) ← binary fuel (level + 1) ts
      operands fuel level (.binary operator first second) ts

/-- A power, perhaps with signs before it. -/
def factor : (fuel : Nat) → Tokens → Option (Expression × Tokens)
  | 0, _ => none
  | fuel + 1, .sign "+" :: ts => (factor fuel ts).map fun (e, ts) => (.unary .plus e, ts)
  | fuel + 1, .sign "-" :: ts => (factor fuel ts).map fun (e, ts) => (.unary .minus e, ts)
  | fuel + 1, .sign "~" :: ts => (factor fuel ts).map fun (e, ts) => (.unary .invert e, ts)
  | fuel + 1, ts => do
    let (base, ts) ← primary fuel ts
    match ts with
    | .sign "**" :: ts => do
      let (exponent, ts) ← factor fuel ts
      return (.binary .power base exponent, ts)
    | ts => return (base, ts)

/-- An atom and what is read of it. -/
def primary : (fuel : Nat) → Tokens → Option (Expression × Tokens)
  | 0, _ => none
  | fuel + 1, ts => do
    let (first, ts) ← atom fuel ts
    trailers fuel first ts

/-- A name, a constant, or what stands in brackets. -/
def atom : (fuel : Nat) → Tokens → Option (Expression × Tokens)
  | 0, _ => none
  | fuel + 1, ts =>
    match ts with
    | [] => none
    | .word s :: ts =>
      match constantWords.lookup s with
      | some v => some (.constant v, ts)
      | none => if HintToken.reserved.contains s then none else some (.name s, ts)
    | .number v :: ts => some (.constant v, ts)
    | .imaginary x :: ts => some (.imaginary x, ts)
    | .text s :: ts => do
      let (parts, ts) ← quotedTexts fuel (.text s :: ts)
      if startsQuoted ts then none else return (joinTexts parts, ts)
    | .mixed parts :: ts => do
      let (parts, ts) ← quotedTexts fuel (.mixed parts :: ts)
      if startsQuoted ts then none else return (joinTexts parts, ts)
    | .bytes s :: ts =>
      let (e, ts) := joinBytes s ts
      if startsQuoted ts then none else some (e, ts)
    | .sign "..." :: ts => some (.ellipsis, ts)
    | .sign "(" :: ts => do
      let ((items, hasComma, tests?), ts) ← members fuel ")" ts
      match tests? with
      | some e => return (e .supply, ts)
      | none => if items.isEmpty then return (.collection .tuple [], ts) else do
        let e ← ofItems items hasComma
        return (e, ts)
    | .sign "[" :: ts => do
      let ((items, _, tests?), ts) ← members fuel "]" ts
      match tests? with
      | some e => return (e .list, ts)
      | none => return (.collection .list items, ts)
    | .sign "\x7b" :: .sign "\x7d" :: ts => some (.mapping [] [], ts)
    | .sign "\x7b" :: .sign "**" :: ts => do
      let (first, ts) ← binary fuel 0 ts
      entries fuel [.spread first] [.constant .null] ts
    | .sign "\x7b" :: ts => do
      let (first, after) ← member fuel ts
      match after with
      | .sign ":" :: after => do
        let (value, after) ← expression fuel after
        entries fuel [first] [value] after
      | _ => do
        let ((items, _, tests?), ts) ← members fuel "\x7d" ts
        match tests? with
        | some e => return (e .set, ts)
        | none => return (.collection .set items, ts)
    | _ => none

/-- The entries of a mapping after those whose keys and values are given. -/
def entries : (fuel : Nat) → (keys values : List Expression) → Tokens →
    Option (Expression × Tokens)
  | 0, _, _, _ => none
  | fuel + 1, keys, values, ts =>
    match ts with
    | .sign "\x7d" :: ts => some (.mapping keys values, ts)
    | .sign "," :: .sign "\x7d" :: ts => some (.mapping keys values, ts)
    | .sign "," :: .sign "**" :: ts => do
      let (more, ts) ← binary fuel 0 ts
      entries fuel (keys ++ [.spread more]) (values ++ [.constant .null]) ts
    | .sign "," :: ts => do
      let (key, ts) ← expression fuel ts
      match ts with
      | .sign ":" :: ts => do
        let (value, ts) ← expression fuel ts
        entries fuel (keys ++ [key]) (values ++ [value]) ts
      | _ => none
    | .word "for" :: _ => do
      let (found, ts) ← sources fuel ts
      match ts, keys, values with
      | .sign "\x7d" :: ts, [key], [value] =>
        if key matches .spread _ then none
        else return (.each .mapping (.collection .tuple [key, value]) found, ts)
      | _, _, _ => none
    | _ => none

/-- The items of a collection up to a closing sign, whether a comma stands behind the last of them,
and the collection for a source where the items are made from one. -/
def members : (fuel : Nat) → (close : String) → Tokens →
    Option ((List Expression × Bool × Option (Gathering → Expression)) × Tokens)
  | 0, _, _ => none
  | fuel + 1, close, ts =>
    if closes close ts then some (([], false, none), ts.drop 1)
    else do
      let (first, ts) ← member fuel ts
      match ts with
      | .word "for" :: _ => do
        let (found, ts) ← sources fuel ts
        if closes close ts && !(first matches .spread _) then
          return (([], false, some fun gathering => .each gathering first found), ts.drop 1)
        else none
      | .sign "," :: ts =>
        if closes close ts then return (([first], true, none), ts.drop 1)
        else do
          let ((more, _, tests?), ts) ← members fuel close ts
          if tests?.isSome then none else return ((first :: more, true, none), ts)
      | ts => if closes close ts then return (([first], false, none), ts.drop 1) else none

/-- Where the elements of a collection come from: sources, each with tests of its items. -/
def sources : (fuel : Nat) → Tokens →
    Option (List (Target × Expression × List Expression) × Tokens)
  | 0, _ => none
  | fuel + 1, .word "for" :: ts => do
    let (target, ts) ← targets fuel ts
    let (source, ts) ← disjunction fuel ts
    let (found, ts) ← tests fuel ts
    let (more, ts) ← sources fuel ts
    return ((target, source, found) :: more, ts)
  | _ + 1, ts => some ([], ts)

/-- What the items of a source are called, up to the word before the source. -/
def targets : (fuel : Nat) → Tokens → Option (Target × Tokens)
  | 0, _ => none
  | fuel + 1, ts => do
    let ((found, hasComma), ts) ← targetsUpTo fuel ts
    match found, hasComma with
    | [], _ => none
    | [one], false => return (one, ts)
    | several, _ => return (.several several, ts)

/-- Names with commas between them up to the word before the source, and whether there is a
comma. -/
def targetsUpTo : (fuel : Nat) → Tokens → Option ((List Target × Bool) × Tokens)
  | 0, _ => none
  | fuel + 1, ts =>
    match ts with
    | .word "in" :: ts => some (([], true), ts)
    | ts => do
      let (e, ts) ← primary fuel ts
      let target ← targetOf? e
      match ts with
      | .word "in" :: ts => return (([target], false), ts)
      | .sign "," :: ts => do
        let ((more, _), ts) ← targetsUpTo fuel ts
        return ((target :: more, true), ts)
      | _ => none

/-- The tests that items have to pass. -/
def tests : (fuel : Nat) → Tokens → Option ((List Expression) × Tokens)
  | 0, _ => none
  | fuel + 1, .word "if" :: ts => do
    let (test, ts) ← disjunction fuel ts
    let (more, ts) ← tests fuel ts
    return (test :: more, ts)
  | _ + 1, ts => some ([], ts)

/-- Attributes, items and calls. -/
def trailers : (fuel : Nat) → Expression → Tokens → Option (Expression × Tokens)
  | 0, _, _ => none
  | fuel + 1, e, ts =>
    match ts with
    | .sign "." :: .word s :: ts =>
      if HintToken.reserved.contains s then none else trailers fuel (.attribute e s) ts
    | .sign "." :: _ => none
    | .sign "[" :: ts => do
      let ((keys, hasComma), ts) ← keysUpTo fuel ts
      let key := match keys, hasComma with
        | [key], false => if key matches .spread _ then .collection .tuple [key] else key
        | keys, _ => .collection .tuple keys
      if keys.isEmpty then none else trailers fuel (.item e key) ts
    | .sign "(" :: ts => do
      let (arguments, ts) ← argumentsUpTo fuel ts
      if areOrdered arguments then trailers fuel (.call e arguments) ts else none
    | ts => some (e, ts)

/-- The keys of an item up to the closing bracket, and whether a comma stands among them. -/
def keysUpTo : (fuel : Nat) → Tokens → Option ((List Expression × Bool) × Tokens)
  | 0, _ => none
  | fuel + 1, ts =>
    if closes "]" ts then some (([], true), ts.drop 1)
    else do
      let (key, ts) ← key fuel ts
      match ts with
      | .sign "," :: ts => do
        let ((more, _), ts) ← keysUpTo fuel ts
        return ((key :: more, true), ts)
      | ts => if closes "]" ts then return (([key], false), ts.drop 1) else none

/-- A key: an expression, or where a part starts, ends, and in which steps it goes. -/
def key : (fuel : Nat) → Tokens → Option (Expression × Tokens)
  | 0, _ => none
  | fuel + 1, ts => do
    let (first, rest) ← bound fuel ts
    match rest with
    | .sign ":" :: rest => do
      let (last, rest) ← bound fuel rest
      match rest with
      | .sign ":" :: rest => do
        let (step, rest) ← bound fuel rest
        return (.slice first last step, rest)
      | rest => return (.slice first last (.constant .null), rest)
    | rest => if endsBound ts then none else return (first, rest)

/-- An end of a part; nothing where none is given. -/
def bound : (fuel : Nat) → Tokens → Option (Expression × Tokens)
  | 0, _ => none
  | fuel + 1, ts =>
    if endsBound ts then some (.constant .null, ts) else member fuel ts

/-- The arguments of a call up to the closing bracket. -/
def argumentsUpTo : (fuel : Nat) → Tokens → Option ((List Expression) × Tokens)
  | 0, _ => none
  | fuel + 1, ts =>
    if closes ")" ts then some ([], ts.drop 1)
    else do
      let (argument, ts) ← argument fuel ts
      match ts with
      | .sign "," :: ts => do
        let (more, ts) ← argumentsUpTo fuel ts
        return (argument :: more, ts)
      | .word "for" :: _ => do
        let (found, ts) ← sources fuel ts
        if closes ")" ts then return ([.each .supply argument found], ts.drop 1) else none
      | ts => if closes ")" ts then return ([argument], ts.drop 1) else none

/-- An argument of a call. -/
def argument : (fuel : Nat) → Tokens → Option (Expression × Tokens)
  | 0, _ => none
  | fuel + 1, ts =>
    match ts with
    | .word s :: .sign "=" :: ts =>
      if HintToken.reserved.contains s then none
      else (expression fuel ts).map fun (e, ts) => (.keyword s e, ts)
    | .sign "**" :: ts => (expression fuel ts).map fun (e, ts) => (.keyword "" e, ts)
    | ts => member fuel ts

end

/-- How deep the parts of an expression can lie in one another, at most. -/
def readFuel (text : List Char) : Nat := 24 * text.length + 48

/-- Expressions with commas between them, and perhaps one behind the last of them. The fuel bounds
their number, `depth` how deep their parts can lie in one another. -/
def separated? (depth : Nat) : (fuel : Nat) → Tokens → Option (List Expression × Bool)
  | 0, _ => none
  | fuel + 1, ts => do
    let (first, rest) ← expression depth ts
    match rest with
    | [] => some ([first], false)
    | [.sign ","] => some ([first], true)
    | .sign "," :: rest => (separated? depth fuel rest).map fun (more, _) => (first :: more, true)
    | _ => none

end HintReader

namespace Expression

/-- The expression that a whole text is. -/
def read? (text : List Char) : Option Expression := do
  let ts ← HintToken.read? text
  let (e, rest) ← HintReader.expression (HintReader.readFuel text) ts
  if rest.isEmpty && e.namesWell {} then some e else none

/-- The expression that a whole text is; expressions with commas between them stand for all of them
together. White space may not stand before the first of them. -/
def readSeveral? (text : List Char) : Option Expression := do
  let ts ← HintToken.read? text
  let (items, hasComma) ← HintReader.separated? (HintReader.readFuel text) (ts.length + 1) ts
  match text with
  | ' ' :: _ => none
  | '\t' :: _ => none
  | _ => do
    let e ← HintReader.ofItems items hasComma
    if e.namesWell {} then some e else none

end Expression

end Vetting

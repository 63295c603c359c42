import Vetting.Text.Pattern
import Vetting.Text.Scan

/-!
# Vetting.RuleBook

Rules that describe texts, each under a name. A body is a literal, a pattern, a rule called by its
name, bodies one after the other, the first of several bodies that matches, a body several times, or
a look ahead. Choices are ordered and repetitions take as much as they can, so a rule has at most
one match at a place.

`RuleBook.match?` matches a rule at the start of a text and gives the tree of what it matched. A
rule that comes back to itself without having read anything matches nothing, whatever else could.
-/

namespace Vetting

/-- What a rule matches. -/
inductive RuleBody where
  | literal (text : List Char)
  | pattern (pattern : Pattern)
  /-- What stands for a literal or a pattern and is none. -/
  | mistaken
  /-- What the rule of a name matches. -/
  | reference (name : String)
  | sequence (members : List RuleBody)
  | choice (members : List RuleBody)
  | times (body : RuleBody) (least : Nat) (most : Option Nat)
  /-- Whether a body matches from here on, or does not. -/
  | ahead (isNegated : Bool) (body : RuleBody)
  deriving Repr, Inhabited

namespace RuleBody

/-- How many parts a body has. -/
def size : RuleBody → Nat
  | sequence members => 1 + sizes members
  | choice members => 1 + sizes members
  | times body _ _ => 1 + size body
  | ahead _ body => 1 + size body
  | _ => 1
where
  /-- How many parts several bodies have. -/
  sizes : List RuleBody → Nat
    | [] => 1
    | body :: rest => 1 + size body + sizes rest

/-- Whether there is a mistake in a body. -/
def hasMistake : RuleBody → Bool
  | mistaken => true
  | sequence members => anyMistake members
  | choice members => anyMistake members
  | times body _ _ => hasMistake body
  | ahead _ body => hasMistake body
  | _ => false
where
  /-- Whether there is a mistake in one of several bodies. -/
  anyMistake : List RuleBody → Bool
    | [] => false
    | body :: rest => hasMistake body || anyMistake rest

/-- The names that a body calls, in order. -/
def names : RuleBody → List String
  | reference name => [name]
  | sequence members => allNames members
  | choice members => allNames members
  | times body _ _ => names body
  | ahead _ body => names body
  | _ => []
where
  /-- The names that several bodies call. -/
  allNames : List RuleBody → List String
    | [] => []
    | body :: rest => names body ++ allNames rest

end RuleBody

/-- What a rule matched, with the name of the rule, or without a name where it was a part of one. -/
inductive RuleTree where
  | node (name : String) (text : List Char) (children : List RuleTree)
  deriving Repr, Inhabited

namespace RuleTree

/-- The name of the rule. -/
def name : RuleTree → String
  | node name _ _ => name

/-- What was matched. -/
def text : RuleTree → List Char
  | node _ text _ => text

/-- What the parts of the rule matched. -/
def children : RuleTree → List RuleTree
  | node _ _ children => children

/-- The tree under a name. -/
def named (name : String) : RuleTree → RuleTree
  | node _ text children => node name text children

@[simp] theorem name_named (name : String) (tree : RuleTree) : (tree.named name).name = name := by
  cases tree; rfl

@[simp] theorem text_named (name : String) (tree : RuleTree) :
    (tree.named name).text = tree.text := by
  cases tree; rfl

@[simp] theorem children_named (name : String) (tree : RuleTree) :
    (tree.named name).children = tree.children := by
  cases tree; rfl

end RuleTree

/-- Why rules make no rule book, or a text no rules. -/
inductive RuleTrouble where
  /-- The text is not made of rules alone. -/
  | incomplete
  /-- A literal or a pattern is none, or rules are but names of one another. -/
  | unwritable
  /-- No rule has the name `label`, which is called. -/
  | undefined (label : String)
  deriving DecidableEq, Repr

/-- Why a rule does not match. -/
inductive Mismatch where
  | other
  /-- The rule comes back to itself without having read anything. -/
  | endless
  deriving DecidableEq, Repr

/-- Rules under their names. -/
structure RuleBook where
  rules : List (String × RuleBody)
  deriving Repr

namespace RuleBook

/-- Rules with one more. A rule takes the place of an earlier one of its name. -/
def addRule (name : String) (body : RuleBody) : List (String × RuleBody) → List (String × RuleBody)
  | [] => [(name, body)]
  | (other, found) :: rest =>
    if other = name then (name, body) :: rest else (other, found) :: addRule name body rest

/-- The rule that a name stands for, with its own name. A rule that is but the name of another one
stands for that. The fuel bounds how often a name leads to another one. -/
def findIn (rules : List (String × RuleBody)) :
    (fuel : Nat) → String → Except RuleTrouble (String × RuleBody)
  | 0, _ => .error .unwritable
  | fuel + 1, name =>
    match rules.lookup name with
    | none => .error (.undefined name)
    | some (.reference other) => findIn rules fuel other
    | some body => .ok (name, body)

/-- The rule that a name stands for. -/
def find (book : RuleBook) (name : String) : Except RuleTrouble (String × RuleBody) :=
  findIn book.rules (book.rules.length + 1) name

/-- The book of some rules. -/
def ofRules (rules : List (String × RuleBody)) : Except RuleTrouble RuleBook :=
  if rules.any fun (_, body) => body.hasMistake then .error .unwritable
  else do
    let book : RuleBook := ⟨rules.foldl (fun found (name, body) => addRule name body found) []⟩
    let _ ← (book.rules.flatMap fun (_, body) => body.names).mapM book.find
    return book

/-- The rules that are being matched at a place, when what was left at `text` is left at `rest`. -/
def stillBusy (busy : List String) (text rest : List Char) : List String :=
  if rest.length < text.length then [] else busy

mutual

/-- Match a body at the start of `text`, which ends `line`. The rules `busy` are being matched at
this place. The fuel bounds the depth. -/
def run (book : RuleBook) (line : List Char) :
    (fuel : Nat) → (busy : List String) → RuleBody → (text : List Char) →
    Except Mismatch (RuleTree × List Char)
  | 0, _, _, _ => .error .endless
  | fuel + 1, busy, body, text =>
    let leaf (rest? : Option (List Char)) : Except Mismatch (RuleTree × List Char) :=
      match rest? with
      | some rest => .ok (.node "" (Text.consumed text rest) [], rest)
      | none => .error .other
    match body with
    | .literal marker => leaf (Text.after? marker text)
    | .pattern pattern => leaf (pattern.rest? (Text.consumed line text).reverse text)
    | .mistaken => .error .other
    | .reference name =>
      match book.find name with
      | .error _ => .error .other
      | .ok (name, body) =>
        if busy.contains name then .error .endless
        else do
          let (tree, rest) ← run book line fuel (name :: busy) body text
          return (tree.named name, rest)
    | .sequence members => do
      let (children, rest) ← runAll book line fuel busy members text
      return (.node "" (Text.consumed text rest) children, rest)
    | .choice members => do
      let (child, rest) ← runFirst book line fuel busy members text
      return (.node "" child.text [child], rest)
    | .times body least most => do
      let (children, rest) ← runTimes book line fuel busy body least most 0 text
      return (.node "" (Text.consumed text rest) children, rest)
    | .ahead isNegated body =>
      match run book line fuel busy body text with
      | .error .endless => .error .endless
      | .error .other => if isNegated then leaf (some text) else .error .other
      | .ok _ => if isNegated then .error .other else leaf (some text)

/-- Match bodies one after the other. -/
def runAll (book : RuleBook) (line : List Char) :
    (fuel : Nat) → (busy : List String) → List RuleBody → List Char →
    Except Mismatch (List RuleTree × List Char)
  | 0, _, _, _ => .error .endless
  | _ + 1, _, [], text => .ok ([], text)
  | fuel + 1, busy, body :: more, text => do
    let (tree, rest) ← run book line fuel busy body text
    let (trees, rest) ← runAll book line fuel (stillBusy busy text rest) more rest
    return (tree :: trees, rest)

/-- Match the first of several bodies that matches. -/
def runFirst (book : RuleBook) (line : List Char) :
    (fuel : Nat) → (busy : List String) → List RuleBody → List Char →
    Except Mismatch (RuleTree × List Char)
  | 0, _, _, _ => .error .endless
  | _ + 1, _, [], _ => .error .other
  | fuel + 1, busy, body :: more, text =>
    match run book line fuel busy body text with
    | .error .other => runFirst book line fuel busy more text
    | found => found

/-- Match a body as often as it can be, after it was matched `count` times. At the end of the text
it is not tried again, and a match that takes nothing stands for all that are to come. -/
def runTimes (book : RuleBook) (line : List Char) :
    (fuel : Nat) → (busy : List String) → RuleBody → (least : Nat) → (most : Option Nat) →
    (count : Nat) → List Char → Except Mismatch (List RuleTree × List Char)
  | 0, _, _, _, _, _, _ => .error .endless
  | fuel + 1, busy, body, least, most, count, text =>
    let enough : Except Mismatch (List RuleTree × List Char) :=
      if least ≤ count then .ok ([], text) else .error .other
    if text.isEmpty || most.any (· ≤ count) then enough
    else
      match run book line fuel busy body text with
      | .error .endless => .error .endless
      | .error .other => enough
      | .ok (tree, rest) =>
        if rest.length < text.length then do
          let (trees, rest) ← runTimes book line fuel [] body least most (count + 1) rest
          return (tree :: trees, rest)
        else if most.any (· < least) then .error .other
        else .ok ([tree], rest)

end

/-- How many parts the rules of a book have. -/
def size (book : RuleBook) : Nat :=
  book.rules.foldl (fun n (_, body) => n + 1 + body.size) 1

/-- Match the rule of a name at the start of a text. -/
def match? (book : RuleBook) (name : String) (text : List Char) :
    Option (RuleTree × List Char) :=
  let fuel := 2 * (text.length + 2) * (book.size + 2)
  (run book text fuel [] (.reference name) text).toOption

end RuleBook

end Vetting

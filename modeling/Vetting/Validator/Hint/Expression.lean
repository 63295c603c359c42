import Vetting.Value

/-!
# Vetting.Validator.Hint.Expression

The expressions that hints are written in: names, constants, lists and other collections, what is
read of a thing, calls, operators, and functions without a name.
-/

namespace Vetting

/-- An operator between two operands. -/
inductive BinaryOperator where
  | or
  | xor
  | and
  | left
  | right
  | plus
  | minus
  | times
  | matrix
  | divide
  | floor
  | remainder
  | power
  deriving DecidableEq, Repr

namespace BinaryOperator

/-- The signs of the operators. -/
def signs : List (String × BinaryOperator) :=
  [("|", or), ("^", xor), ("&", and), ("<<", left), (">>", right), ("+", plus), ("-", minus),
   ("*", times), ("@", matrix), ("/", divide), ("//", floor), ("%", remainder), ("**", power)]

/-- The sign of an operator as a message names it. -/
def sign (operator : BinaryOperator) : String :=
  if operator = power then "** or pow()"
  else ((signs.find? fun (_, o) => o = operator).map (·.1)).getD ""

/-- How close an operator binds its operands. -/
def level : BinaryOperator → Nat
  | or => 0
  | xor => 1
  | and => 2
  | left | right => 3
  | plus | minus => 4
  | times | matrix | divide | floor | remainder => 5
  | power => 6

end BinaryOperator

/-- An operator before its operand. -/
inductive UnaryOperator where
  | plus
  | minus
  | invert
  | not
  deriving DecidableEq, Repr

namespace UnaryOperator

/-- The sign of an operator. -/
def sign : UnaryOperator → String
  | plus => "+"
  | minus => "-"
  | invert => "~"
  | not => "not"

end UnaryOperator

/-- A comparison of two things. -/
inductive Comparison where
  | less
  | greater
  | lessEqual
  | greaterEqual
  | equal
  | unequal
  | within
  | without
  | same
  | different
  deriving DecidableEq, Repr

namespace Comparison

/-- The signs of the comparisons that have one. -/
def signs : List (String × Comparison) :=
  [("<", less), (">", greater), ("<=", lessEqual), (">=", greaterEqual), ("==", equal),
   ("!=", unequal)]

/-- The sign of a comparison. -/
def sign (comparison : Comparison) : String :=
  ((signs.find? fun (_, c) => c = comparison).map (·.1)).getD ""

end Comparison

/-- The kinds of collections that are written item by item. -/
inductive CollectionShape where
  | tuple
  | list
  | set
  deriving DecidableEq, Repr

/-- What is made of things that are given one by one. -/
inductive Gathering where
  /-- The things are given on. -/
  | supply
  | list
  | set
  | mapping
  deriving DecidableEq, Repr

/-- What things that are given one by one are called: a name for each, or names for its items. -/
inductive Target where
  | name (s : String)
  | several (targets : List Target)
  deriving Repr, Inhabited

/-- An expression of a hint. -/
inductive Expression where
  | name (s : String)
  | constant (v : Value)
  /-- The imaginary part of a complex number. -/
  | imaginary (x : Double)
  | bytes (s : String)
  | ellipsis
  | collection (shape : CollectionShape) (items : List Expression)
  | mapping (keys values : List Expression)
  /-- The items of a thing, in the place of one item. -/
  | spread (e : Expression)
  /-- An argument that is given by the name of a parameter. -/
  | keyword (name : String) (e : Expression)
  | attribute (object : Expression) (name : String)
  | item (object key : Expression)
  | slice (first last step : Expression)
  | call (callee : Expression) (arguments : List Expression)
  | unary (operator : UnaryOperator) (e : Expression)
  | binary (operator : BinaryOperator) (left right : Expression)
  | compare (first : Expression) (comparisons : List Comparison) (others : List Expression)
  /-- The second only if the first counts as true. -/
  | andThen (first second : Expression)
  /-- The second only if the first does not count as true. -/
  | orElse (first second : Expression)
  | choose (test yes no : Expression)
  /-- A function: its parameters, perhaps with the values that they have where none is given. A
  parameter that takes all further arguments has one star before its name, and one that takes those
  that are given by names has two. -/
  | function (parameters : List (String × Option Expression)) (body : Expression)
  /-- The elements for all items of sources that pass tests. -/
  | each (gathering : Gathering) (element : Expression)
      (sources : List (Target × Expression × List Expression))
  /-- A text made of the texts of things. -/
  | filled (parts : List Expression)
  /-- The text of a thing in a form: perhaps it is first written as a text of another kind, which a
  letter tells. -/
  | formed (e : Expression) (conversion? : Option Char) (form : Expression)
  /-- A thing that is given a name. -/
  | named (name : String) (e : Expression)
  deriving Repr, Inhabited

namespace Expression

/-- The one form of a name, of a text, or of what is read of one, whatever brackets and blanks it
is written with. -/
def plainForm? : Expression → Option String
  | .name s => some s
  | .constant (.text s) => some (Text.quoted s)
  | .attribute object part => (plainForm? object).map fun s => s ++ "." ++ part
  | _ => none

end Expression

end Vetting

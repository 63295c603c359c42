import Vetting.Validator.Hint.AttributeNames
import Vetting.Validator.Hint.Value

/-!
# Vetting.Validator.Hint.ArgumentRule

How many arguments the functions of things take, and what is said where they are given another
number. Functions that stand for operators have their own wording.
-/

namespace Vetting

/-- How many arguments a function takes. -/
inductive ArgumentRule where
  | none
  | one
  /-- A number within bounds, of a function that takes its arguments as they stand. -/
  | expected (least most : Nat)
  /-- A number within bounds, of a function that looks at its arguments one by one. -/
  | taken (least most : Nat)
  /-- Just a number, of a function that stands for an operator. -/
  | operands (count : Nat)
  deriving DecidableEq, Repr

namespace ArgumentRule

/-- A number of arguments in words. -/
def counted (n : Nat) : String := toString n ++ " argument" ++ (if n = 1 then "" else "s")

/-- The fault of a wrong number of arguments, where there are bounds for it. -/
def outside? (name : String) (least most given : Nat) : Option Fault :=
  let wrong (bound : String) (n : Nat) : Option Fault :=
    some (HintValue.mismatch (name ++ " expected " ++ (if least = most then "" else bound) ++
      counted n ++ ", got " ++ toString given))
  if given < least then wrong "at least " least
  else if most < given then wrong "at most " most
  else Option.none

/-- The fault of a wrong number of arguments of a function of the things of a type. -/
def fault? (rule : ArgumentRule) (typeName name : String) (given : Nat) : Option Fault :=
  let required (holds : Bool) (message : String) : Option Fault :=
    if holds then Option.none else some (HintValue.mismatch message)
  let title := typeName ++ "." ++ name
  let told := " (" ++ toString given ++ " given)"
  match rule with
  | none => required (given == 0) (title ++ "() takes no arguments" ++ told)
  | one => required (given == 1) (title ++ "() takes exactly one argument" ++ told)
  | expected least most => outside? name least most given
  | taken least most =>
    if given < least then required false (name ++ "() takes at least " ++ counted least ++ told)
    else required (given ≤ most) (name ++ "() takes at most " ++ counted most ++ told)
  | operands count =>
    required (given == count) ("expected " ++ counted count ++ ", got " ++ toString given)

/-- The rules of the functions of texts and of bytes. -/
def ofTexts : List (ArgumentRule × List String) :=
  [(none, AttributeNames.words
      ("capitalize casefold isalnum isalpha isascii isdecimal isdigit isidentifier islower " ++
      "isnumeric isprintable isspace istitle isupper lower swapcase title upper")),
   (one, AttributeNames.words
      ("format_map fromhex join partition removeprefix removesuffix rpartition translate zfill")),
   (expected 1 2, ["center", "ljust", "rjust"]),
   (expected 0 1, ["lstrip", "rstrip", "strip"]),
   (expected 1 3, ["maketrans"]),
   (expected 2 3, ["replace"]),
   (taken 1 3, AttributeNames.words "count endswith find index rfind rindex startswith"),
   (taken 0 2, AttributeNames.words "decode encode hex rsplit split"),
   (taken 0 1, ["expandtabs", "splitlines"])]

/-- The rules of the functions of numbers. -/
def ofNumbers : List (ArgumentRule × List String) :=
  [(none, AttributeNames.words
      ("__ceil__ __floor__ __trunc__ as_integer_ratio bit_count bit_length conjugate hex " ++
      "is_integer"))]

/-- The rules of the functions of sets. -/
def ofSets : List (ArgumentRule × List String) :=
  [(none, ["clear", "copy", "pop"]),
   (one, AttributeNames.words
      ("__contains__ add discard isdisjoint issubset issuperset remove symmetric_difference " ++
      "symmetric_difference_update"))]

/-- The rules of the functions of collections and numbers, by their types. -/
def ofTypes : List (String × List (ArgumentRule × List String)) :=
  [("str", ofTexts), ("bytes", (taken 1 2, ["translate"]) :: ofTexts), ("int", ofNumbers),
   ("float", ofNumbers), ("complex", ofNumbers), ("set", ofSets), ("frozenset", ofSets),
   ("list",
      [(none, ["__reversed__", "clear", "copy", "reverse"]),
       (one, ["__getitem__", "append", "count", "extend", "remove"]),
       (expected 1 3, ["index"]), (expected 2 2, ["insert"]), (expected 0 1, ["pop"])]),
   ("tuple", [(one, ["count"]), (expected 1 3, ["index"])]),
   ("range", [(one, ["count", "index"])]),
   ("dict",
      [(none, ["__reversed__", "clear", "copy", "items", "keys", "popitem", "values"]),
       (one, ["__contains__", "__getitem__"]),
       (expected 1 2, ["fromkeys", "get", "pop", "setdefault"]), (expected 0 1, ["update"])])]

/-- The rules of functions that stand for operators. -/
def ofOperators : List (ArgumentRule × List String) :=
  [(operands 0, AttributeNames.words
      ("__abs__ __bool__ __float__ __hash__ __index__ __int__ __invert__ __iter__ __len__ " ++
      "__neg__ __next__ __pos__ __repr__ __str__")),
   (operands 1, AttributeNames.words
      ("__add__ __and__ __contains__ __divmod__ __eq__ __floordiv__ __ge__ __getitem__ __gt__ " ++
      "__le__ __lshift__ __lt__ __mod__ __mul__ __ne__ __or__ __radd__ __rand__ __rdivmod__ " ++
      "__rfloordiv__ __rlshift__ __rmod__ __rmul__ __ror__ __rrshift__ __rshift__ __rsub__ " ++
      "__rtruediv__ __rxor__ __sub__ __truediv__ __xor__")),
   (one, ["__format__"])]

/-- The first rule for a function. -/
def find? (rules : List (ArgumentRule × List String)) (name : String) : Option ArgumentRule :=
  (rules.find? fun (_, names) => names.contains name).map (·.1)

/-- The functions that take arguments by name. -/
def withNames : List String :=
  AttributeNames.words
    ("decode encode expandtabs from_bytes hex rsplit sort split splitlines to_bytes translate " ++
    "update")

/-- The fault of arguments that a function of the things of a type does not take, where a rule is
known: some by their places, and some by names. -/
def broken? (typeName name : String) (placed named : Nat) : Option Fault :=
  let typeName := if typeName == "bool" then "int" else typeName
  let own := (ofTypes.lookup typeName).getD []
  ((find? own name).or (find? ofOperators name)).bind fun rule =>
    if named = 0 then rule.fault? typeName name placed
    else if withNames.contains name then Option.none
    else
      some (HintValue.mismatch (typeName ++ "." ++ name ++ "() takes no keyword arguments"))

end ArgumentRule

end Vetting

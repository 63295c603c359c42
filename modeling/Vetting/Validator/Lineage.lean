import Vetting.Validator.Entity

/-!
# Vetting.Validator.Lineage

The types that a class is based on, in the order in which attributes are looked up in them. A class
may be based on several types. Their orders are merged with the order in which the class names them:
the next type is always the first one that stands at the start of an order and nowhere behind the
start of another. Where there is no such type, there is no order for the class.

`BaseType.merge` merges orders; `BaseType.sharedLayout` tells the general type whose layout the
things of a class have, since not all general types can be had together.
-/

namespace Vetting

/-- A type that a class can be based on. -/
inductive BaseType where
  /-- A class of the program, by its number. -/
  | own (number : Nat)
  /-- A type that is known by its name. -/
  | known (name : String)
  deriving DecidableEq, Repr, Inhabited

namespace BaseType

/-- The general types that a general type is based on, itself first. -/
def generalLineage (typeName : String) : List String :=
  if typeName == "object" then ["object"]
  else if typeName == "bool" then ["bool", "int", "object"]
  else if typeName == "SubResult" then ["SubResult", "ValidatorResult", "object"]
  else if typeName == "ExceptionGroup" then
    ["ExceptionGroup", "BaseExceptionGroup", "Exception", "BaseException", "object"]
  else FaultKind.chain typeName ++ ["object"]

/-- The orders without their empty ones. -/
def nonempty (orders : List (List BaseType)) : List (List BaseType) :=
  orders.filter fun order => !order.isEmpty

/-- The types at the starts of orders. -/
def heads (orders : List (List BaseType)) : List BaseType := orders.filterMap List.head?

/-- Whether a type stands behind the start of one of some orders. -/
def isBehind (orders : List (List BaseType)) (t : BaseType) : Bool :=
  orders.any fun order => order.tail.contains t

/-- The orders after a type was taken from their starts. -/
def without (t : BaseType) (orders : List (List BaseType)) : List (List BaseType) :=
  orders.map fun order => if order.head? == some t then order.tail else order

/-- Orders merged to one that goes with all of them, or the types of which none can be the next. The
fuel bounds the number of types. -/
def merge : (fuel : Nat) → List (List BaseType) → Except (List BaseType) (List BaseType)
  | 0, _ => .ok []
  | fuel + 1, orders =>
    let orders := nonempty orders
    if orders.isEmpty then .ok []
    else
      match (heads orders).find? fun t => !isBehind orders t with
      | none => .error (heads orders).eraseDups
      | some t => (merge fuel (without t orders)).map (t :: ·)

/-- The order of what a class is based on, given its bases and the order of each. -/
def mergeLineages (bases : List BaseType) (lineages : List (List BaseType)) :
    Except (List BaseType) (List BaseType) :=
  let orders := lineages ++ [bases]
  merge (orders.flatten.length + 1) orders

/-- The types that a type known by its name is based on, itself first. -/
def knownLineage (name : String) : List BaseType := (generalLineage name).map known

/-- General types that no type can be based on. -/
def finalTypes : List String :=
  ["NoneType", "bool", "ellipsis", "function", "memoryview", "range", "slice"]

/-- Whether no type can be based on a type. -/
def isFinal : BaseType → Bool
  | own _ => false
  | known name => finalTypes.contains name

/-- The kinds of fault with a layout of their own. -/
def laidOutKinds : List String :=
  ["AttributeError", "BaseException", "BaseExceptionGroup", "ImportError", "NameError", "OSError",
   "StopIteration", "SyntaxError", "SystemExit", "UnicodeDecodeError", "UnicodeEncodeError",
   "UnicodeTranslateError"]

/-- The general type whose layout the things of a type known by its name have. -/
def layoutOf (name : String) : String :=
  if (Entity.generalTypes.lookup name).isSome then name
  else ((generalLineage name).find? laidOutKinds.contains).getD "object"

/-- The layout of things that have two layouts, if they can have both: one is based on the other. -/
def sharedLayout (a b : String) : Option String :=
  if (generalLineage a).contains b then some a
  else if (generalLineage b).contains a then some b
  else none

end BaseType

end Vetting

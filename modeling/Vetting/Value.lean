import Vetting.Decimal.Shortest
import Vetting.Text.Quoted

/-!
# Vetting.Value

The values that catalogs and validator bodies deal in: null, truth values, whole numbers, floating
point numbers, texts, lists, and objects, whose keys keep the order in which they were first set.
`Value.shown` writes a value unambiguously, texts in quotes; `Value.plain` writes a bare text as
it is.
-/

namespace Vetting

/-- A value of a catalog. -/
inductive Value where
  | null
  | bool (b : Bool)
  | int (n : Int)
  | float (x : Double)
  | text (s : String)
  | list (items : List Value)
  | object (fields : List (String × Value))
  deriving Repr, Inhabited

namespace Value

mutual

/-- The value written out, texts in quotes. -/
def shown : Value → String
  | .null => "None"
  | .bool b => if b then "True" else "False"
  | .int n => toString n
  | .float x => x.text
  | .text s => Text.quoted s
  | .list items => "[" ++ shownItems items ++ "]"
  | .object fields => "\x7b" ++ shownFields fields ++ "\x7d"

/-- Items written out one after the other. -/
def shownItems : List Value → String
  | [] => ""
  | [v] => shown v
  | v :: w :: rest => shown v ++ ", " ++ shownItems (w :: rest)

/-- Fields written out one after the other. -/
def shownFields : List (String × Value) → String
  | [] => ""
  | [(k, v)] => Text.quoted k ++ ": " ++ shown v
  | (k, v) :: w :: rest => Text.quoted k ++ ": " ++ shown v ++ ", " ++ shownFields (w :: rest)

end

/-- The value as it reads in a message: a text stands as it is. -/
def plain : Value → String
  | .text s => s
  | v => v.shown

/-- The name of the value's type. -/
def typeName : Value → String
  | .null => "NoneType"
  | .bool _ => "bool"
  | .int _ => "int"
  | .float _ => "float"
  | .text _ => "str"
  | .list _ => "list"
  | .object _ => "dict"

/-- Whether the value counts as true: all do but null, false, zeros, and what is empty. -/
def truthy : Value → Bool
  | .null => false
  | .bool b => b
  | .int n => n != 0
  | .float x => !x.isZero
  | .text s => !s.isEmpty
  | .list items => !items.isEmpty
  | .object fields => !fields.isEmpty

/-- The value of a field of an object. -/
def get? (key : String) : Value → Option Value
  | .object fields => fields.lookup key
  | _ => none

/-- Fields with one more set: a key that is there keeps its place. -/
def setField (fields : List (String × Value)) (key : String) (value : Value) :
    List (String × Value) :=
  if fields.any (·.1 == key) then
    fields.map fun (k, v) => if k == key then (k, value) else (k, v)
  else fields ++ [(key, value)]

end Value

end Vetting

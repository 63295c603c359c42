import Vetting.Decimal.Numeral
import Vetting.Fault
import Vetting.Text.Lowercase
import Vetting.TypeRecord

/-!
# Vetting.TypeRecord.Decode

Type records from catalog entries. An entry is an object that has at least a name; all else has a
default. `TypeRecord.decode` gives the record of an entry, or says what is wrong with the entry.
-/

namespace Vetting

/-- What is wrong with a catalog entry. -/
inductive EntryTrouble where
  /-- The entry is no object. -/
  | notAnObject (entry : Value)
  /-- The entry has no name. -/
  | unnamed
  /-- The name is no text, or empty. -/
  | badName (name : Value)
  /-- The namespace is no text. -/
  | badHome (home : Value)
  /-- The number of extension methods is a text that is no numeral. -/
  | malformedCount (count : String)
  /-- The number of extension methods has too many digits. -/
  | longCount (digits : Nat)
  /-- The number of extension methods is infinite. -/
  | infiniteCount
  /-- The number of extension methods is undefined. -/
  | undefinedCount
  /-- The number of extension methods is no number at all. -/
  | noCount (count : Value)
  deriving Repr

namespace EntryTrouble

/-- What is said of an entry that is no object. -/
def notAnObjectMessage : Value → String
  | .text _ => "string indices must be integers, not 'str'"
  | .list _ => "list indices must be integers or slices, not str"
  | entry => "'" ++ entry.typeName ++ "' object is not subscriptable"

/-- How many characters of a malformed numeral are shown. -/
def shownLength : Nat := 200

/-- The fault that an entry raises. -/
def fault : EntryTrouble → Fault
  | notAnObject entry => .withText "TypeError" (notAnObjectMessage entry)
  | unnamed => .withText "KeyError" "name"
  | badName name => .withText "ValueError" ("invalid type name " ++ name.shown)
  | badHome home => .withText "ValueError" ("invalid namespace " ++ home.shown)
  | malformedCount count =>
    .withText "ValueError"
      ("invalid literal for int() with base 10: " ++
        String.ofList ((Text.quoted count).toList.take shownLength))
  | longCount digits =>
    .withText "ValueError"
      ("Exceeds the limit (" ++ toString Numeral.maxDigits ++
        " digits) for integer string conversion: value has " ++ toString digits ++
        " digits; use sys.set_int_max_str_digits() to increase the limit")
  | infiniteCount => .withText "OverflowError" "cannot convert float infinity to integer"
  | undefinedCount => .withText "ValueError" "cannot convert float NaN to integer"
  | noCount count =>
    .withText "TypeError"
      ("int() argument must be a string, a bytes-like object or a real number, not '" ++
        count.typeName ++ "'")

/-- Whether the trouble concerns its entry alone: an infinite number stops the whole catalog. -/
def isLocal : EntryTrouble → Bool
  | infiniteCount => false
  | _ => true

end EntryTrouble

namespace TypeRecord

/-- The kinds of entry that are tags. -/
def tagKinds : List String := ["attribute", "tag", "annotation"]

/-- The kind of an entry in lower case. -/
def kindOf (entry : Value) : String :=
  match entry.get? "kind" with
  | none => "class"
  | some kind => Text.lower kind.plain

/-- Whether a field of an entry counts as true. -/
def flag (entry : Value) (key : String) : Bool := ((entry.get? key).map Value.truthy).getD false

/-- The name of an entry: a text that is not empty. -/
def decodeName (entry : Value) : Except EntryTrouble String :=
  match entry.get? "name" with
  | none => .error .unnamed
  | some (.text name) => if name.isEmpty then .error (.badName (.text name)) else .ok name
  | some other => .error (.badName other)

/-- The namespace of an entry: a text, or empty for anything that counts as false. -/
def decodeHome (entry : Value) : Except EntryTrouble String :=
  match entry.get? "namespace" with
  | none => .ok ""
  | some (.text home) => .ok home
  | some other => if other.truthy then .error (.badHome other) else .ok ""

/-- A number of extension methods. A floating point number is cut to its whole part. -/
def decodeCount : Value → Except EntryTrouble Int
  | .bool b => .ok (if b then 1 else 0)
  | .int n => .ok n
  | .float (.finite negative significand exponent) =>
    let n := Int.ofNat (Double.wholeMagnitude significand exponent)
    .ok (if negative then -n else n)
  | .float (.infinite _) => .error .infiniteCount
  | .float .nan => .error .undefinedCount
  | .text s =>
    match Numeral.read s.toList with
    | .ok n => .ok n
    | .error .malformed => .error (.malformedCount s)
    | .error (.tooLong digits) => .error (.longCount digits)
  | other => .error (.noCount other)

/-- The record of an entry that is an object. -/
def decodeObject (entry : Value) : Except EntryTrouble TypeRecord := do
  let name ← decodeName entry
  let home ← decodeHome entry
  let kind := kindOf entry
  let count ← decodeCount ((entry.get? "extension_methods").getD (.int 0))
  return {
    home, name
    isTag := tagKinds.contains kind || flag entry "tag"
    isSealed := flag entry "sealed"
    isAbstract := flag entry "abstract"
    isClass := ("class" :: tagKinds).contains kind
    extensionMethods := count }

/-- The record of a catalog entry. -/
def decode : Value → Except EntryTrouble TypeRecord
  | .object fields => decodeObject (.object fields)
  | other => .error (.notAnObject other)

end TypeRecord

end Vetting

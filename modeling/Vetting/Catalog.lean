import Vetting.FileTree
import Vetting.Json.Reader
import Vetting.TypeRecord.Decode

/-!
# Vetting.Catalog

Catalogs of type records in JSON text: an object whose field `types` lists the entries, and whose
field `module` may name the catalog. Entries that cannot be decoded are told apart from the rest,
each with its place in the list; `Catalog.decodeEntries` keeps both in order.
-/

namespace Vetting

/-- What a list of entries gives. -/
structure DecodedEntries where
  /-- The records of the entries that can be decoded. -/
  records : List TypeRecord := []
  /-- The places and the troubles of the other entries. -/
  troubles : List (Nat × EntryTrouble) := []
  deriving Repr

/-- A catalog. -/
structure Catalog where
  /-- The name that the catalog gives itself. -/
  name? : Option String
  entries : List Value
  deriving Repr

namespace Catalog

/-- Why there is no catalog. -/
inductive Trouble where
  /-- The file cannot be read, or holds no JSON text. -/
  | unreadable
  /-- The JSON text holds no list of types. -/
  | noTypes
  /-- The file cannot be opened in this way at all, or its text cannot be followed. -/
  | fault (fault : Fault)
  deriving Repr

/-- The catalog that a value is. -/
def ofValue? (value : Value) : Option Catalog :=
  match value.get? "types" with
  | some (.list entries) =>
    match value.get? "module" with
    | some (.text name) => some ⟨some name, entries⟩
    | _ => some ⟨none, entries⟩
  | _ => none

/-- The fault of a text in which too many lists and objects stand in one another. -/
def depthFault (isObject : Bool) : Fault :=
  .withText "RecursionError"
    ("maximum recursion depth exceeded while decoding a JSON " ++
      (if isObject then "object" else "array") ++ " from a unicode string")

/-- The catalog in the file that a path leads to. -/
def read (tree : FileTree) (path : Path) (encoding : String) : Except Trouble Catalog :=
  match tree.readText path encoding with
  | .error fault =>
    .error (if fault.isA "OSError" || fault.isA "ValueError" then .unreadable else .fault fault)
  | .ok text =>
    match Json.read text with
    | .error .malformed => .error .unreadable
    | .error (.tooDeep isObject) => .error (.fault (depthFault isObject))
    | .ok value =>
      match ofValue? value with
      | none => .error .noTypes
      | some catalog => .ok catalog

/-- The records and the troubles of entries, the first of which is at place `index`. An entry whose
trouble does not concern it alone ends the decoding. -/
def decodeEntries (index : Nat) : List Value → Except EntryTrouble DecodedEntries
  | [] => .ok {}
  | entry :: rest =>
    match TypeRecord.decode entry with
    | .ok record => do
      let more ← decodeEntries (index + 1) rest
      return { more with records := record :: more.records }
    | .error trouble =>
      if trouble.isLocal then do
        let more ← decodeEntries (index + 1) rest
        return { more with troubles := (index, trouble) :: more.troubles }
      else .error trouble

end Catalog

end Vetting

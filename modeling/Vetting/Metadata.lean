import Vetting.Catalog
import Vetting.Session

/-!
# Vetting.Metadata

Metadata modules, the units in which type records are loaded. A module is a table of records, a
catalog on disk, or one that cannot give all of its records. Loading never stops at a module that
goes wrong: what it did give is kept, and the rest becomes errors. Only exits and interrupts pass
through.
-/

namespace Vetting

/-- A unit of type metadata. Records that are absent stand for types without metadata. -/
inductive MetadataModule where
  /-- Records in memory. -/
  | table (name : String) (records : List (Option TypeRecord))
  /-- A catalog on disk. It is named by its path until it was read and names itself. -/
  | catalog (path : Path) (encoding name : String)
  /-- A module that cannot be loaded. -/
  | failing (name : String) (fault : Fault)
  /-- A module that gives some of its records and errors for the rest. -/
  | partly (name : String) (records : List (Option TypeRecord)) (errors : List String)
  deriving Repr

/-- What loading a module gives. -/
inductive Loading where
  | whole (records : List (Option TypeRecord))
  /-- Some records, and errors for the rest, under the name of the module. -/
  | partly (name : String) (records : List (Option TypeRecord)) (errors : List String)
  | failed (fault : Fault)
  deriving Repr

/-- Records that were loaded, and errors for those that were not. -/
structure LoadResult where
  records : List (Option TypeRecord) := []
  errors : List String := []
  deriving Repr

namespace LoadResult

/-- Whether all went well. -/
def isOk (result : LoadResult) : Bool := result.errors.isEmpty

/-- One result and then another. -/
def append (a b : LoadResult) : LoadResult := ⟨a.records ++ b.records, a.errors ++ b.errors⟩

instance : Append LoadResult := ⟨append⟩

@[simp] theorem records_append (a b : LoadResult) : (a ++ b).records = a.records ++ b.records := rfl

@[simp] theorem errors_append (a b : LoadResult) : (a ++ b).errors = a.errors ++ b.errors := rfl

end LoadResult

namespace MetadataModule

/-- A catalog at a path. -/
def ofPath (path : Path) (encoding : String) : MetadataModule := .catalog path encoding path.text

/-- The name of a module. -/
def name : MetadataModule → String
  | table name _ => name
  | catalog _ _ name => name
  | failing name _ => name
  | partly name _ _ => name

/-- A module as it is shown, where it has such a form. -/
def shown? : MetadataModule → Option String
  | table name records =>
    some ("<StaticMetadataModule '" ++ name ++ "' (" ++ toString records.length ++ " types)>")
  | catalog path _ _ => some ("<JsonMetadataModule '" ++ path.text ++ "'>")
  | _ => none

/-- The error of the entry at a place of a catalog. -/
def entryError (name : String) (index : Nat) (trouble : EntryTrouble) : String :=
  name ++ "[" ++ toString index ++ "]: " ++ trouble.fault.written

/-- What the entries of the catalog `name` give. -/
def loadEntries (name : String) (entries : List Value) : Loading :=
  match Catalog.decodeEntries 0 entries with
  | .error trouble => .failed trouble.fault
  | .ok decoded =>
    let records := decoded.records.map some
    if decoded.troubles.isEmpty then .whole records
    else .partly name records (decoded.troubles.map fun (index, trouble) =>
      entryError name index trouble)

/-- Load a module. A catalog takes the name that it gives itself. -/
def load (tree : FileTree) : MetadataModule → Loading × MetadataModule
  | table name records => (.whole records, .table name records)
  | failing name fault => (.failed fault, .failing name fault)
  | partly name records errors => (.partly name records errors, .partly name records errors)
  | catalog path encoding name =>
    match Catalog.read tree path encoding with
    | .error .unreadable => (.failed (.notLoaded name ""), .catalog path encoding name)
    | .error .noTypes =>
      (.failed (.notLoaded name (name ++ ": catalog has no 'types' list")),
        .catalog path encoding name)
    | .error (.fault fault) => (.failed fault, .catalog path encoding name)
    | .ok found =>
      let name := found.name?.getD name
      (loadEntries name found.entries, .catalog path encoding name)

/-- Load a module as far as it goes. -/
def loadResult (tree : FileTree) : Session MetadataModule LoadResult := fun given =>
  let (loading, loaded) := given.load tree
  let debug (message : String) : Journal := [⟨.debug, .metadata, some message, none⟩]
  match loading with
  | .whole records => ⟨.ok ⟨records, []⟩, loaded, []⟩
  | .partly name records errors =>
    ⟨.ok ⟨records, errors⟩, loaded,
      debug ("Partial type load from " ++ loaded.name ++ ": " ++
        (Fault.partlyLoaded name errors).message)⟩
  | .failed fault =>
    if fault.isError then
      match fault.said with
      | .ok message =>
        ⟨.ok ⟨[], [loaded.name ++ ": " ++ message]⟩, loaded,
          debug ("Type load from " ++ loaded.name ++ " failed: " ++ message)⟩
      | .error other =>
        ⟨.error (.during fault other), loaded,
          (Record.ofFault .debug .metadata "Type load from %s failed: %s"
            [(loaded.name, Text.quoted loaded.name)] fault false).1⟩
    else ⟨.error fault, loaded, []⟩

end MetadataModule

/-- The modules that are loaded, in order. -/
abbrev Universe := List MetadataModule

namespace Universe

/-- Load all modules in order, each as far as it goes. -/
def loadAll (tree : FileTree) : Session Universe LoadResult
  | [] => ⟨.ok {}, [], []⟩
  | first :: rest =>
    let o := MetadataModule.loadResult tree first
    match o.result with
    | .error fault => ⟨.error fault, o.state :: rest, o.journal⟩
    | .ok found =>
      let p := loadAll tree rest
      ⟨p.result.map (found ++ ·), o.state :: p.state, o.journal ++ p.journal⟩

/-- The universe without the modules of a name. -/
def unregister (name : String) (modules : Universe) : Universe := modules.filter (·.name != name)

/-- Add a record to the last table of a name; `none` where there is none. -/
def addRecord? (name : String) (record : Option TypeRecord) : Universe → Option Universe
  | [] => none
  | first :: rest =>
    match addRecord? name record rest, first with
    | some changed, _ => some (first :: changed)
    | none, .table own records =>
      if own == name then some (.table own (records ++ [record]) :: rest) else none
    | none, _ => none

/-- Change the last module of a name by a step; `none` where there is none. -/
def withLast (name : String) (step : Session MetadataModule α) : Session Universe (Option α) :=
  fun modules =>
    match modules.reverse.span (·.name != name) with
    | (_, []) => ⟨.ok none, modules, []⟩
    | (after, found :: before) =>
      let o := step found
      ⟨o.result.map some, before.reverse ++ o.state :: after.reverse, o.journal⟩

end Universe

end Vetting

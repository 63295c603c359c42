import Vetting.TypeRecord
import Vetting.Dialect

/-!
# Vetting.SymbolIndex

The index from namespaces to the names that stand for their types in source text. Every record
contributes a few facts, and the index is all facts of all records: the namespaces, the names in
each, the short names of tags in each, and the namespaces that hold extension methods. Looking
something up asks whether some record contributed it, so the order of records does not matter.
-/

namespace Vetting

/-- The index from namespaces to names. -/
structure SymbolIndex where
  /-- The namespaces, once for every record. -/
  homes : List String := []
  /-- Namespaces with the names of their types. -/
  typePairs : List (String × String) := []
  /-- Namespaces with the short names of their tags. -/
  tagPairs : List (String × String) := []
  /-- The namespaces that hold extension methods. -/
  extensions : List String := []
  /-- What could not be loaded. -/
  errors : List String := []
  deriving DecidableEq, Repr, Inhabited

namespace SymbolIndex

/-- The namespace of a record in canonical form; records of the root namespace have none. -/
def homeOf (dialect : Dialect) (record : TypeRecord) : Option String :=
  if record.home.isEmpty then none else some (dialect.unqualifiedName record.home)

/-- The names of a record's type under its namespace: none where it is empty. -/
def typePairOf (dialect : Dialect) (record : TypeRecord) : Option (String × String) :=
  (homeOf dialect record).bind fun home =>
    if record.shortName.isEmpty then none else some (home, String.ofList record.shortName)

/-- The short name of a record's tag under its namespace. -/
def tagPairOf (dialect : Dialect) (record : TypeRecord) : Option (String × String) :=
  (homeOf dialect record).bind fun home =>
    record.tagName?.map fun name => (home, String.ofList name)

/-- The namespace of a record that holds extension methods. -/
def extensionOf (dialect : Dialect) (record : TypeRecord) : Option String :=
  if record.isExtensionContainer then homeOf dialect record else none

/-- The index of some records. -/
def ofRecords (dialect : Dialect) (records : List (Option TypeRecord))
    (errors : List String := []) : SymbolIndex :=
  let present := records.filterMap id
  { homes := present.filterMap (homeOf dialect)
    typePairs := present.filterMap (typePairOf dialect)
    tagPairs := present.filterMap (tagPairOf dialect)
    extensions := present.filterMap (extensionOf dialect)
    errors }

/-- The namespaces of the index, each once. -/
def namespaces (index : SymbolIndex) : List String := index.homes.eraseDups

/-- How many namespaces the index holds. -/
def size (index : SymbolIndex) : Nat := index.namespaces.length

/-- Whether the index holds a namespace. -/
def contains (index : SymbolIndex) (home : String) : Bool := index.homes.contains home

/-- What is paired with a key. -/
def valuesOf (pairs : List (String × String)) (key : String) : List String :=
  pairs.filterMap fun (k, v) => if k = key then some v else none

/-- The names of the types of a namespace. -/
def typeNames (index : SymbolIndex) (home : String) : List String :=
  valuesOf index.typePairs home

/-- The short names of the tags of a namespace. -/
def tagNames (index : SymbolIndex) (home : String) : List String := valuesOf index.tagPairs home

/-- The namespaces that hold tags with short names, each once. -/
def tagNamespaces (index : SymbolIndex) : List String := (index.tagPairs.map (·.1)).eraseDups

/-- Whether a namespace holds extension methods. -/
def isExtension (index : SymbolIndex) (home : String) : Bool := index.extensions.contains home

/-- How many namespaces hold extension methods. -/
def extensionCount (index : SymbolIndex) : Nat := index.extensions.eraseDups.length

@[simp] theorem mem_valuesOf {pairs : List (String × String)} {key value : String} :
    value ∈ valuesOf pairs key ↔ (key, value) ∈ pairs := by
  simp only [valuesOf, List.mem_filterMap]
  constructor
  · rintro ⟨⟨k, v⟩, hmem, h⟩
    split at h
    · next hk => obtain rfl := Option.some.inj h; exact hk ▸ hmem
    · cases h
  · intro h
    exact ⟨(key, value), h, by simp⟩

end SymbolIndex

end Vetting

import Vetting.Header
import Vetting.Identifier
import Vetting.SymbolIndex

/-!
# Vetting.UnusedImport

The rule for unused imports. An imported namespace counts as unused when the index holds it, it
holds no extension methods, and none of the names that stand for its types occur among the
identifiers of the text. A namespace that the index does not hold is never reported.
-/

namespace Vetting

namespace UnusedImport

/-- Whether a namespace is unused by a text with the given identifiers. -/
def isUnused (index : SymbolIndex) (identifiers : List String) (home : String) : Bool :=
  index.contains home && !index.isExtension home &&
    !(index.typeNames home).any identifiers.contains &&
    !(index.tagNames home).any identifiers.contains

/-- The unused ones among imported namespaces, in order. -/
def select (index : SymbolIndex) (identifiers homes : List String) : List String :=
  homes.filter (isUnused index identifiers)

/-- The unused imports of a text, in order, where reading its header raises nothing. -/
def find (dialect : Dialect) (index : SymbolIndex) (text : String) : List String :=
  select index (Identifier.names dialect text) (Header.importedNames dialect text)

/-- The unused imports of a text, in order, or what reading its header raises. -/
def check (dialect : Dialect) (index : SymbolIndex) (text : String) : Except Fault (List String) :=
  (Header.scanNames dialect text).map (select index (Identifier.names dialect text))

/-- A namespace is selected exactly when it is among those given and is unused. -/
theorem mem_select {index : SymbolIndex} {identifiers homes : List String} {home : String} :
    home ∈ select index identifiers homes ↔
      home ∈ homes ∧ isUnused index identifiers home = true := by
  simp [select]

end UnusedImport

end Vetting

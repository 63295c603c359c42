import Vetting.Text.Scan

/-!
# Vetting.Dialect

The surface of a source language, as far as import directives and identifiers show it: the words
that open an import, the word that makes it an import of members, the qualifier of the root
namespace, and the marks before raw strings and escaped identifiers.
-/

namespace Vetting

/-- The surface of a source language. -/
structure Dialect where
  /-- The words that open an import directive. -/
  importKeywords : List String := ["using", "import"]
  /-- The word that turns an import into an import of members. -/
  staticKeyword : String := "static"
  /-- The qualifier of the root namespace, which is no part of a namespace's name. -/
  rootQualifier : String := "global::"
  /-- The character which, directly before a quote, opens a raw string. -/
  rawStringMark : String := "@"
  /-- The character that may stand before an identifier to escape it. -/
  escapeMark : String := "@"
  deriving DecidableEq, Repr, Inhabited

namespace Dialect

/-- The dialect that is used where none is given. -/
def standard : Dialect := {}

/-- A name without the qualifier of the root namespace at its start. -/
def unqualified (dialect : Dialect) (name : List Char) : List Char :=
  (Text.after? dialect.rootQualifier.toList name).getD name

/-- A namespace without the qualifier of the root namespace at its start. -/
def unqualifiedName (dialect : Dialect) (name : String) : String :=
  String.ofList (dialect.unqualified name.toList)

theorem unqualified_qualifier_append (dialect : Dialect) (name : List Char) :
    dialect.unqualified (dialect.rootQualifier.toList ++ name) = name := by
  simp [unqualified, Text.after?_eq_some_iff.2 rfl]

end Dialect

end Vetting

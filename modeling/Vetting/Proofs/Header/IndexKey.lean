import Vetting.Proofs.Header.RoundTrip
import Vetting.Proofs.UnusedImport

/-!
# Vetting.Proofs.Header.IndexKey

An import and a type record that name the same namespace meet in the index. What the header gives
for an import is the path without its gaps and without the qualifier of the root namespace, and so
is the key under which the index holds a record, whether the qualifier is written in either or not.

* `homeOf_dotted`: the key of a record.
* `importedNames_contained`: the import of a path is its names joined by dots, and the index of a
  record of that namespace holds it.
-/

namespace Vetting

namespace DottedPath

theorem dotted_ne_nil (path : DottedPath) : path.dotted ≠ [] := by
  simp [dotted, Name.text]

/-- The namespace of a record, with the qualifier of the root namespace or without it. -/
def recordHome (path : DottedPath) (isQualified : Bool) : String :=
  String.ofList (qualifierText isQualified ++ path.dotted)

theorem homeOf_dotted (path : DottedPath) (isQualified : Bool) {record : TypeRecord}
    (hrecord : record.home = path.recordHome isQualified) :
    SymbolIndex.homeOf .standard record = some (String.ofList path.dotted) := by
  rw [SymbolIndex.homeOf_eq_some_iff, TypeRecord.Declares, hrecord, recordHome]
  constructor
  · intro hempty
    have hnil := congrArg String.toList hempty
    rw [String.toList_ofList] at hnil
    exact path.dotted_ne_nil (List.append_eq_nil_iff.1 hnil).2
  · rw [Dialect.unqualifiedName, String.toList_ofList,
      unqualified_qualifierText isQualified path.colon_not_mem_dotted]

end DottedPath

namespace Header

open Text

theorem using_mem : "using" ∈ Dialect.standard.importKeywords := by decide

/-- A text that is one import of a path, with a gap before its semicolon. -/
def PlainImport.ofPath (path : DottedPath) (isQualified : Bool) (closing : Gap) : PlainImport where
  opening := ⟨"using", ⟨[' '], rfl⟩, using_mem, List.cons_ne_nil _ _⟩
  isQualified := isQualified
  path := path
  closing := closing
  trailing := DottedPath.noGap
  comment? := none

theorem pathsFrom_ofPath {path : DottedPath} (hstatic : path.first.text ≠ "static".toList)
    (isQualified : Bool) (closing : Gap) :
    pathsFrom false ("using ".toList ++ path.writtenPlain isQualified closing []) =
      [path.dotted] := by
  have hlike : ¬ (PlainImport.ofPath path isQualified closing).IsStaticLike :=
    fun h => hstatic h.2.1
  have himported : (Item.plainImport (.ofPath path isQualified closing)).imported? =
      some path.dotted := by
    rw [Item.imported?, if_neg hlike]
    rfl
  have htext : (PlainImport.ofPath path isQualified closing).statement =
      "using ".toList ++ path.writtenPlain isQualified closing [] := by
    simp [PlainImport.statement, PlainImport.ofPath]
  have hone := (PlainImport.ofPath path isQualified closing).oneLine_statement
  have hlines : lines (PlainImport.ofPath path isQualified closing).statement =
      [[] ++ ((PlainImport.ofPath path isQualified closing).statement ++ [])] := by
    rw [List.nil_append, List.append_nil]
    exact lines_of_oneLine hone (by simp [htext])
  have hpaths := pathsFrom_statement ⟨[], by decide⟩ (.ofPath path isQualified closing)
    oneLine_nil hlines
  rw [himported, htext] at hpaths
  exact hpaths

/-- The import of a path whose first name is not `static`, and a record of any type in the namespace
of that path: the one gives the names joined by dots, and the index of the other holds them, however
the gaps and the qualifiers are written. -/
theorem importedNames_contained (path : DottedPath) (hstatic : path.first.text ≠ "static".toList)
    (closing : Gap) (isQualified isQualifiedInRecord : Bool) (record : TypeRecord) :
    importedNames .standard
        (String.ofList ("using ".toList ++ path.writtenPlain isQualified closing [])) =
          [String.ofList path.dotted] ∧
      (SymbolIndex.ofRecords .standard
        [some { record with home := path.recordHome isQualifiedInRecord }]).contains
          (String.ofList path.dotted) = true := by
  constructor
  · rw [importedNames_ofList, pathsFrom_ofPath hstatic]
    rfl
  · rw [SymbolIndex.contains, List.contains_eq_mem, decide_eq_true_eq,
      SymbolIndex.mem_homes_ofRecords]
    exact ⟨_, List.mem_singleton_self _,
      SymbolIndex.homeOf_eq_some_iff.1 (path.homeOf_dotted isQualifiedInRecord rfl)⟩

/-- A qualified path of two names that are not of letters alone, with wide gaps. -/
def widePath : DottedPath where
  first := ⟨false, '_', "é\u0301".toList, by decide +kernel, by decide +kernel⟩
  more := [(⟨['\u2003'], by decide⟩, ⟨[' ', '\t'], by decide⟩,
    ⟨false, 'Ⓐ', "9".toList, by decide +kernel, by decide +kernel⟩)]

theorem importedNames_contained_wide :
    widePath.first.text ≠ "static".toList ∧
      importedNames .standard "using global::_é\u0301\u2003. \tⒶ9\u00A0;" = ["_é\u0301.Ⓐ9"] ∧
      (SymbolIndex.ofRecords .standard [some { home := "_é\u0301.Ⓐ9", name := "T" }]).contains
        "_é\u0301.Ⓐ9" = true := by
  have hstatic : widePath.first.text ≠ "static".toList := by decide
  have hboth := importedNames_contained widePath hstatic ⟨['\u00A0'], by decide⟩ true false
    { home := "", name := "T" }
  have htext : String.ofList ("using ".toList ++
      widePath.writtenPlain true ⟨['\u00A0'], by decide⟩ []) =
        "using global::_é\u0301\u2003. \tⒶ9\u00A0;" := by decide +kernel
  have hdotted : String.ofList widePath.dotted = "_é\u0301.Ⓐ9" := by decide +kernel
  have hhome : widePath.recordHome false = "_é\u0301.Ⓐ9" := by decide +kernel
  rw [htext, hdotted, hhome] at hboth
  exact ⟨hstatic, hboth⟩

end Header

end Vetting

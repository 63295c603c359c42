import Vetting.Proofs.Header.RoundTrip
import Vetting.Proofs.Header.Scan
import Vetting.Proofs.Sweep.Append
import Vetting.UnusedImport

/-!
# Vetting.Proofs.UnusedImport.Appended

What is appended to a text behind a line feed takes nothing back: the text keeps its imports and
its identifiers, in whatever region it ends.

* `Header.imports_prefix_append`: the longer text imports first what the shorter one does.
* `UnusedImport.accepted_append`: so an import that is not reported stays one that is not reported.
-/

namespace Vetting

variable {dialect : Dialect}

namespace Header

/-- More lines add imports behind those of the lines before, or none where the header has ended. -/
theorem imports_prefix_append (front back : List Char) :
    imports dialect front <+: imports dialect (front ++ '\n' :: back) := by
  rw [imports_append_newline]
  exact List.prefix_append _ _

theorem mem_importedNames_append {front home : String} (h : home ∈ importedNames dialect front)
    (back : String) : home ∈ importedNames dialect (front ++ "\n" ++ back) := by
  have himports : imports dialect front.toList <+:
      imports dialect (front.toList ++ '\n' :: back.toList) := imports_prefix_append _ _
  have htext : (front ++ "\n" ++ back).toList = front.toList ++ '\n' :: back.toList := by simp
  simp only [importedNames, namespaces, htext] at h ⊢
  exact ((himports.map _).map _).subset h

end Header

namespace UnusedImport

variable {index : SymbolIndex}

theorem any_of_subset {few many names : List String} (hsub : ∀ name ∈ few, name ∈ many)
    (h : names.any few.contains = true) : names.any many.contains = true := by
  obtain ⟨name, hname, hfew⟩ := List.any_eq_true.1 h
  rw [List.contains_iff_mem] at hfew
  exact List.any_eq_true.2 ⟨name, hname, List.contains_iff_mem.2 (hsub name hfew)⟩

/-- The more identifiers a text has, the less of it is unused. -/
theorem isUnused_of_subset {few many : List String} (hsub : ∀ name ∈ few, name ∈ many)
    {home : String} (h : isUnused index many home = true) : isUnused index few home = true := by
  simp only [isUnused, Bool.and_eq_true, Bool.not_eq_true', Bool.eq_false_iff] at h ⊢
  obtain ⟨⟨hknown, htypes⟩, htags⟩ := h
  exact ⟨⟨hknown, fun hfew => htypes (any_of_subset hsub hfew)⟩,
    fun hfew => htags (any_of_subset hsub hfew)⟩

/-- An import that is accepted is still imported and accepted whatever lines are appended. -/
theorem accepted_append {front home : String}
    (himported : home ∈ Header.importedNames dialect front)
    (haccepted : home ∉ find dialect index front) (back : String) :
    home ∈ Header.importedNames dialect (front ++ "\n" ++ back) ∧
      home ∉ find dialect index (front ++ "\n" ++ back) := by
  refine ⟨Header.mem_importedNames_append himported back, fun hfound => haccepted ?_⟩
  have hunused := (mem_select.1 hfound).2
  have hsub : ∀ name ∈ Identifier.names dialect front,
      name ∈ Identifier.names dialect (front ++ "\n" ++ back) :=
    fun name hname => Identifier.mem_names_append hname back
  exact mem_select.2 ⟨himported, isUnused_of_subset hsub hunused⟩

/-- A text that ends in an open string, with a backslash before the line feed. -/
theorem accepted_append_open_string :
    "A" ∈ Header.importedNames .standard "using A;\nB x = \"\\" ∧
      "A" ∉ find .standard (.ofRecords .standard [some { home := "A", name := "B" }])
        "using A;\nB x = \"\\" ∧
      "A" ∈ Header.importedNames .standard ("using A;\nB x = \"\\" ++ "\n" ++ "using C;") ∧
      "A" ∉ find .standard (.ofRecords .standard [some { home := "A", name := "B" }])
        ("using A;\nB x = \"\\" ++ "\n" ++ "using C;") := by
  have himported : Header.importedNames .standard "using A;\nB x = \"\\" = ["A"] :=
    congrArg (List.map String.ofList)
      (Header.pathsFrom_ofName ⟨false, 'A', [], by decide, by decide⟩ "B x = \"\\".toList)
  have hnames : Identifier.names .standard "using A;\nB x = \"\\" = ["using", "A", "B", "x"] := by
    decide +kernel
  have hmem : "A" ∈ Header.importedNames .standard "using A;\nB x = \"\\" := by
    simp [himported]
  have haccepted : "A" ∉ find .standard
      (.ofRecords .standard [some { home := "A", name := "B" }]) "using A;\nB x = \"\\" := by
    rw [find, himported, hnames]
    decide
  exact ⟨hmem, haccepted, accepted_append hmem haccepted "using C;"⟩

end UnusedImport

end Vetting

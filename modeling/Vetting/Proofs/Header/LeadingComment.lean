import Vetting.Proofs.Header.RoundTrip

/-!
# Vetting.Proofs.Header.LeadingComment

A block comment with which a text starts. The header passes over it, and over what stands in it;
only where two comments stand on one line, and the first one ends there, is the second one taken for
code.

* `importedNames_comment_iff`: when the comment is as good as absent.
-/

namespace Vetting

namespace Header

open Text

/-- A text with a block comment before it. -/
def withOpeningComment (body text : List Char) : List Char :=
  '/' :: '*' :: (body ++ '*' :: '/' :: text)

variable {body : List Char}

theorem pathsFrom_comment (h : ¬ ['*', '/'] <:+: body) (text : List Char)
    (htext : ¬ OneLine body ∨ ¬ ['/', '*'] <+: trim (firstLine text)) :
    pathsFrom false (withOpeningComment body text) = pathsFrom false text := by
  have hspace : ∀ c ∈ ([] : List Char), isSpace c = true := by simp
  have hcomment : importsOf .standard false
      (lines ([] ++ '/' :: '*' :: (body ++ '*' :: '/' :: text))) =
        importsOf .standard false (lines text) :=
    importsOf_comment hspace oneLine_nil h text htext
  rw [List.nil_append] at hcomment
  rw [pathsFrom, withOpeningComment, hcomment, pathsFrom]

theorem pathsFrom_secondComment (h : ¬ ['*', '/'] <:+: body) (text : List Char)
    (hbody : OneLine body) (htext : ['/', '*'] <+: trim (firstLine text)) :
    pathsFrom false (withOpeningComment body text) = [] := by
  have hspace : ∀ c ∈ ([] : List Char), isSpace c = true := by simp
  have hcomment := importsOf_secondComment hspace oneLine_nil h text hbody htext
  rw [List.nil_append] at hcomment
  rw [pathsFrom, withOpeningComment, hcomment, List.map_nil]

/-- A block comment at the start of a text is as good as absent exactly when it goes on behind its
first line, or no other one opens right behind it, or the text imports nothing. -/
theorem importedNames_comment_iff (h : ¬ ['*', '/'] <:+: body) (text : List Char) :
    importedNames .standard (String.ofList (withOpeningComment body text)) =
        importedNames .standard (String.ofList text) ↔
      ¬ OneLine body ∨ ¬ ['/', '*'] <+: trim (firstLine text) ∨
        importedNames .standard (String.ofList text) = [] := by
  simp only [importedNames_ofList]
  by_cases htext : ¬ OneLine body ∨ ¬ ['/', '*'] <+: trim (firstLine text)
  · rw [pathsFrom_comment h text htext]
    simp only [true_iff]
    exact htext.imp_right .inl
  · obtain ⟨hbody, hsecond⟩ := not_or.1 htext
    rw [Classical.not_not] at hbody hsecond
    rw [pathsFrom_secondComment h text hbody hsecond]
    constructor
    · intro hequal
      exact .inr (.inr hequal.symm)
    · intro hor
      rcases hor with hlong | hother | hnothing
      · exact absurd hbody hlong
      · exact absurd hsecond hother
      · exact hnothing.symm

theorem not_end_of_not_mem (h : '*' ∉ body) : ¬ ['*', '/'] <:+: body :=
  fun hin => h (hin.subset List.mem_cons_self)

/-- What stands in front of an import on its line is a comment. -/
theorem pathsFrom_commentedImport :
    pathsFrom false (withOpeningComment " b ".toList "using A;\n".toList) = [['A']] := by
  have hname : pathsFrom false "using A;\n".toList = [['A']] :=
    pathsFrom_ofName ⟨false, 'A', [], by decide, by decide⟩ []
  rw [pathsFrom_comment (not_end_of_not_mem (by decide)) _ (.inr (by decide)), hname]

/-- Behind a comment of two lines, a second one on the line of an import is passed over. -/
theorem importedNames_comment_long :
    ¬ ['*', '/'] <:+: " a\nusing X;".toList ∧
      ¬ OneLine " a\nusing X;".toList ∧
      importedNames .standard (String.ofList (withOpeningComment " a\nusing X;".toList
        (withOpeningComment " b ".toList "using A;\n".toList))) = ["A"] := by
  have hend : ¬ ['*', '/'] <:+: " a\nusing X;".toList := not_end_of_not_mem (by decide)
  have hlong : ¬ OneLine " a\nusing X;".toList := by decide
  refine ⟨hend, hlong, ?_⟩
  rw [(importedNames_comment_iff hend _).2 (.inl hlong), importedNames_ofList,
    pathsFrom_commentedImport]
  rfl

/-- In `/* a *//* b */using A;` the second comment hides the import. -/
theorem importedNames_comment_second :
    ¬ ∀ body : List Char, ¬ ['*', '/'] <:+: body → ∀ text : List Char,
      importedNames .standard (String.ofList (withOpeningComment body text)) =
        importedNames .standard (String.ofList text) := by
  intro h
  have hend : ¬ ['*', '/'] <:+: " a ".toList := not_end_of_not_mem (by decide)
  have hequal := h " a ".toList hend (withOpeningComment " b ".toList "using A;\n".toList)
  rw [importedNames_ofList, importedNames_ofList, pathsFrom_commentedImport,
    pathsFrom_secondComment hend _ (by decide) (by decide)] at hequal
  cases hequal

end Header

end Vetting

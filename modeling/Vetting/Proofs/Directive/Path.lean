import Vetting.Proofs.Directive.Spaced

/-!
# Vetting.Proofs.Directive.Path

Dotted paths that are written on one line, as paths with gaps around the dots, and the qualifier of
the root namespace before them.

* `DottedPath.written_toSpaced`: what is written is a spaced path.
* `DottedPath.canonical_qualifierText`: in canonical form gaps and the qualifier go.
-/

namespace Vetting

/-- Blanks of the grammar that stay on their line. -/
abbrev Gap := TextOf fun c => isBlank c && !isLineBreak c

namespace Gap

theorem isBlank_of_mem {gap : Gap} {c : Char} (h : c ∈ gap.text) : isBlank c = true :=
  (Bool.and_eq_true_iff.1 (gap.of_mem h)).1

def toBlanks (gap : Gap) : Blanks := ⟨gap.text, List.all_eq_true.2 fun _ h => isBlank_of_mem h⟩

theorem isSpace_of_mem {gap : Gap} {c : Char} (h : c ∈ gap.text) : isSpace c = true :=
  isSpace_of_isBlank (isBlank_of_mem h)

theorem oneLine (gap : Gap) : Text.OneLine gap.text := by
  intro c h
  have hc := (Bool.and_eq_true_iff.1 (gap.of_mem h)).2
  simpa using hc

theorem exists_cons {gap : Gap} (h : gap.text ≠ []) :
    ∃ c rest, gap.text = c :: rest ∧ isBlank c = true :=
  gap.toBlanks.exists_cons h

end Gap

/-- A dotted path as it is written. Before every name but the first there is a dot in gaps. -/
structure DottedPath where
  first : Name
  more : List (Gap × Gap × Name)

namespace DottedPath

open Grammar

/-- The names behind the first one as they are written. -/
def writtenMore (more : List (Gap × Gap × Name)) : List Char :=
  more.flatMap fun (before, after, name) => before.text ++ '.' :: (after.text ++ name.text)

def written (path : DottedPath) : List Char := path.first.text ++ writtenMore path.more

/-- The names joined by dots. -/
def dotted (path : DottedPath) : List Char :=
  path.first.text ++ path.more.flatMap fun (_, _, name) => '.' :: name.text

theorem writtenMore_cons (before after : Gap) (name : Name) (more : List (Gap × Gap × Name))
    (rest : List Char) :
    writtenMore ((before, after, name) :: more) ++ rest =
      before.text ++ '.' :: (after.text ++ (name.text ++ (writtenMore more ++ rest))) := by
  simp [writtenMore]

/-! ### As a spaced path -/

def toSpaced (path : DottedPath) : SpacedPath :=
  ⟨path.first, path.more.map fun (before, after, name) => (before.toBlanks, after.toBlanks, name)⟩

theorem writtenMore_toSpaced (path : DottedPath) :
    SpacedPath.writtenMore path.toSpaced.more = writtenMore path.more := by
  simp [SpacedPath.writtenMore, writtenMore, toSpaced, List.flatMap_map, Gap.toBlanks]

theorem written_toSpaced (path : DottedPath) : path.toSpaced.written = path.written :=
  congrArg (path.first.text ++ ·) path.writtenMore_toSpaced

theorem dotted_toSpaced (path : DottedPath) : path.toSpaced.dotted = path.dotted := by
  simp [SpacedPath.dotted, dotted, toSpaced, List.flatMap_map]

theorem endsWord_behindFirst (path : DottedPath) (closing : Gap) (rest : List Char) :
    EndsWord (writtenMore path.more ++ (closing.text ++ ';' :: rest)) := by
  have hend := path.toSpaced.endsWord_behindFirst closing.toBlanks rest
  rwa [writtenMore_toSpaced] at hend

theorem colon_not_mem_dotted (path : DottedPath) : ':' ∉ path.dotted := by
  rw [← dotted_toSpaced]
  exact path.toSpaced.colon_not_mem_dotted

/-! ### On a line -/

theorem oneLine_written (path : DottedPath) : Text.OneLine path.written := by
  have hdot : isLineBreak '.' = false := by decide
  rw [written, Text.oneLine_append]
  refine ⟨path.first.oneLine, ?_⟩
  induction path.more with
  | nil => exact Text.oneLine_nil
  | cons part more ih =>
    obtain ⟨before, after, name⟩ := part
    have hsplit := writtenMore_cons before after name more []
    rw [List.append_nil, List.append_nil] at hsplit
    rw [hsplit]
    simp [before.oneLine, after.oneLine, name.oneLine, hdot, ih]

/-- The gap behind the first name, where the last one is closed by a gap and a semicolon. -/
def behindFirst (path : DottedPath) (closing : Gap) : Gap :=
  match path.more with
  | [] => closing
  | (before, _, _) :: _ => before

theorem exists_behindFirst (path : DottedPath) (closing : Gap) (rest : List Char) :
    ∃ c tail, writtenMore path.more ++ (closing.text ++ ';' :: rest) =
      (path.behindFirst closing).text ++ c :: tail ∧ (c = '.' ∨ c = ';') := by
  unfold behindFirst
  cases path.more with
  | nil => exact ⟨';', rest, rfl, .inr rfl⟩
  | cons part more =>
    obtain ⟨before, after, name⟩ := part
    exact ⟨'.', _, writtenMore_cons before after name more _, .inl rfl⟩

/-! ### The qualifier of the root namespace -/

/-- The qualifier of the root namespace, where it is written. -/
def qualifierText (isQualified : Bool) : List Char :=
  if isQualified then Dialect.standard.rootQualifier.toList else []

/-- The word that the qualifier of the root namespace opens with. -/
def globalName : Name := ⟨false, 'g', "lobal".toList, by decide, by decide⟩

/-- The qualifier is no part of a namespace's name. -/
theorem unqualified_qualifierText (isQualified : Bool) {name : List Char} (h : ':' ∉ name) :
    Dialect.standard.unqualified (qualifierText isQualified ++ name) = name := by
  cases isQualified with
  | true => exact Dialect.unqualified_qualifier_append _ _
  | false =>
    have hnone : Text.after? Dialect.standard.rootQualifier.toList name = none := by
      rw [Option.eq_none_iff_forall_ne_some]
      intro rest hrest
      have hcolon : ':' ∈ Dialect.standard.rootQualifier.toList := by decide
      exact h (Text.after?_eq_some_iff.1 hrest ▸ List.mem_append_left rest hcolon)
    show Dialect.unqualified .standard name = name
    rw [Dialect.unqualified, hnone]
    rfl

/-- The canonical form of what is written behind the qualifier. -/
theorem canonical_qualifierText (isQualified : Bool) {written : List Char}
    (h : ':' ∉ written.filter fun c => !isSpace c) :
    Directive.canonical .standard (qualifierText isQualified ++ written) =
      written.filter fun c => !isSpace c := by
  have hqualifier : (qualifierText isQualified).filter (fun c => !isSpace c) =
      qualifierText isQualified := by
    cases isQualified <;> decide
  rw [Directive.canonical, List.filter_append, hqualifier, unqualified_qualifierText _ h]

end DottedPath

end Vetting

import Vetting.Directive.Name

/-!
# Vetting.Directive.Grammar

The grammar of one import directive. A rule matches at the start of a text and gives what is left
of it. Choices are ordered, an optional part that has matched is kept, and repetitions take as much
as they can, so every rule has at most one match.

A directive is a keyword, blanks, an optional static clause, an optional alias clause, a namespace
and a semicolon; the rest of the line is free. The rules that hold names take the rule for names of
the line as an argument.
-/

namespace Vetting

namespace Grammar

/-- Blanks, none included. -/
def gap (text : List Char) : List Char := text.dropWhile isBlank

/-- At least one blank, and all that follow. -/
def blanks : Rule
  | [] => none
  | c :: rest => if isBlank c then some (gap rest) else none

/-- A dot and a name, with gaps before and after the dot. -/
def dotName (name : Rule) : Rule := fun text =>
  match gap text with
  | '.' :: rest => name (gap rest)
  | _ => none

/-- What is left after a rule matched as often as it does. A match that takes nothing is the last
one. -/
def many (rule : Rule) (text : List Char) : List Char :=
  match rule text with
  | none => text
  | some rest => if rest.length < text.length then many rule rest else rest
termination_by text.length

/-- Names joined by dots. -/
def qualified (name : Rule) : Rule := fun text => (name text).map (many (dotName name))

theorem length_gap_le (text : List Char) : (gap text).length ≤ text.length :=
  Text.length_dropWhile_le isBlank text

theorem length_lt_of_dotName {name : Rule}
    (hn : ∀ {text rest}, name text = some rest → rest.length ≤ text.length)
    {text rest : List Char} (h : dotName name text = some rest) : rest.length < text.length := by
  simp only [dotName] at h
  split at h
  · next tail hg =>
    have h1 := hn h
    have h2 := length_gap_le tail
    have h3 := length_gap_le text
    rw [hg, List.length_cons] at h3
    omega
  · cases h

/-- Where every match takes something, the repetition goes on as long as there are matches. -/
theorem many_of_shrinking {rule : Rule}
    (h : ∀ {text rest}, rule text = some rest → rest.length < text.length) (text : List Char) :
    many rule text =
      match rule text with
      | none => text
      | some rest => many rule rest := by
  rw [many.eq_def]
  split
  · rfl
  · next hr => rw [if_pos (h hr)]

/-- A name and an equals sign, with gaps around the sign. -/
def aliasClause (name : Rule) : Rule := fun text => do
  let rest ← name text
  match gap rest with
  | '=' :: rest => some (gap rest)
  | _ => none

/-- The first of several literals that the text starts with, and what follows it. -/
def firstLiteral : List (List Char) → List Char → Option (List Char × List Char)
  | [], _ => none
  | literal :: more, text =>
    match Text.after? literal text with
    | some rest => some (literal, rest)
    | none => firstLiteral more text

end Grammar

open Grammar

namespace Dialect

/-- The import keywords in the order in which the grammar tries them: longer ones first, so that
none hides another that goes on after it. -/
def keywordChoices (dialect : Dialect) : List (List Char) :=
  (dialect.importKeywords.map String.toList).mergeSort fun a b => b.length ≤ a.length

/-- An import keyword, and what follows it. -/
def keyword (dialect : Dialect) (text : List Char) : Option (List Char × List Char) :=
  firstLiteral dialect.keywordChoices text

/-- The static keyword and blanks. -/
def staticClause (dialect : Dialect) : Rule := fun text =>
  (Text.after? dialect.staticKeyword.toList text).bind blanks

/-- The root qualifier of the grammar: two colons where the dialect has none. -/
def qualifier (dialect : Dialect) : Rule :=
  Text.after? (if dialect.rootQualifier.isEmpty then [':', ':'] else dialect.rootQualifier.toList)

/-- A qualified name, after the root qualifier where it stands. -/
def namespacePath (dialect : Dialect) (name : Rule) : Rule := fun text =>
  qualified name ((dialect.qualifier text).getD text)

/-- Whether a text can be a literal of the grammar: it lies on one line and holds no NUL. -/
def isLiteral (text : String) : Bool :=
  text.toList.all fun c => c != '\n' && c != '\r' && c.toNat != 0

/-- Whether the keywords and the qualifier of a dialect can be literals. -/
def hasLiterals (dialect : Dialect) : Bool :=
  (dialect.importKeywords ++ [dialect.staticKeyword, dialect.rootQualifier]).all isLiteral

end Dialect

end Vetting

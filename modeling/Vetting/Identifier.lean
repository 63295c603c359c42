import Vetting.Dialect

/-!
# Vetting.Identifier

The sweep over a source text that collects the identifiers of its code. The sweep is always inside
one region: code, a comment of either kind, a string, a raw string or a character literal. Only
code holds identifiers. A region that is still open at the end of the text ends with it.

`Sweep.step` reads the next few characters; it never gives back more than it was given, by which
`Sweep.run` ends.
-/

namespace Vetting

/-- The lexical region that the sweep is inside. -/
inductive Region where
  | code
  | lineComment
  | blockComment
  | string
  | rawString
  | character
  deriving DecidableEq, Repr

namespace Sweep

/-- Whether a mark of the dialect is this very character. -/
def isMark (mark : String) (c : Char) : Bool := mark.toList == [c]

/-- What one step finds: the region after it, an identifier, and the text that is left. -/
structure Step where
  region : Region
  identifier? : Option (List Char)
  rest : List Char
  deriving DecidableEq, Repr

/-- The identifier that starts with `c`. -/
def identifierFrom (c : Char) (rest : List Char) : Step :=
  ⟨.code, some (c :: rest.takeWhile isIdentifierPart), rest.dropWhile isIdentifierPart⟩

/-- A step in code. -/
def codeStep (dialect : Dialect) (c : Char) (rest : List Char) : Step :=
  let next? := rest.head?
  if c = '/' ∧ next? = some '/' then ⟨.lineComment, none, rest.tail⟩
  else if c = '/' ∧ next? = some '*' then ⟨.blockComment, none, rest.tail⟩
  else if isMark dialect.rawStringMark c ∧ next? = some '"' then ⟨.rawString, none, rest.tail⟩
  else if c = '"' then ⟨.string, none, rest⟩
  else if c = '\'' then ⟨.character, none, rest⟩
  else
    match isMark dialect.escapeMark c, rest with
    | true, next :: more =>
      if isIdentifierStart next then identifierFrom next more
      else if isIdentifierStart c then identifierFrom c rest
      else ⟨.code, none, rest⟩
    | _, _ => if isIdentifierStart c then identifierFrom c rest else ⟨.code, none, rest⟩

/-- A step inside a literal that ends at `quote`; a backslash takes the next character along. -/
def literalStep (inside : Region) (quote c : Char) (rest : List Char) : Step :=
  if c = '\\' then ⟨inside, none, rest.tail⟩
  else if c = quote then ⟨.code, none, rest⟩
  else ⟨inside, none, rest⟩

/-- One step of the sweep, at the character `c`. -/
def step (dialect : Dialect) (region : Region) (c : Char) (rest : List Char) : Step :=
  match region with
  | .code => codeStep dialect c rest
  | .lineComment => ⟨if c = '\n' then .code else .lineComment, none, rest⟩
  | .blockComment =>
    if c = '*' ∧ rest.head? = some '/' then ⟨.code, none, rest.tail⟩
    else ⟨.blockComment, none, rest⟩
  | .string => literalStep .string '"' c rest
  | .character => literalStep .character '\'' c rest
  | .rawString =>
    if c = '"' ∧ rest.head? = some '"' then ⟨.rawString, none, rest.tail⟩
    else if c = '"' then ⟨.code, none, rest⟩
    else ⟨.rawString, none, rest⟩

theorem length_identifierFrom_le (c : Char) (rest : List Char) :
    (identifierFrom c rest).rest.length ≤ rest.length :=
  Text.length_dropWhile_le isIdentifierPart rest

theorem length_codeStep_le (dialect : Dialect) (c : Char) (rest : List Char) :
    (codeStep dialect c rest).rest.length ≤ rest.length := by
  have tail_le : rest.tail.length ≤ rest.length := by simp
  simp only [codeStep]
  repeat' split
  all_goals first
    | exact tail_le
    | exact Nat.le_refl _
    | exact length_identifierFrom_le _ _
    | exact Nat.le_succ_of_le (length_identifierFrom_le _ _)

theorem length_literalStep_le (inside : Region) (quote c : Char) (rest : List Char) :
    (literalStep inside quote c rest).rest.length ≤ rest.length := by
  simp only [literalStep]
  split
  · simp
  · split <;> exact Nat.le_refl _

theorem length_step_le (dialect : Dialect) (region : Region) (c : Char) (rest : List Char) :
    (step dialect region c rest).rest.length ≤ rest.length := by
  cases region with
  | code => exact length_codeStep_le dialect c rest
  | lineComment => exact Nat.le_refl _
  | blockComment => simp only [step]; split <;> simp
  | string => exact length_literalStep_le _ _ _ _
  | character => exact length_literalStep_le _ _ _ _
  | rawString =>
    simp only [step]
    split
    · simp
    · split <;> exact Nat.le_refl _

/-- The identifiers of a text that is swept from inside a region, and the region at its end. -/
def run (dialect : Dialect) (region : Region) : List Char → Region × List (List Char)
  | [] => (region, [])
  | c :: rest =>
    let found := step dialect region c rest
    let (last, more) := run dialect found.region found.rest
    (last, found.identifier?.toList ++ more)
termination_by text => text.length
decreasing_by exact Nat.lt_succ_of_le (length_step_le dialect region c rest)

end Sweep

namespace Identifier

/-- The identifiers in the code of a text, in the order in which they appear. -/
def all (dialect : Dialect) (text : List Char) : List (List Char) :=
  (Sweep.run dialect .code text).2

/-- The region that a text ends in. -/
def lastRegion (dialect : Dialect) (text : List Char) : Region :=
  (Sweep.run dialect .code text).1

/-- The names of the identifiers in the code of a text. -/
def names (dialect : Dialect) (text : String) : List String :=
  (all dialect text.toList).map String.ofList

end Identifier

end Vetting

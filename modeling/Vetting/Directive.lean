import Vetting.Directive.Extended

/-!
# Vetting.Directive

Import directives. `Directive.read?` reads a directive from the start of a text by the grammar, and
`Directive.parse` reads a whole line, in an extended dialect by the rules of its rule book. The
namespace of a directive is canonical: it holds no white space, and the qualifier of the root
namespace is gone. `DirectiveRule` names the rules of the grammar one by one, and `Dialect.matched?`
tells how far a rule goes.
-/

namespace Vetting

open Grammar

/-- An import directive. -/
structure Directive where
  keyword : List Char
  /-- The imported namespace in canonical form. -/
  path : List Char
  isStatic : Bool
  /-- The name that the directive introduces, with its escape mark. -/
  alias? : Option (List Char)
  deriving DecidableEq, Repr

namespace Directive

/-- Whether the directive brings the names of a namespace into scope. -/
def isNamespaceImport (directive : Directive) : Bool :=
  !directive.isStatic && directive.alias?.isNone

/-- A namespace as it was written, in canonical form. -/
def canonical (dialect : Dialect) (written : List Char) : List Char :=
  dialect.unqualified (written.filter fun c => !isSpace c)

/-- The semicolon after a gap, and the rest of the line. -/
def closing : Rule := fun text =>
  match gap text with
  | ';' :: rest => some (rest.dropWhile (· != '\n'))
  | _ => none

/-- The directive that starts after the static clause, by the rule for names of its line. -/
def readTail? (dialect : Dialect) (name : Rule) (keyword : List Char) (isStatic : Bool)
    (text : List Char) : Option (Directive × List Char) := do
  let afterAlias := aliasClause name text
  let alias? := afterAlias.bind fun _ =>
    (name text).map fun rest => Text.consumed text rest
  let text := afterAlias.getD text
  let afterPath ← dialect.namespacePath name text
  let rest ← closing afterPath
  some (⟨keyword, canonical dialect (Text.consumed text afterPath), isStatic, alias?⟩, rest)

/-- The directive at the start of a line, and what is left. -/
def read? (dialect : Dialect) (line : List Char) : Option (Directive × List Char) := do
  let (keyword, text) ← dialect.keyword line
  let text ← blanks text
  match dialect.staticClause text with
  | some rest => readTail? dialect (dialect.name line) keyword true rest
  | none => readTail? dialect (dialect.name line) keyword false text

/-- The directive of a tree. The keyword and the namespace stand under their rules, and a part that
may be missing has no child where it is. -/
def ofTree? (dialect : Dialect) (tree : RuleTree) : Option Directive :=
  match tree.name, tree.children with
  | "directive", keyword :: _ :: clause :: naming :: path :: _ =>
    let directive (alias? : Option (List Char)) : Directive :=
      ⟨keyword.text, canonical dialect path.text, !clause.children.isEmpty, alias?⟩
    if keyword.name = "keyword" ∧ path.name = "namespace" then
      match naming.children.map (·.children) with
      | [] => some (directive none)
      | [] :: _ => none
      | (name :: _) :: _ => some (directive (some name.text))
    else none
  | _, _ => none

/-- The directive that a whole line is by the rules of a book. -/
def parseBy? (book : RuleBook) (dialect : Dialect) (line : List Char) : Option Directive :=
  match book.match? "directive" line with
  | some (tree, []) => ofTree? dialect tree
  | _ => none

/-- The directive that a whole line is, where reading it raises nothing. -/
def parse? (dialect : Dialect) (line : List Char) : Option Directive :=
  if dialect.isExtended then dialect.ruleBook.toOption.bind fun book => parseBy? book dialect line
  else if dialect.grammarTrouble?.isSome then none
  else
    match read? dialect line with
    | some (directive, []) => some directive
    | _ => none

/-- The directive that a whole line is, or what is raised where the grammar calls a rule that it
does not have. -/
def parse (dialect : Dialect) (line : List Char) : Except Fault (Option Directive) :=
  match dialect.grammarFault? with
  | some fault => .error fault
  | none => .ok (parse? dialect line)

end Directive

/-- The rules of the grammar. -/
inductive DirectiveRule where
  | directive
  | keyword
  | staticClause
  | aliasClause
  | namespacePath
  | qualifier
  | qualified
  | name
  | blanks
  | gap
  | rest
  deriving DecidableEq, Repr

namespace DirectiveRule

/-- The rules by name. -/
def names : List (String × DirectiveRule) :=
  [("directive", directive), ("keyword", keyword), ("static_clause", staticClause),
   ("alias_clause", aliasClause), ("namespace", namespacePath), ("global_prefix", qualifier),
   ("qualified", qualified), ("name", name), ("ws", blanks), ("_", gap), ("rest", rest)]

/-- What a rule leaves of a text. -/
def run (dialect : Dialect) : DirectiveRule → Rule
  | directive, text => (Directive.read? dialect text).map (·.2)
  | keyword, text => (dialect.keyword text).map (·.2)
  | staticClause, text => dialect.staticClause text
  | aliasClause, text => Grammar.aliasClause (dialect.name text) text
  | namespacePath, text => dialect.namespacePath (dialect.name text) text
  | qualifier, text => dialect.qualifier text
  | qualified, text => Grammar.qualified (dialect.name text) text
  | name, text => dialect.name text text
  | blanks, text => Grammar.blanks text
  | gap, text => some (Grammar.gap text)
  | rest, text => some (text.dropWhile (· != '\n'))

end DirectiveRule

namespace Dialect

/-- What the rule called `name` leaves of a text, if there is such a rule. -/
def runRule? (dialect : Dialect) (name : String) : Option Rule :=
  if dialect.isExtended then
    match dialect.ruleBook with
    | .error _ => none
    | .ok book =>
      (book.rules.lookup name).map fun _ text => (book.match? name text).map (·.2)
  else (DirectiveRule.names.lookup name).map fun rule => rule.run dialect

/-- How many characters the rule called `name` matches at the start of a text, if there is such a
rule, and if it matches. -/
def matched? (dialect : Dialect) (name : String) (text : List Char) : Option (Option Nat) :=
  (dialect.runRule? name).map fun rule =>
    (rule text).map fun rest => text.length - rest.length

end Dialect

end Vetting

import Vetting.Directive.Grammar
import Vetting.Fault
import Vetting.RuleBook.Reader

/-!
# Vetting.Directive.Extended

Dialects whose escape mark closes the pattern of names. What follows the quote in such a mark is no
part of the pattern: it is read as a part of the grammar itself, up to the quote that would have
closed the pattern, and may say more of names, leave the rest of its line out, or add rules.

`Dialect.ruleBook` is the grammar of a dialect as rules, with the last of them read from text. Such
a grammar may call a rule that it does not have, which is the one trouble that readers of lines do
not catch.
-/

namespace Vetting

namespace Dialect

/-- Whether the escape mark closes the pattern of names. -/
def isExtended (dialect : Dialect) : Bool := NameForm.isCutShort dialect.escapeMark.toList

/-- A rule by its name, which may be missing. -/
def maybe (name : String) : RuleBody := .times (.reference name) 0 (some 1)

/-- The rules before the one for names. -/
def leadingRules (dialect : Dialect) : List (String × RuleBody) :=
  [("directive", .sequence
      [.reference "keyword", .reference "ws", maybe "static_clause", maybe "alias_clause",
       .reference "namespace", .reference "_", .literal [';'], .reference "rest"]),
   ("keyword", .choice (dialect.keywordChoices.map .literal)),
   ("static_clause", .sequence [.literal dialect.staticKeyword.toList, .reference "ws"]),
   ("alias_clause", .sequence
      [.reference "name", .reference "_", .literal ['='], .reference "_"]),
   ("namespace", .sequence [maybe "global_prefix", .reference "qualified"]),
   ("global_prefix", .literal
      (if dialect.rootQualifier.isEmpty then [':', ':'] else dialect.rootQualifier.toList)),
   ("qualified", .sequence
      [.reference "name", .times (.sequence
        [.reference "_", .literal ['.'], .reference "_", .reference "name"]) 0 none])]

/-- The rule for names and those after it, as they are written. -/
def trailingText (dialect : Dialect) : List Char :=
  "name = ~r\"".toList ++ NameForm.patternText dialect.escapeMark.toList ++
    "\"\nws = ~r\"\\s+\"\n_ = ~r\"\\s*\"\nrest = ~r\".*\"\n".toList

/-- The grammar of a dialect as rules. -/
def ruleBook (dialect : Dialect) : Except RuleTrouble RuleBook := do
  if dialect.importKeywords.isEmpty then throw .incomplete
  let trailing ← RuleBook.readRules dialect.trailingText
  if !dialect.hasLiterals then throw .unwritable
  RuleBook.ofRules (dialect.leadingRules ++ trailing)

/-- Why the dialect has no grammar, if it has none: there is no import keyword, or a keyword, the
qualifier or the escape mark cannot be written in one. -/
def grammarTrouble? (dialect : Dialect) : Option RuleTrouble :=
  if dialect.isExtended then
    match dialect.ruleBook with
    | .ok _ => none
    | .error trouble => some trouble
  else if dialect.importKeywords.isEmpty then some .incomplete
  else if dialect.hasLiterals && dialect.nameForm?.isSome then none
  else some .unwritable

/-- What reading a line by the grammar raises, whatever the line is: the grammar calls a rule that
it does not have. Of the other troubles nothing is raised; no line fits the grammar then. -/
def grammarFault? (dialect : Dialect) : Option Fault :=
  match dialect.grammarTrouble? with
  | some (.undefined label) => some (.undefinedLabel label)
  | _ => none

end Dialect

end Vetting

import Vetting.Dialect
import Vetting.Text.Pattern.Reader

/-!
# Vetting.Directive.Name

The names of an import directive. A name starts with a word character that is no digit and goes on
with word characters. Before it may stand the escape mark of the dialect. A mark of one character
that is no letter and no digit stands for itself. Any other mark is written as part of a pattern:
after a backslash, and with a question mark behind it, so that a letter of it may name a kind of
characters, and a sign of it may say how often something is to be matched.

`Dialect.name` is the rule for names in a line; `Dialect.nameForm?` tells how they are written, if
the mark allows for any.
-/

namespace Vetting

namespace Grammar

/-- A rule: what is left of a text after a match at its start. -/
abbrev Rule := List Char → Option (List Char)

/-- A name without an escape mark. -/
def bareName : Rule
  | [] => none
  | c :: rest => if isNameStart c then some (rest.dropWhile isWord) else none

/-- A name after a mark, which may be missing. -/
def maybeMarkedName (mark : Char) : Rule
  | [] => none
  | c :: rest =>
    if c = mark then (bareName rest).or (bareName (c :: rest)) else bareName (c :: rest)

/-- What a pattern matches at the end of the part of a line that was read. -/
def patternedName (pattern : Pattern) (line : List Char) : Rule := fun text =>
  pattern.rest? (Text.consumed line text).reverse text

theorem length_lt_of_bareName {text rest : List Char} (h : bareName text = some rest) :
    rest.length < text.length := by
  cases text with
  | nil => simp [bareName] at h
  | cons c text =>
    simp only [bareName] at h
    split at h
    · obtain rfl := Option.some.inj h
      exact Nat.lt_succ_of_le (Text.length_dropWhile_le isWord text)
    · cases h

theorem length_lt_of_maybeMarkedName {mark : Char} {text rest : List Char}
    (h : maybeMarkedName mark text = some rest) : rest.length < text.length := by
  cases text with
  | nil => simp [maybeMarkedName] at h
  | cons c text =>
    simp only [maybeMarkedName] at h
    split at h
    · rcases Option.or_eq_some_iff.1 h with h | ⟨-, h⟩
      · exact Nat.lt_succ_of_lt (length_lt_of_bareName h)
      · exact length_lt_of_bareName h
    · exact length_lt_of_bareName h

end Grammar

open Grammar

/-- How names are written. -/
inductive NameForm where
  /-- Without a mark. -/
  | bare
  /-- After a character, which may be missing. -/
  | marked (mark : Char)
  | patterned (pattern : Pattern)
  deriving DecidableEq, Repr

namespace NameForm

/-- The rule for names of a form, in a line. -/
def rule (line : List Char) : NameForm → Rule
  | bare => bareName
  | marked mark => maybeMarkedName mark
  | patterned pattern => patternedName pattern line

/-- Whether all characters that no backslash stands before are of a kind. -/
def allUnescaped (p : Char → Bool) : List Char → Bool
  | [] => true
  | '\\' :: _ :: rest => allUnescaped p rest
  | c :: rest => p c && allUnescaped p rest

/-- The pattern of names with a mark, as it is written. -/
def patternText (mark : List Char) : List Char :=
  (if mark.isEmpty then [] else '\\' :: mark ++ ['?']) ++
    ['[', '^', '\\', 'W', '\\', 'd', ']', '\\', 'w', '*']

/-- Whether the pattern of names with a mark is closed before its end: a quote closes it. -/
def isCutShort (mark : List Char) : Bool := !allUnescaped (· != '"') (patternText mark)

/-- Names with a mark of another kind than a single sign. Only after a backslash does the pattern go
on in a new line. -/
def ofPatternText? (mark : List Char) : Option NameForm :=
  let text := patternText (Text.unifyLineEnds mark)
  if allUnescaped (· != '\n') text then (Pattern.read? text {}).map patterned else none

/-- How names with a mark are written, if there can be any. -/
def ofMark? (mark : List Char) : Option NameForm :=
  if mark.any fun c => c.toNat = 0 then none
  else
    match mark with
    | [] => some bare
    | [c] =>
      if c.isAlphanum then ofPatternText? [c] else some (marked (if c = '\r' then '\n' else c))
    | mark => ofPatternText? mark

end NameForm

namespace Dialect

/-- How names are written in a dialect, if there can be any. -/
def nameForm? (dialect : Dialect) : Option NameForm := NameForm.ofMark? dialect.escapeMark.toList

/-- The rule for names of a dialect, in a line. -/
def name (dialect : Dialect) (line : List Char) : Rule :=
  match dialect.nameForm? with
  | some form => form.rule line
  | none => fun _ => none

theorem name_standard (line : List Char) : standard.name line = maybeMarkedName '@' := rfl

end Dialect

end Vetting

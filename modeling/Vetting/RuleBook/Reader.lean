import Vetting.RuleBook
import Vetting.Text.Literal
import Vetting.Text.Pattern.Reader

/-!
# Vetting.RuleBook.Reader

Reading rules from text. A rule is a name, an equals sign and a body. A body is made of terms, with
slashes between alternatives: a literal between quotes, a pattern between quotes after a tilde, the
name of a rule, or a body in round brackets, with a mark behind it that says how often, or a mark
before it that makes it a look ahead. Blanks and remarks may stand behind everything; a remark ends
with its line.

`RuleBook.readRules` reads a whole text. A name before an equals sign starts the next rule.
-/

namespace Vetting

namespace RuleReader

/-- A reader: what it reads at the start of a text, and what is left. -/
abbrev Reader (α : Type) := List Char → Option (α × List Char)

/-- What follows blanks and remarks. -/
def afterGap (isRemark : Bool) : List Char → List Char
  | [] => []
  | c :: rest =>
    if isRemark then afterGap (c != '\n' && c != '\r') rest
    else if isBlank c then afterGap false rest
    else if c = '#' then afterGap true rest
    else c :: rest

/-- What follows blanks and remarks at the start of a text. -/
def skip (text : List Char) : List Char := afterGap false text

/-- Whether a character may stand in a name. -/
def isNamePart (c : Char) : Bool := c.isAlphanum || c = '_'

/-- Whether a character is a quote. -/
def isQuote (c : Char) : Bool := c = '"' || c = '\''

/-- A name. A letter right before a quote is none of it. -/
def name : Reader String := fun text =>
  match text with
  | [] => none
  | c :: _ =>
    if !isNamePart c || c.isDigit then none
    else
      let word := text.takeWhile isNamePart
      let word :=
        if (text.dropWhile isNamePart).head?.any isQuote then word.dropLast else word
      if word.isEmpty then none
      else some (String.ofList word, skip (text.drop word.length))

/-- The name of a rule that is called: no equals sign follows it. -/
def called : Reader String := fun text =>
  match name text with
  | some (_, '=' :: _) => none
  | found => found

/-- What stands before a quote, and what follows it. No backslash stands before the quote. -/
def upToQuote (quote : Char) : List Char → Option (List Char × List Char)
  | [] => none
  | ['\\'] => none
  | '\\' :: c :: rest =>
    (upToQuote quote rest).map fun (body, rest) => ('\\' :: c :: body, rest)
  | c :: rest =>
    if c = quote then some ([], rest)
    else (upToQuote quote rest).map fun (body, rest) => (c :: body, rest)

/-- The letters that may stand before a quote, each once and in this order. -/
def formLetters (letters : List Char) (text : List Char) : List Char × List Char :=
  match letters, text with
  | [], _ => ([], text)
  | letter :: more, c :: rest =>
    if c.toLower = letter then
      let (found, left) := formLetters more rest
      (letter :: found, left)
    else formLetters more text
  | _, [] => ([], text)

/-- The text that is written between quotes, if it is one that is not made of bytes. -/
def textOf? (mark body : List Char) (quote : Char) : Option (List Char) :=
  match LiteralForm.ofMark? mark with
  | none => none
  | some form =>
    let body := Text.unifyLineEnds body
    if form.isBytes || body.any fun c => c.toNat = 0 then none
    else
      match form.body? [quote] (body.length + 2) (body ++ [quote]) with
      | some (text, []) => some text
      | _ => none

/-- A text between quotes, if it is one that can be read, and what follows. -/
def quoted : Reader (Option (List Char)) := fun text =>
  let (mark, rest) := formLetters ['u', 'r', 'b'] text
  match rest with
  | [] => none
  | quote :: rest =>
    if isQuote quote then
      (upToQuote quote rest).map fun (body, rest) => (textOf? mark body quote, rest)
    else none

/-- The letters that may stand behind a pattern. -/
def modeLetters : List Char := ['i', 'l', 'm', 's', 'u', 'x', 'a']

/-- The mode that letters behind a pattern ask for. Of three letters that say what the kinds of
characters are, at most one may be there. -/
def modeOf? (letters : List Char) : Option PatternMode :=
  let letters := letters.map Char.toLower
  if 1 < (['a', 'l', 'u'].filter letters.contains).length then none
  else PatternMode.ofLetters? (letters.map fun c => if c = 'l' then 'a' else c)

/-- The body of a pattern and the letters behind it. -/
def patternBody (written? : Option (List Char)) (letters : List Char) : RuleBody :=
  match written?, modeOf? letters with
  | some text, some mode =>
    match Pattern.read? text mode with
    | some pattern => .pattern pattern
    | none => .mistaken
  | _, _ => .mistaken

/-- How often a body is to be matched, in curly brackets after the one that opens them. -/
def bounds : Reader (Nat × Option Nat) := fun text =>
  let first := text.takeWhile Char.isDigit
  match text.dropWhile Char.isDigit with
  | ',' :: rest =>
    let second := rest.takeWhile Char.isDigit
    if first.isEmpty && second.isEmpty then none
    else
      match rest.dropWhile Char.isDigit with
      | '\x7d' :: rest =>
        some ((Pattern.numberOf 10 first,
          if second.isEmpty then none else some (Pattern.numberOf 10 second)), rest)
      | _ => none
  | '\x7d' :: rest =>
    if first.isEmpty then none
    else some ((Pattern.numberOf 10 first, some (Pattern.numberOf 10 first)), rest)
  | _ => none

/-- How often a body is to be matched. -/
def quantity : Reader (Nat × Option Nat) := fun text =>
  match text with
  | '?' :: rest => some ((0, some 1), rest)
  | '*' :: rest => some ((0, none), rest)
  | '+' :: rest => some ((1, none), rest)
  | '\x7b' :: rest => bounds rest
  | _ => none

/-- The bodies one after the other, or the only one. -/
def joined : List RuleBody → RuleBody
  | [body] => body
  | bodies => .sequence bodies

mutual

/-- A body: alternatives, or terms. The fuel bounds the terms and the depth. -/
def body : (fuel : Nat) → Reader RuleBody
  | 0, _ => none
  | fuel + 1, text =>
    match terms fuel text with
    | none => none
    | some (first, rest) =>
      match alternatives fuel rest with
      | ([], _) => some (joined first, rest)
      | (more, rest) => some (.choice (joined first :: more), rest)

/-- Alternatives after a first one, each behind a slash. -/
def alternatives : (fuel : Nat) → List Char → List RuleBody × List Char
  | 0, text => ([], text)
  | fuel + 1, text =>
    match text with
    | '/' :: rest =>
      match terms fuel (skip rest) with
      | none => ([], text)
      | some (found, rest) =>
        let (more, rest) := alternatives fuel rest
        (joined found :: more, rest)
    | text => ([], text)

/-- As many terms as follow one another, at least one. -/
def terms : (fuel : Nat) → Reader (List RuleBody)
  | 0, _ => none
  | fuel + 1, text =>
    match term fuel text with
    | none => none
    | some (first, rest) =>
      match terms fuel rest with
      | none => some ([first], rest)
      | some (more, rest) => some (first :: more, rest)

/-- A term. -/
def term : (fuel : Nat) → Reader RuleBody
  | 0, _ => none
  | fuel + 1, text =>
    match text with
    | '!' :: rest => (term fuel rest).map fun (found, rest) => (.ahead true found, skip rest)
    | '&' :: rest => (term fuel rest).map fun (found, rest) => (.ahead false found, skip rest)
    | text =>
      match atom fuel text with
      | none => none
      | some (found, rest) =>
        match quantity rest with
        | none => some (found, rest)
        | some ((least, most), rest) => some (.times found least most, skip rest)

/-- A term without marks. -/
def atom : (fuel : Nat) → Reader RuleBody
  | 0, _ => none
  | fuel + 1, text =>
    match called text with
    | some (name, rest) => some (.reference name, rest)
    | none =>
      match quoted text with
      | some (some found, rest) => some (.literal found, skip rest)
      | some (none, rest) => some (.mistaken, skip rest)
      | none =>
        match text with
        | '~' :: rest =>
          match quoted rest with
          | none => none
          | some (written?, rest) =>
            let isMode (c : Char) : Bool := modeLetters.contains c.toLower
            let found := patternBody written? (rest.takeWhile isMode)
            some (found, skip (rest.dropWhile isMode))
        | '(' :: rest =>
          match body fuel (skip rest) with
          | some (found, ')' :: rest) => some (found, skip rest)
          | _ => none
        | _ => none

end

/-- As many rules as follow one another. The fuel bounds their number. -/
def rules : (fuel : Nat) → List Char → List (String × RuleBody) × List Char
  | 0, text => ([], text)
  | fuel + 1, text =>
    match name text with
    | some (found, '=' :: rest) =>
      match body (4 * text.length + 8) (skip rest) with
      | none => ([], text)
      | some (body, rest) =>
        let (more, rest) := rules fuel rest
        ((found, body) :: more, rest)
    | _ => ([], text)

end RuleReader

namespace RuleBook

/-- The rules that a whole text is made of. -/
def readRules (text : List Char) : Except RuleTrouble (List (String × RuleBody)) :=
  match RuleReader.rules text.length (RuleReader.skip text) with
  | (rules, []) => .ok rules
  | _ => .error .incomplete

end RuleBook

end Vetting

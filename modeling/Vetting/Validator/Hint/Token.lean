import Vetting.Decimal.Numeral
import Vetting.Json.Reader
import Vetting.Text.Literal

/-!
# Vetting.Validator.Hint.Token

The words, numbers, texts and signs that expressions are made of. Blanks stand between them as one
likes, line ends only inside of brackets or behind the last of them, and a remark reaches up to the
end of its line.
-/

namespace Vetting

/-- A part of a text with expressions in it. -/
inductive MixedPart where
  | text (s : String)
  /-- An expression, perhaps with a letter that tells how its thing is written at first, and the
  form that the text is brought into. -/
  | inner (source : String) (conversion? : Option Char) (form : List MixedPart)
  deriving Repr

/-- A word, a number, a text or a sign of an expression. -/
inductive HintToken where
  | word (s : String)
  | number (v : Value)
  /-- The imaginary part of a complex number. -/
  | imaginary (x : Double)
  | text (s : String)
  | bytes (s : String)
  /-- A text with expressions in it. -/
  | mixed (parts : List MixedPart)
  | sign (s : String)
  deriving Repr, Inhabited

namespace HintToken

/-- The signs, longer ones before those that they start with. -/
def signs : List String :=
  ["...", "**", "//", "<<", ">>", "<=", ">=", "==", "!=", ":=", "+", "-", "*", "/", "%", "@", "&",
   "|", "^", "~", "<", ">", "(", ")", "[", "]", "\x7b", "\x7d", ",", ":", ".", "="]

/-- Words that cannot be names. -/
def reserved : List String :=
  ["False", "None", "True", "and", "as", "assert", "async", "await", "break", "class", "continue",
   "def", "del", "elif", "else", "except", "finally", "for", "from", "global", "if", "import", "in",
   "is", "lambda", "nonlocal", "not", "or", "pass", "raise", "return", "try", "while", "with",
   "yield"]

/-- Words that may stand right behind a number. -/
def joiningWords : List String := ["and", "else", "for", "if", "in", "is", "not", "or"]

/-- The characters of an inner expression and what follows it. It ends at a curly bracket that is
not its own, at a colon, at a mark of how it is written, or at a sign of equality that stands alone.
-/
def innerSource (depth : Nat) (quote? : Option Char) : List Char → List Char × List Char
  | [] => ([], [])
  | c :: rest =>
    let next (depth : Nat) (quote? : Option Char) : List Char × List Char :=
      let (found, left) := innerSource depth quote? rest
      (c :: found, left)
    match quote? with
    | some quote => next depth (if c = quote then none else some quote)
    | none =>
      if c = '\'' ∨ c = '"' then next depth (some c)
      else if c = '(' ∨ c = '[' ∨ c = '\x7b' then next (depth + 1) none
      else if 0 < depth ∧ (c = ')' ∨ c = ']' ∨ c = '\x7d') then next (depth - 1) none
      else if 0 < depth then next depth none
      else
        match c, rest with
        | '!', '=' :: rest | '=', '=' :: rest | '<', '=' :: rest | '>', '=' :: rest =>
          let (found, left) := innerSource depth none rest
          (c :: '=' :: found, left)
        | '\x7d', _ | ':', _ | '!', _ | '=', _ => ([], c :: rest)
        | _, _ => next depth none

/-- How a thing is written at first, as a letter behind a mark tells, and what follows. -/
def conversionAt? : List Char → Option (Option Char × List Char)
  | '!' :: c :: rest => if c = 'r' ∨ c = 's' ∨ c = 'a' then some (some c, rest) else none
  | '!' :: [] => none
  | rest => some (none, rest)

/-- The parts of a text with expressions in curly brackets, and what follows. In the text itself,
doubled brackets stand for one; in the form of an expression, a closing bracket is the end. `level`
tells how many expressions are around. The fuel bounds the number of characters. -/
def mixedFrom? : (fuel level : Nat) → (before : List Char) → List Char →
    Option (List MixedPart × List Char)
  | 0, _, _, _ => none
  | _ + 1, level, before, [] =>
    if level = 0 then some ([.text (String.ofList before)], []) else none
  | fuel + 1, level, before, c :: rest =>
    if level = 0 ∧ (c = '\x7b' ∨ c = '\x7d') ∧ rest.head? = some c then
      mixedFrom? fuel level (before ++ [c]) (rest.drop 1)
    else if c = '\x7d' then
      if level = 0 then none else some ([.text (String.ofList before)], c :: rest)
    else if c = '\x7b' then
      if 1 < level then none
      else do
        let (source, after) := innerSource 0 none rest
        if source.contains '\\' || source.contains '#' then none
        let (shown?, after) :=
          match after with
          | '=' :: more =>
            let blanks := more.takeWhile isSpace
            (some (String.ofList (source ++ '=' :: blanks)), more.drop blanks.length)
          | after => (none, after)
        let (conversion?, after) ← conversionAt? after
        let (form, after) ←
          match after with
          | ':' :: after => mixedFrom? fuel (level + 1) [] after
          | after => some ([], after)
        match after with
        | '\x7d' :: after => do
          let conversion? :=
            if shown?.isSome && form.isEmpty then conversion?.or (some 'r') else conversion?
          let (parts, left) ← mixedFrom? fuel level [] after
          let label := String.ofList before ++ shown?.getD ""
          some (.text label :: .inner (String.ofList source) conversion? form :: parts, left)
        | _ => none
    else mixedFrom? fuel level (before ++ [c]) rest

/-- The parts of a text with expressions in it. -/
def mixedParts? (text : List Char) : Option (List MixedPart) :=
  (mixedFrom? (text.length + 1) 0 [] text).map (·.1)

/-- The text that starts at a quote, and what follows it. -/
def quotedText? (form : LiteralForm) (text : List Char) : Option (HintToken × List Char) :=
  let closing : List Char :=
    match text with
    | a :: b :: c :: _ => if a = b ∧ b = c then [a, a, a] else [a]
    | a :: _ => [a]
    | [] => []
  match form.body? closing (text.length + 1) (text.drop closing.length) with
  | none => none
  | some (body, rest) =>
    if form.isBytes then some (.bytes (String.ofList body), rest)
    else if form.isMixed then
      (mixedParts? body).map fun parts => (.mixed parts, rest)
    else some (.text (String.ofList body), rest)

/-- Digits of a kind, with single low lines between them, and what follows. -/
def digitsOf (isDigit : Char → Bool) : List Char → List Char × List Char
  | [] => ([], [])
  | '_' :: c :: rest =>
    if isDigit c then
      let (found, rest) := digitsOf isDigit rest
      (c :: found, rest)
    else ([], '_' :: c :: rest)
  | c :: rest =>
    if isDigit c then
      let (found, rest) := digitsOf isDigit rest
      (c :: found, rest)
    else ([], c :: rest)

/-- Decimal digits that do not start with a low line, and what follows. -/
def decimalDigits (text : List Char) : List Char × List Char :=
  if text.head? = some '_' then ([], text) else digitsOf Char.isDigit text

/-- A whole number in another base, after the letter that says so. -/
def basedNumber? (base : Nat) (text : List Char) : Option (HintToken × List Char) :=
  let value (c : Char) : Nat := (Text.hexValue? c).getD 16
  match digitsOf (fun c => decide (value c < base)) text with
  | ([], _) => none
  | (digits, rest) =>
    some (.number (.int (digits.foldl (fun n c => base * n + value c) 0 : Nat)), rest)

/-- The exponent of a number, where a letter, maybe a sign, and digits follow. -/
def exponentPart (text : List Char) : Option Int × List Char :=
  let signed (negative : Bool) (rest : List Char) : Option Int × List Char :=
    match decimalDigits rest with
    | ([], _) => (none, text)
    | (found, rest) =>
      let n := Int.ofNat (Json.number found)
      (some (if negative then -n else n), rest)
  match text with
  | [] => (none, text)
  | c :: rest =>
    if c = 'e' ∨ c = 'E' then
      match rest with
      | '+' :: rest => signed false rest
      | '-' :: rest => signed true rest
      | rest => signed false rest
    else (none, text)

/-- A decimal number, and what follows it. Only zeros may stand behind a zero that a whole number
starts with, and a whole number has a greatest number of digits. -/
def decimalNumber? (text : List Char) : Option (HintToken × List Char) :=
  let (whole, rest) := decimalDigits text
  let (point, fraction, rest) :=
    match rest with
    | '.' :: rest =>
      let (fraction, rest) := decimalDigits rest
      (true, fraction, rest)
    | rest => (false, [], rest)
  let (exponent, rest) := exponentPart rest
  let pointed := Double.ofDecimal false (Json.number (whole ++ fraction))
    (exponent.getD 0 - Int.ofNat fraction.length)
  let number : Value :=
    if point || exponent.isSome then .float pointed else .int (Int.ofNat (Json.number whole))
  let isWhole := !point && exponent.isNone
  let hasZeros := whole.head? == some '0' && whole.any (· != '0')
  let found :=
    if isWhole && (hasZeros || decide (Numeral.maxDigits < whole.length)) then none
    else some (.number number, rest)
  match rest with
  | c :: after => if c = 'j' ∨ c = 'J' then some (.imaginary pointed, after) else found
  | [] => found

/-- The number that a text starts with, and what follows it. Of the words, only a few may stand
right behind a number. -/
def numberAt? (text : List Char) : Option (HintToken × List Char) :=
  let found :=
    match text with
    | '0' :: c :: rest =>
      if c = 'x' ∨ c = 'X' then basedNumber? 16 rest
      else if c = 'o' ∨ c = 'O' then basedNumber? 8 rest
      else if c = 'b' ∨ c = 'B' then basedNumber? 2 rest
      else decimalNumber? text
    | cs => decimalNumber? cs
  match found with
  | none => none
  | some (token, rest) =>
    let behind := String.ofList (rest.takeWhile isIdentifierPart)
    if behind.isEmpty || joiningWords.contains behind then some (token, rest)
    else none

/-- The sign that a text starts with, and what follows it. -/
def signAt? (text : List Char) : Option (String × List Char) :=
  signs.findSome? fun s => (Text.after? s.toList text).map fun rest => (s, rest)

/-- How many brackets are open after a sign. -/
def depthAfter (depth : Nat) (s : String) : Nat :=
  if ["(", "[", "\x7b"].contains s then depth + 1
  else if [")", "]", "\x7d"].contains s then depth - 1
  else depth

/-- How many brackets may be open at once. -/
def maxDepth : Nat := 200

/-- Whether nothing but blanks, line ends and remarks stands in a text. -/
def isBare (text : List Char) : Bool :=
  match text.dropWhile fun c => c = ' ' || c = '\t' || c = '\n' || c = '\x0c' with
  | [] => true
  | '#' :: _ => true
  | _ => false

/-- The tokens of a text, inside of `depth` brackets. The fuel bounds their number. -/
def readFrom? : (fuel depth : Nat) → List Char → Option (List HintToken)
  | 0, _, _ => none
  | _, _, [] => some []
  | fuel + 1, depth, c :: rest =>
    if c = ' ' ∨ c = '\t' ∨ c = '\x0c' then readFrom? fuel depth rest
    else if c = '\n' then
      if depth = 0 ∧ !isBare rest then none else readFrom? fuel depth rest
    else if c = '#' then readFrom? fuel depth (rest.dropWhile (· != '\n'))
    else if c = '\\' then
      match rest with
      | '\n' :: rest => readFrom? fuel depth rest
      | _ => none
    else if c = '\'' ∨ c = '"' then
      match quotedText? {} (c :: rest) with
      | none => none
      | some (token, rest) => (readFrom? fuel depth rest).map (token :: ·)
    else if isIdentifierStart c then
      let word := c :: rest.takeWhile isIdentifierPart
      let after := rest.dropWhile isIdentifierPart
      match LiteralForm.ofMark? word, after with
      | some form, quote :: _ =>
        if quote = '\'' ∨ quote = '"' then
          match quotedText? form after with
          | none => none
          | some (token, rest) => (readFrom? fuel depth rest).map (token :: ·)
        else (readFrom? fuel depth after).map (.word (String.ofList word) :: ·)
      | _, _ => (readFrom? fuel depth after).map (.word (String.ofList word) :: ·)
    else if c.isDigit || (c = '.' && (rest.head?.map Char.isDigit).getD false) then
      match numberAt? (c :: rest) with
      | none => none
      | some (token, rest) => (readFrom? fuel depth rest).map (token :: ·)
    else
      match signAt? (c :: rest) with
      | none => none
      | some (s, rest) =>
        if maxDepth < depthAfter depth s then none
        else (readFrom? fuel (depthAfter depth s) rest).map (.sign s :: ·)

/-- The tokens of a text. -/
def read? (text : List Char) : Option (List HintToken) :=
  let text := Text.unifyLineEnds text
  if text.contains (Char.ofNat 0) then none else readFrom? (2 * text.length + 1) 0 text

end HintToken

end Vetting

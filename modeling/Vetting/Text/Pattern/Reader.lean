import Vetting.Text.Pattern
import Vetting.Text.Scan

/-!
# Vetting.Text.Pattern.Reader

Reading a pattern from text. A character stands for itself, unless it is one of `. ^ $ [ ] ( ) | \`
or says how often what stands before it is to be matched: `? * +`, or two numbers in curly brackets.
A backslash takes the meaning of a mark away and gives one to a letter or a digit. Sets stand in
square brackets, and parts in round ones, where a question mark says what kind of part it is, or in
which mode it is read.

`Pattern.read?` reads a whole text in a mode, and reads nothing of one that is no pattern.
-/

namespace Vetting

/-- What a pattern is to mean where its text leaves it open. -/
structure PatternMode where
  /-- Characters that differ by their case only are the same. -/
  ignoresCase : Bool := false
  /-- Kinds hold ASCII characters only. -/
  isAscii : Bool := false
  /-- A dot stands for line ends too. -/
  crossesLines : Bool := false
  /-- Every line has a start and an end. -/
  marksLines : Bool := false
  /-- Blanks and remarks may stand between the parts. -/
  isSpaced : Bool := false
  deriving DecidableEq, Repr

namespace PatternMode

/-- What one of two modes asks for. -/
def union (a b : PatternMode) : PatternMode where
  ignoresCase := a.ignoresCase || b.ignoresCase
  isAscii := a.isAscii || b.isAscii
  crossesLines := a.crossesLines || b.crossesLines
  marksLines := a.marksLines || b.marksLines
  isSpaced := a.isSpaced || b.isSpaced

/-- What a mode asks for and another one does not. -/
def without (a b : PatternMode) : PatternMode where
  ignoresCase := a.ignoresCase && !b.ignoresCase
  isAscii := a.isAscii && !b.isAscii
  crossesLines := a.crossesLines && !b.crossesLines
  marksLines := a.marksLines && !b.marksLines
  isSpaced := a.isSpaced && !b.isSpaced

/-- The modes that letters ask for. One of them asks for what is so without it. -/
def letters : List (Char × PatternMode) :=
  [('a', { isAscii := true }), ('i', { ignoresCase := true }), ('m', { marksLines := true }),
   ('s', { crossesLines := true }), ('u', {}), ('x', { isSpaced := true })]

/-- The mode that several letters ask for. -/
def ofLetters? (text : List Char) : Option PatternMode :=
  text.foldlM (fun mode c => (letters.lookup c).map mode.union) {}

/-- An entry of a set in a mode. -/
def entry (mode : PatternMode) : SetEntry → SetEntry
  | .ofKind kind isNegated => .ofKind (if mode.isAscii then .ascii kind else kind) isNegated
  | other => other

/-- A set of characters in a mode. -/
def set (mode : PatternMode) (found : CharSet) : CharSet :=
  { found with entries := found.entries.map mode.entry, ignoresCase := mode.ignoresCase }

/-- One character of a set, in a mode. -/
def one (mode : PatternMode) (found : CharSet) : Pattern := .one (mode.set found)

/-- The text without the blanks and remarks that it starts with, where they are passed over. -/
def skip (mode : PatternMode) (text : List Char) : List Char :=
  if mode.isSpaced then afterGap false text else text
where
  /-- What follows blanks and remarks. A remark ends with its line. -/
  afterGap (isRemark : Bool) : List Char → List Char
    | [] => []
    | c :: rest =>
      if isRemark then afterGap (c != '\n') rest
      else if isSpace c then afterGap false rest
      else if c = '#' then afterGap true rest
      else c :: rest

end PatternMode

/-- The groups that reading a pattern came upon. -/
structure PatternGroups where
  /-- How many groups were opened. -/
  count : Nat := 0
  named : List (List Char × Nat) := []
  /-- The groups that are not closed yet. -/
  opened : List Nat := []
  /-- The groups that are to be matched again. -/
  wanted : List Nat := []
  /-- What is asked for in the whole pattern. -/
  asked : PatternMode := {}
  deriving Repr

namespace PatternGroups

/-- One more group, and its number. -/
def openNext (groups : PatternGroups) : Nat × PatternGroups :=
  let number := groups.count + 1
  (number, { groups with count := number, opened := number :: groups.opened })

/-- The group of a name, and its number. Groups of one name are one group. -/
def openNamed (groups : PatternGroups) (name : List Char) : Nat × PatternGroups :=
  match groups.named.lookup name with
  | some number => (number, { groups with opened := number :: groups.opened })
  | none =>
    let (number, groups) := groups.openNext
    (number, { groups with named := (name, number) :: groups.named })

/-- The groups after the one that was opened last is closed. -/
def close (groups : PatternGroups) : PatternGroups :=
  { groups with opened := groups.opened.drop 1 }

/-- The groups when one is to be matched again. One that is not closed yet cannot be. -/
def want? (groups : PatternGroups) (number : Nat) : Option PatternGroups :=
  if number = 0 || groups.opened.contains number then none
  else some { groups with wanted := number :: groups.wanted }

/-- Whether all groups that are to be matched again are there. -/
def areSettled (groups : PatternGroups) : Bool :=
  groups.wanted.all fun n => decide (n ≤ groups.count)

end PatternGroups

namespace Pattern

/-- What an escape stands for. -/
inductive Escape where
  /-- A character, by its number. -/
  | character (number : Nat)
  | ofKind (kind : CharKind) (isNegated : Bool)
  | part (pattern : Pattern)
  deriving Repr

namespace Escape

/-- The pattern that an escape stands for outside of sets. -/
def toPattern (mode : PatternMode) : Escape → Pattern
  | character number => mode.one (.single number)
  | ofKind kind isNegated => mode.one (.ofKind kind isNegated)
  | part pattern => pattern

end Escape

/-- The letters that stand for a character after a backslash. -/
def characterLetters : List (Char × Nat) :=
  [('a', 7), ('f', 12), ('n', 10), ('r', 13), ('t', 9), ('v', 11)]

/-- The letters that stand for a kind of characters after a backslash. -/
def kindLetters : List (Char × CharKind × Bool) :=
  [('d', .decimal, false), ('D', .decimal, true), ('h', .level, false), ('s', .blank, false),
   ('S', .blank, true), ('w', .word, false), ('W', .word, true)]

/-- A line end: a carriage return and a newline, or one character that ends a line. -/
def lineEnd : Pattern :=
  .whole (.either (.both (.one (.single 13)) (.one (.single 10)))
    (.one { entries := [.range 10 13, .range 0x85 0x85, .range 0x2028 0x2029] }))

/-- The letters that stand for a pattern after a backslash, outside of sets. -/
def patternLetters : List (Char × Pattern) :=
  [('A', .stands .textStart), ('B', .stands .noWordEdge), ('G', .stands .matchStart), ('K', .empty),
   ('M', .stands .wordEnd), ('R', lineEnd), ('X', .cluster), ('Z', .stands .textEnd),
   ('b', .stands .wordEdge), ('m', .stands .wordStart)]

/-- The kinds that have a name. -/
def kindNames : List (String × CharKind) :=
  [("L", .letter), ("M", .mark), ("N", .number), ("Nd", .decimal), ("word", .word),
   ("digit", .decimal), ("space", .blank), ("blank", .level)]

/-- A number of exactly `width` hexadecimal digits, after `found`. -/
def hexNumber? : (width found : Nat) → List Char → Option (Nat × List Char)
  | 0, found, text => some (found, text)
  | width + 1, found, c :: text =>
    (Text.hexValue? c).bind fun d => hexNumber? width (16 * found + d) text
  | _ + 1, _, [] => none

/-- A character by a number of `width` hexadecimal digits. -/
def hexEscape? (width : Nat) (text : List Char) : Option (Escape × List Char) :=
  match hexNumber? width 0 text with
  | some (number, rest) => if number < 0x110000 then some (.character number, rest) else none
  | none => none

/-- Whether a character is an octal digit. -/
def isOctal (c : Char) : Bool := '0' ≤ c && c ≤ '7'

/-- The number that digits write in a base. -/
def numberOf (base : Nat) (digits : List Char) : Nat :=
  digits.foldl (fun n d => base * n + (d.toNat - 48)) 0

/-- A name between angle brackets or before a round bracket, and what follows it. -/
def nameAndRest (text : List Char) : List Char × List Char :=
  (text.takeWhile fun c => c != ')' && c != '>', text.dropWhile fun c => c != ')' && c != '>')

/-- Whether a text can be the name of a group. -/
def isGroupName : List Char → Bool
  | [] => false
  | c :: rest => isIdentifierStart c && rest.all isIdentifierPart

/-- The number of the group that a name or a number stands for. -/
def groupNumber? (groups : PatternGroups) (name : List Char) : Option Nat :=
  if !name.isEmpty && name.all Char.isDigit then some (numberOf 10 name)
  else groups.named.lookup name

/-- A group to be matched again, by its name or number. -/
def again? (groups : PatternGroups) (name : List Char) : Option (Escape × PatternGroups) :=
  match groupNumber? groups name with
  | none => none
  | some number => (groups.want? number).map fun groups => (.part (.again number), groups)

/-- Digits after a backslash: a character by its number in the base eight, or a group to be matched
again. -/
def digitEscape? (inSet : Bool) (groups : PatternGroups) (text : List Char) :
    Option (Escape × PatternGroups × List Char) :=
  let digits := text.takeWhile Char.isDigit
  let octal := (text.takeWhile isOctal).take 3
  if inSet || digits.head? == some '0' then
    if octal.isEmpty then none
    else some (.character (numberOf 8 octal), groups, text.drop octal.length)
  else if octal.length = 3 then
    some (.character (numberOf 8 octal % 512), groups, text.drop 3)
  else
    let taken := digits.take 2
    (again? groups taken).map fun (escape, groups) => (escape, groups, text.drop taken.length)

/-- A named kind after a backslash and the letter `letter`, or that letter. -/
def kindEscape? (letter : Char) (text : List Char) : Option (Escape × List Char) :=
  let isNegated := letter == 'P'
  let found (name : List Char) (isNegated : Bool) (rest : List Char) :=
    (kindNames.lookup (String.ofList name)).map fun kind => (Escape.ofKind kind isNegated, rest)
  match text with
  | '{' :: rest =>
    let (turned, rest) :=
      match rest with
      | '^' :: rest => (true, rest)
      | rest => (false, rest)
    let isNamePart (c : Char) : Bool := c.isAlphanum || [' ', '&', '_', '-', ':', '='].contains c
    match rest.dropWhile isNamePart with
    | '}' :: after => found (rest.takeWhile isNamePart) (isNegated != turned) after
    | _ => some (.character letter.toNat, text)
  | c :: rest =>
    if ['C', 'L', 'M', 'N', 'P', 'S', 'Z'].contains c then found [c] isNegated rest
    else some (.character letter.toNat, text)
  | [] => some (.character letter.toNat, text)

/-- Whether a character is called by its name in curly brackets. -/
def startsNamedCharacter : List Char → Bool
  | '{' :: rest =>
    (rest.dropWhile fun c => c.isAlphanum || c == ' ' || c == '-').head? == some '}'
  | _ => false

/-- A letter after a backslash. -/
def letterEscape? (inSet : Bool) (groups : PatternGroups) (c : Char) (rest : List Char) :
    Option (Escape × PatternGroups × List Char) :=
  let plain (found : Option (Escape × List Char)) : Option (Escape × PatternGroups × List Char) :=
    found.map fun (escape, rest) => (escape, groups, rest)
  if c = 'x' then plain (hexEscape? 2 rest)
  else if c = 'u' then plain (hexEscape? 4 rest)
  else if c = 'U' then plain (hexEscape? 8 rest)
  else if c = 'p' ∨ c = 'P' then plain (kindEscape? c rest)
  else if c = 'N' then
    if startsNamedCharacter rest then none else some (.character c.toNat, groups, rest)
  else if c = 'g' ∧ !inSet then
    let self := some (Escape.character c.toNat, groups, rest)
    match rest with
    | '<' :: inner =>
      match nameAndRest inner with
      | (name, '>' :: after) =>
        match again? groups name with
        | some (escape, groups) => some (escape, groups, after)
        | none => self
      | _ => self
    | _ => self
  else
    match if inSet then none else patternLetters.lookup c with
    | some pattern => some (.part pattern, groups, rest)
    | none =>
      match kindLetters.lookup c with
      | some (kind, isNegated) => some (.ofKind kind isNegated, groups, rest)
      | none =>
        if c = 'b' then some (.character 8, groups, rest)
        else (characterLetters.lookup c).map fun number => (.character number, groups, rest)

/-- What stands after a backslash. -/
def escape? (inSet : Bool) (groups : PatternGroups) :
    List Char → Option (Escape × PatternGroups × List Char)
  | [] => none
  | c :: rest =>
    if c.isDigit then digitEscape? inSet groups (c :: rest)
    else if c.isAlpha then letterEscape? inSet groups c rest
    else some (.character c.toNat, groups, rest)

/-- A kind between colons and square brackets in a set: nothing where none is meant. -/
def colonKind? (text : List Char) : Option (Option Escape × List Char) :=
  match text with
  | '[' :: ':' :: rest =>
    let (isNegated, rest) :=
      match rest with
      | '^' :: rest => (true, rest)
      | rest => (false, rest)
    let isNamePart (c : Char) : Bool := c.isAlphanum || [' ', '&', '_', '-'].contains c
    match rest.dropWhile isNamePart with
    | ':' :: ']' :: after =>
      some ((kindNames.lookup (String.ofList (rest.takeWhile isNamePart))).map
        fun kind => .ofKind kind isNegated, after)
    | _ => none
  | _ => none

/-- One item of a set. -/
def setItem? (text : List Char) : Option (Escape × List Char) :=
  match colonKind? text with
  | some (some kind, rest) => some (kind, rest)
  | some (none, _) => none
  | none =>
    match text with
    | [] => none
    | '\\' :: rest => (escape? true {} rest).map fun (escape, _, rest) => (escape, rest)
    | c :: rest => some (.character c.toNat, rest)

/-- The entry of an item of a set. -/
def entryOf : Escape → List SetEntry
  | .character number => [.range number number]
  | .ofKind kind isNegated => [.ofKind kind isNegated]
  | .part _ => []

/-- A member of a set: an item, or the characters from one to another. A hyphen before the end of
the set, or before a kind, stands for itself. -/
def setMember? (text : List Char) : Option (List SetEntry × List Char) :=
  let hyphen : List SetEntry := [.range 45 45]
  match setItem? text with
  | none => none
  | some (.character first, '-' :: rest) =>
    match rest with
    | ']' :: _ => some (.range first first :: hyphen, rest)
    | rest =>
      match setItem? rest with
      | none => none
      | some (.character last, rest) =>
        if last < first then none else some ([.range first last], rest)
      | some (other, rest) => some (.range first first :: hyphen ++ entryOf other, rest)
  | some (item, rest) => some (entryOf item, rest)

/-- The members of a set up to the bracket that closes it. The fuel bounds their number. -/
def setMembers? : (fuel : Nat) → List Char → Option (List SetEntry × List Char)
  | 0, _ => none
  | fuel + 1, text =>
    match setMember? text with
    | none => none
    | some (entries, ']' :: rest) => some (entries, rest)
    | some (entries, rest) =>
      (setMembers? fuel rest).map fun (more, rest) => (entries ++ more, rest)

/-- A set after the bracket that opens it. A closing bracket that stands first is a member. -/
def set? (text : List Char) : Option (CharSet × List Char) :=
  let (isNegated, text) :=
    match text with
    | '^' :: rest => (true, rest)
    | text => (false, text)
  (setMembers? text.length text).map fun (entries, rest) => ({ isNegated, entries }, rest)

/-- What a mark that may say how often says. -/
inductive Quantity where
  | counts (least : Nat) (most : Option Nat) (rest : List Char)
  /-- It stands for itself. -/
  | itself
  /-- It is a mistake, or asks for what no pattern can do. -/
  | mistaken
  deriving Repr

/-- No pattern is matched so many times. -/
def tooOften : Nat := 4294967295

/-- Whether curly brackets with this text in them allow for errors in a match. -/
def allowsErrors (text : List Char) : Bool :=
  let isCost (c : Char) : Bool := ['d', 'e', 'i', 's'].contains c
  match text with
  | [] => false
  | c :: _ =>
    if isCost c then true
    else if !c.isDigit then false
    else
      match text.dropWhile Char.isDigit with
      | '<' :: '=' :: d :: '<' :: _ => isCost d
      | '<' :: d :: '<' :: _ => isCost d
      | d :: _ => d != 'e' && isCost d
      | [] => false

/-- The numbers in curly brackets, after the one that opens them. -/
def braces (text : List Char) : Quantity :=
  let other : Quantity := if allowsErrors text then .mistaken else .itself
  let close (least : Nat) (most : Option Nat) (rest : List Char) : Quantity :=
    match rest with
    | '}' :: rest =>
      if tooOften ≤ least || tooOften ≤ most.getD 0 then .mistaken else .counts least most rest
    | _ => other
  let first := text.takeWhile Char.isDigit
  let least := numberOf 10 first
  match text.dropWhile Char.isDigit with
  | ',' :: rest =>
    let second := rest.takeWhile Char.isDigit
    let most := if second.isEmpty then none else some (numberOf 10 second)
    if most.any (· < least) then .mistaken else close least most (rest.dropWhile Char.isDigit)
  | rest => if first.isEmpty then other else close least (some least) rest

/-- What a mark says of what stands before it. -/
def quantity (c : Char) (rest : List Char) : Quantity :=
  if c = '?' then .counts 0 (some 1) rest
  else if c = '*' then .counts 0 none rest
  else if c = '+' then .counts 1 none rest
  else braces rest

/-- The order in which numbers of rounds are tried, as a mark after the number says. -/
def greedAndRest : List Char → Greed × List Char
  | '?' :: rest => (.fewer, rest)
  | '+' :: rest => (.all, rest)
  | rest => (.more, rest)

/-- What stands after the last part of some, the latest first, is joined to them. -/
def joined (done : List Pattern) (last? : Option Pattern) : List Pattern := last?.toList ++ done

mutual

/-- Alternatives. The fuel bounds the parts and the depth. -/
def choice? (mode : PatternMode) : (fuel : Nat) → PatternGroups → List Char →
    Option (Pattern × PatternGroups × List Char)
  | 0, _, _ => none
  | fuel + 1, groups, text =>
    match parts? mode fuel groups [] none text with
    | some (first, groups, '|' :: rest) =>
      (choice? mode fuel groups rest).map fun (second, groups, rest) =>
        (.either first second, groups, rest)
    | other => other

/-- Parts one after the other: those that are done, the latest first, and the last one, of which it
may still be said how often it is to be matched. -/
def parts? (mode : PatternMode) : (fuel : Nat) → PatternGroups → (done : List Pattern) →
    (last? : Option Pattern) → List Char → Option (Pattern × PatternGroups × List Char)
  | 0, _, _, _, _ => none
  | fuel + 1, groups, done, last?, text =>
    let text := mode.skip text
    let finished := some (sequence (joined done last?).reverse, groups, text)
    let push (groups : PatternGroups) (part : Pattern) (rest : List Char) :=
      parts? mode fuel groups (joined done last?) (some part) rest
    match text with
    | [] => finished
    | c :: rest =>
      if c = '|' ∨ c = ')' then finished
      else if ['?', '*', '+', '{'].contains c then
        match quantity c rest, last? with
        | .mistaken, _ => none
        | .itself, _ => push groups (mode.one (.single c.toNat)) rest
        | .counts .., none => none
        | .counts least most rest, some body =>
          let (greed, rest) := greedAndRest (mode.skip rest)
          parts? mode fuel groups (.times body least most greed :: done) none rest
      else if c = '\\' then
        match escape? false groups rest with
        | none => none
        | some (escape, groups, rest) => push groups (escape.toPattern mode) rest
      else if c = '(' then
        match bracket? mode fuel groups rest with
        | none => none
        | some (none, groups, rest) => parts? mode fuel groups done last? rest
        | some (some part, groups, rest) => push groups part rest
      else if c = '[' then
        match set? rest with
        | none => none
        | some (set, rest) => push groups (mode.one set) rest
      else if c = '.' then
        push groups (mode.one (if mode.crossesLines then .all else .level)) rest
      else if c = '^' then
        push groups (.stands (if mode.marksLines then .lineStart else .textStart)) rest
      else if c = '$' then
        push groups (.stands (if mode.marksLines then .lineEnd else .lastLineEnd)) rest
      else push groups (mode.one (.single c.toNat)) rest

/-- What stands in round brackets, after the one that opens them. A remark is no part. -/
def bracket? (mode : PatternMode) : (fuel : Nat) → PatternGroups → List Char →
    Option (Option Pattern × PatternGroups × List Char)
  | 0, _, _ => none
  | fuel + 1, groups, text =>
    let inside (make : Pattern → Pattern) (rest : List Char) :=
      match choice? mode fuel groups rest with
      | some (pattern, groups, ')' :: rest) => some (some (make pattern), groups, rest)
      | _ => none
    let inMode (mode : PatternMode) (rest : List Char) :=
      match choice? mode fuel groups rest with
      | some (pattern, groups, ')' :: rest) => some (some pattern, groups, rest)
      | _ => none
    let grouped (number : Nat) (groups : PatternGroups) (rest : List Char) :=
      match choice? mode fuel groups rest with
      | some (pattern, groups, ')' :: rest) =>
        some (some (.group number pattern), groups.close, rest)
      | _ => none
    let named (rest : List Char) :=
      match nameAndRest rest with
      | (name, '>' :: rest) =>
        if isGroupName name then
          let (number, groups) := groups.openNamed name
          grouped number groups rest
        else none
      | _ => none
    match text with
    | '?' :: ':' :: rest => inside id rest
    | '?' :: '>' :: rest => inside .whole rest
    | '?' :: '=' :: rest => inside (.ahead false) rest
    | '?' :: '!' :: rest => inside (.ahead true) rest
    | '?' :: '<' :: '=' :: rest => inside (.behind false) rest
    | '?' :: '<' :: '!' :: rest => inside (.behind true) rest
    | '?' :: '<' :: rest => named rest
    | '?' :: 'P' :: '<' :: rest => named rest
    | '?' :: 'P' :: '=' :: rest =>
      match nameAndRest rest with
      | (name, ')' :: rest) =>
        (again? groups name).map fun (escape, groups) =>
          (some (escape.toPattern mode), groups, rest)
      | _ => none
    | '?' :: '#' :: rest =>
      match rest.dropWhile (· != ')') with
      | _ :: rest => some (none, groups, rest)
      | [] => none
    | '?' :: ')' :: rest => some (none, groups, rest)
    | '?' :: rest =>
      let lettersOn := rest.takeWhile Char.isAlpha
      match PatternMode.ofLetters? lettersOn, rest.dropWhile Char.isAlpha with
      | some on, ')' :: rest => some (none, { groups with asked := groups.asked.union on }, rest)
      | some on, ':' :: rest => inMode (mode.union on) rest
      | some on, '-' :: rest =>
        match PatternMode.ofLetters? (rest.takeWhile Char.isAlpha), rest.dropWhile Char.isAlpha with
        | some off, ':' :: after =>
          if after.length + 1 = rest.length || on.without off != on then none
          else inMode ((mode.union on).without off) after
        | _, _ => none
      | _, _ => none
    | rest =>
      let (number, groups) := groups.openNext
      grouped number groups rest

end

/-- The pattern that a whole text is in a mode. What it asks for itself is asked for from its start
on. The fuel bounds how often it asks for more. -/
def readIn? : (fuel : Nat) → (mode : PatternMode) → (text : List Char) → Option Pattern
  | 0, _, _ => none
  | fuel + 1, mode, text =>
    match choice? mode (2 * text.length + 2) {} text with
    | some (pattern, groups, []) =>
      if groups.asked.without mode != {} then readIn? fuel (mode.union groups.asked) text
      else if groups.areSettled then some pattern
      else none
    | _ => none

/-- The pattern that a whole text is in a mode. -/
def read? (text : List Char) (mode : PatternMode) : Option Pattern := readIn? 6 mode text

end Pattern

end Vetting

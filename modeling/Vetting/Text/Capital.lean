import Vetting.Text.Class
import Vetting.Text.Lowercase
import Vetting.Text.Table.Capital

/-!
# Vetting.Text.Capital

Capitals by the full mapping, and what of letters has case. A character may have capitals of several
characters, and others at the start of a word. The lower case of a text is in `Text.lower`.
-/

namespace Vetting.Text

/-- The capitals of a character. -/
def capitalsOf (c : Char) : List Char :=
  let n := c.toNat
  if n < 128 then [c.toUpper]
  else
    match Table.capitals.lookup n with
    | some found => found.map Char.ofNat
    | none =>
      match Table.lowerRuns.find? fun (first, last, step, lower) =>
          decide (lower ≤ n) && decide (n ≤ lower + (last - first)) && (n - lower) % step == 0 with
      | some (first, _, _, lower) => [Char.ofNat (first + (n - lower))]
      | none => [c]

/-- What a character becomes at the start of a word. -/
def titleOf (c : Char) : List Char :=
  let n := c.toNat
  if n < 128 then [c.toUpper]
  else
    match Table.titles.lookup n with
    | some found => found.map Char.ofNat
    | none => if Table.titled.covers n then [c] else capitalsOf c

/-- Whether a character is half a capital: a first part that is one and a second that is not. -/
def isHalfCapital (c : Char) : Bool := Table.halfCapitals.covers c.toNat

/-- Whether a character is a capital. -/
def isCapital (c : Char) : Bool :=
  if c.toNat < 128 then c.isUpper
  else !isHalfCapital c && (lowerChar c != c || Table.lonelyCapitals.covers c.toNat)

/-- Whether a character is in lower case. -/
def isSmall (c : Char) : Bool :=
  if c.toNat < 128 then c.isLower
  else !isHalfCapital c && !isCapital c &&
    (capitalsOf c != [c] || Table.lonelySmall.covers c.toNat)

/-- Whether a character has case. -/
def isCased (c : Char) : Bool := isCapital c || isSmall c || isHalfCapital c

/-- A text in capitals. -/
def upper (text : List Char) : List Char := text.flatMap capitalsOf

/-- A text with each capital in lower case, and each other letter as a capital, given the characters
before it, nearest first. -/
def swappedFrom (before : List Char) : List Char → List Char
  | [] => []
  | c :: rest =>
    let here :=
      if isCapital c then (lowerFrom before (c :: rest)).take (if c == 'İ' then 2 else 1)
      else if isSmall c then capitalsOf c
      else [c]
    here ++ swappedFrom (c :: before) rest

/-- A text with a capital at the start of each word, given the characters before it, nearest
first. -/
def titledFrom (before : List Char) : List Char → List Char
  | [] => []
  | c :: rest =>
    let isInWord := (before.head?.map isCased).getD false
    let here :=
      if isInWord then (lowerFrom before (c :: rest)).take (if c == 'İ' then 2 else 1)
      else titleOf c
    here ++ titledFrom (c :: before) rest

/-- A text with a capital at its start and nowhere else. -/
def capitalized : List Char → List Char
  | [] => []
  | c :: rest => titleOf c ++ lowerFrom [c] rest

/-- Whether a text has letters with case, and none is in lower case. -/
def isUpperText (text : List Char) : Bool :=
  text.any isCapital && !text.any fun c => isSmall c || isHalfCapital c

/-- Whether a text has letters with case, and all are in lower case. -/
def isLowerText (text : List Char) : Bool :=
  text.any isSmall && !text.any fun c => isCapital c || isHalfCapital c

/-- Whether a text has words with a capital at the start of each and nowhere else. -/
def isTitleText (text : List Char) : Bool := go false text && text.any isCased
where
  /-- The same of a text behind a letter with case, or not behind one. -/
  go : (isInWord : Bool) → List Char → Bool
    | _, [] => true
    | isInWord, c :: rest =>
      if isCapital c || isHalfCapital c then !isInWord && go true rest
      else if isSmall c then isInWord && go true rest
      else go false rest

/-- The characters that all texts that differ by their case only are brought to. -/
def caseless (text : List Char) : List Char :=
  text.flatMap fun c =>
    let n := c.toNat
    if n < 128 then [c.toLower]
    else if n = 0x131 then [c]
    else if n = 0x1E9E then ['s', 's']
    else if 0x13A0 ≤ n ∧ n ≤ 0x13F5 then [c]
    else if (0x13F8 ≤ n ∧ n ≤ 0x13FD) ∨ (0xAB70 ≤ n ∧ n ≤ 0xABBF) then capitalsOf c
    else (capitalsOf c).flatMap fun d => if d == 'İ' then ['i', Char.ofNat 0x307] else [lowerChar d]

/-- Whether a character is a digit: a decimal one, or one such as a raised one. -/
def isAnyDigit (c : Char) : Bool := isDecimal c || Table.otherDigits.covers c.toNat

/-- Whether a character stands for a number. -/
def isNumeric (c : Char) : Bool :=
  isDecimal c || Table.letterNumbers.covers c.toNat || Table.otherNumbers.covers c.toNat ||
    Table.numberLetters.covers c.toNat

end Vetting.Text

import Vetting.Text.Table.Letter
import Vetting.Text.Table.Number
import Vetting.Text.Table.Mark
import Vetting.Text.Table.Printable

/-!
# Vetting.Text.Class

Character classes. Three of them overlap and are kept apart on purpose:

* `isBlank` is the White_Space property, the blanks of the directive grammar;
* `isSpace` adds the four separators U+001C to U+001F, and is what trimming goes by;
* `isLineBreak` holds the characters at which a text is cut into lines.

Likewise `isNameStart` and `isWord` belong to the directive grammar, which admits combining marks,
while `isIdentifierStart` and `isIdentifierPart` belong to the identifier sweep, which admits
letters and numbers only. Code points below 128 are decided without a table.
-/

namespace Vetting

/-- The White_Space property. -/
def isBlank (c : Char) : Bool :=
  let n := c.toNat
  (decide (9 ≤ n) && decide (n ≤ 13)) || n == 0x20 || n == 0x85 || n == 0xA0 || n == 0x1680 ||
    (decide (0x2000 ≤ n) && decide (n ≤ 0x200A)) || n == 0x2028 || n == 0x2029 || n == 0x202F ||
    n == 0x205F || n == 0x3000

/-- White space as trimming sees it: the blanks and the four information separators. -/
def isSpace (c : Char) : Bool :=
  isBlank c || (decide (0x1C ≤ c.toNat) && decide (c.toNat ≤ 0x1F))

/-- The characters that end a line; a carriage return and a line feed together end one line. -/
def isLineBreak (c : Char) : Bool :=
  let n := c.toNat
  (decide (10 ≤ n) && decide (n ≤ 13)) || (decide (0x1C ≤ n) && decide (n ≤ 0x1E)) ||
    n == 0x85 || n == 0x2028 || n == 0x2029

/-- Letters, of general category L. -/
def isLetter (c : Char) : Bool :=
  if c.toNat < 128 then c.isAlpha else Text.Table.letters.covers c.toNat

/-- Decimal digits of any script. -/
def isDecimal (c : Char) : Bool :=
  if c.toNat < 128 then c.isDigit else Text.Table.decimals.covers c.toNat

/-- The value of a decimal digit. -/
def decimalValue? (c : Char) : Option Nat :=
  (Text.Table.decimals.start? c.toNat).map fun first => (c.toNat - first) % 10

/-- Letters and numbers: decimal digits, letter numbers, and other numbers such as `²` or `½`. -/
def isLetterOrNumber (c : Char) : Bool :=
  if c.toNat < 128 then c.isAlphanum
  else Text.Table.letters.covers c.toNat || Text.Table.decimals.covers c.toNat ||
    Text.Table.letterNumbers.covers c.toNat || Text.Table.otherNumbers.covers c.toNat

/-- Word characters: alphabetic characters, marks, decimal digits, connectors and joiners. -/
def isWord (c : Char) : Bool :=
  if c.toNat < 128 then c.isAlphanum || c == '_'
  else Text.Table.letters.covers c.toNat || Text.Table.letterNumbers.covers c.toNat ||
    Text.Table.enclosedLetters.covers c.toNat || Text.Table.marks.covers c.toNat ||
    Text.Table.decimals.covers c.toNat || Text.Table.connectors.covers c.toNat ||
    Text.Table.joiners.covers c.toNat

/-- A name of the directive grammar starts with a word character that is no digit. -/
def isNameStart (c : Char) : Bool :=
  isWord c && !isDecimal c

/-- An identifier of the sweep starts with a letter or a low line. -/
def isIdentifierStart (c : Char) : Bool :=
  isLetter c || c == '_'

/-- An identifier of the sweep goes on with letters, numbers and low lines. -/
def isIdentifierPart (c : Char) : Bool :=
  isLetterOrNumber c || c == '_'

/-- Characters that stand for themselves in quoted text. -/
def isPrintable (c : Char) : Bool :=
  if c.toNat < 128 then decide (32 ≤ c.toNat) && decide (c.toNat < 127)
  else Text.Table.printables.covers c.toNat

theorem isSpace_of_isBlank {c : Char} (h : isBlank c = true) : isSpace c = true := by
  simp [isSpace, h]

theorem isWord_of_isNameStart {c : Char} (h : isNameStart c = true) : isWord c = true := by
  simp [isNameStart] at h
  exact h.1

end Vetting

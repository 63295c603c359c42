import Vetting.Decimal.Arithmetic
import Vetting.Decimal.Numeral
import Vetting.Text.Scan

/-!
# Vetting.Decimal.PointNumeral

Reading a floating point number from text: a sign, digits of any script with a point among them or
without one, and a power of ten; or a word for what is infinite or undefined. Single low lines may
stand between digits, and blanks around the whole.
-/

namespace Vetting

namespace PointNumeral

/-- A text without the low lines between its digits, if there are no others. -/
def withoutLows? : (behindDigit : Bool) → List Char → Option (List Char)
  | _, [] => some []
  | behindDigit, c :: rest =>
    if c = '_' then
      if behindDigit && ((rest.head?.bind decimalValue?).isSome) then withoutLows? false rest
      else none
    else (withoutLows? (decimalValue? c).isSome rest).map (c :: ·)

/-- The values of the digits that a text starts with, and what follows them. -/
def digits (text : List Char) : List Nat × List Char :=
  let isDigit (c : Char) : Bool := (decimalValue? c).isSome
  ((text.takeWhile isDigit).filterMap decimalValue?, text.dropWhile isDigit)

/-- The power of ten that a text starts with, and what follows it. -/
def powerPart (text : List Char) : Int × List Char :=
  let found (negative : Bool) (rest : List Char) : Int × List Char :=
    match digits rest with
    | ([], _) => (0, text)
    | (ds, rest) => (Double.signed negative (Numeral.ofDigits ds), rest)
  match text with
  | c :: rest =>
    if c = 'e' ∨ c = 'E' then
      match rest with
      | '+' :: rest => found false rest
      | '-' :: rest => found true rest
      | rest => found false rest
    else (0, text)
  | [] => (0, [])

/-- The words for what is infinite or undefined, longer ones first. -/
def words : List (List Char × (Bool → Double)) :=
  [("infinity".toList, .infinite), ("inf".toList, .infinite), ("nan".toList, fun _ => .nan)]

/-- The number without a sign that a text starts with, and what follows it. -/
def unsigned? (negative : Bool) (text : List Char) : Option (Double × List Char) :=
  let (whole, rest) := digits text
  let (fraction, rest) :=
    match rest with
    | '.' :: rest => digits rest
    | rest => ([], rest)
  if whole.isEmpty && fraction.isEmpty then
    words.findSome? fun (word, x) =>
      if Text.startsWith word (text.map Char.toLower) then
        some (x negative, text.drop word.length)
      else none
  else
    let (power, rest) := powerPart rest
    some (Double.ofDecimal negative (Numeral.ofDigits (whole ++ fraction))
      (power - Int.ofNat fraction.length), rest)

/-- The number that a text starts with, and what follows it. -/
def start? : List Char → Option (Double × List Char)
  | '-' :: rest => unsigned? true rest
  | '+' :: rest => unsigned? false rest
  | text => unsigned? false text

/-- The number that a text stands for. -/
def read? (text : List Char) : Option Double := do
  let (x, rest) ← start? (← withoutLows? false (Text.trim text))
  if rest.isEmpty then some x else none

end PointNumeral

end Vetting

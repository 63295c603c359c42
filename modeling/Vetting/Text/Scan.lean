import Vetting.Text.Class

/-!
# Vetting.Text.Scan

Small scans over a list of characters: cutting a text into lines, trimming, and finding a marker.
The lemmas say what each scan leaves over.
-/

namespace Vetting.Text

/-- The lines of a text, without what ends them. A line break at the very end opens no new line. -/
def lines : List Char → List (List Char)
  | [] => []
  | '\r' :: '\n' :: rest => [] :: lines rest
  | c :: rest =>
    if isLineBreak c then [] :: lines rest
    else
      match lines rest with
      | [] => [[c]]
      | line :: more => (c :: line) :: more

/-- Every line end as one line feed. -/
def unifyLineEnds : List Char → List Char
  | [] => []
  | '\r' :: '\n' :: rest => '\n' :: unifyLineEnds rest
  | '\r' :: rest => '\n' :: unifyLineEnds rest
  | c :: rest => c :: unifyLineEnds rest

/-- The value of a hexadecimal digit. -/
def hexValue? (c : Char) : Option Nat :=
  if '0' ≤ c && c ≤ '9' then some (c.toNat - 48)
  else if 'a' ≤ c && c ≤ 'f' then some (c.toNat - 87)
  else if 'A' ≤ c && c ≤ 'F' then some (c.toNat - 55)
  else none

/-- Without leading white space. -/
def trimStart (text : List Char) : List Char := text.dropWhile isSpace

/-- Without trailing white space. -/
def trimEnd (text : List Char) : List Char := (text.reverse.dropWhile isSpace).reverse

/-- Without leading and trailing white space. -/
def trim (text : List Char) : List Char := trimEnd (trimStart text)

/-- What follows the marker, when the text starts with it. -/
def after? : (marker text : List Char) → Option (List Char)
  | [], text => some text
  | _ :: _, [] => none
  | m :: marker, c :: text => if m = c then after? marker text else none

/-- What follows the first occurrence of the marker. -/
def afterFirst? (marker : List Char) : List Char → Option (List Char)
  | [] => if marker = [] then some [] else none
  | c :: text =>
    match after? marker (c :: text) with
    | some rest => some rest
    | none => afterFirst? marker text

/-- Whether the text starts with the marker. -/
def startsWith (marker text : List Char) : Bool := (after? marker text).isSome

/-- Whether the text ends with the marker. -/
def endsWith (marker text : List Char) : Bool := startsWith marker.reverse text.reverse

/-- The text cut at every separator; there is one piece more than there are separators. -/
def pieces (separator : Char) : List Char → List (List Char)
  | [] => [[]]
  | c :: rest =>
    if c = separator then [] :: pieces separator rest
    else
      match pieces separator rest with
      | [] => [[c]]
      | piece :: more => (c :: piece) :: more

/-- What stands after the last separator: the whole text where there is none. -/
def lastPiece (separator : Char) (text : List Char) : List Char :=
  (text.reverse.takeWhile (· != separator)).reverse

/-- What stands before the last separator, where there is one. -/
def beforeLast? (separator : Char) (text : List Char) : Option (List Char) :=
  match text.reverse.dropWhile (· != separator) with
  | [] => none
  | _ :: front => some front.reverse

/-- Whether one text stands before another in the order of their characters' numbers, or is the
same. -/
def precedes : List Char → List Char → Bool
  | [], _ => true
  | _ :: _, [] => false
  | c :: a, d :: b => if c = d then precedes a b else decide (c.toNat < d.toNat)

/-- What of `text` was read when `rest` is left. -/
def consumed (text rest : List Char) : List Char := text.take (text.length - rest.length)

theorem after?_eq_some_iff {marker text rest : List Char} :
    after? marker text = some rest ↔ text = marker ++ rest := by
  induction marker generalizing text with
  | nil => simp [after?, eq_comm]
  | cons m marker ih =>
    cases text with
    | nil => simp [after?]
    | cons c text =>
      by_cases h : m = c
      · subst h; simp [after?, ih]
      · simp [after?, h, Ne.symm h]

theorem consumed_append (front rest : List Char) : consumed (front ++ rest) rest = front := by
  simp [consumed]

theorem length_dropWhile_le (p : Char → Bool) (text : List Char) :
    (text.dropWhile p).length ≤ text.length :=
  (List.dropWhile_sublist p).length_le

end Vetting.Text

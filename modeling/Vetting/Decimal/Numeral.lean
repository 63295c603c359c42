import Vetting.Text.Class

/-!
# Vetting.Decimal.Numeral

Reading a whole number from text: blanks around it are passed over, one sign may stand before it,
its digits may be those of any script, and single low lines may stand between digits.
-/

namespace Vetting

namespace Numeral

/-- The greatest number of digits that is read. -/
def maxDigits : Nat := 4300

/-- Why a text is no whole number. -/
inductive Trouble where
  /-- The text is no numeral. -/
  | malformed
  /-- The numeral has more digits than are read. -/
  | tooLong (digits : Nat)
  deriving DecidableEq, Repr

/-- The values of the digits of a numeral: digits with at most one low line between any two. -/
def digits? : List Char → Option (List Nat)
  | [] => none
  | [c] => (decimalValue? c).map fun d => [d]
  | c :: '_' :: rest =>
    match decimalValue? c, digits? rest with
    | some d, some ds => some (d :: ds)
    | _, _ => none
  | c :: rest =>
    match decimalValue? c, digits? rest with
    | some d, some ds => some (d :: ds)
    | _, _ => none

/-- The number written by a list of digit values. -/
def ofDigits (digits : List Nat) : Nat := digits.foldl (fun n d => 10 * n + d) 0

/-- Without blanks on either side. -/
def stripBlanks (text : List Char) : List Char :=
  ((text.dropWhile isBlank).reverse.dropWhile isBlank).reverse

/-- Whether a character can stand in a numeral after its sign. -/
def isPart (c : Char) : Bool := c == '_' || (decimalValue? c).isSome

/-- The magnitude of a numeral without its sign. Too many digits at its start count before anything
that may follow them. -/
def magnitude (text : List Char) : Except Trouble Nat :=
  match digits? (text.takeWhile isPart) with
  | none => .error .malformed
  | some digits =>
    if maxDigits < digits.length then .error (.tooLong digits.length)
    else if (text.dropWhile isPart).isEmpty then .ok (ofDigits digits)
    else .error .malformed

/-- The whole number that a text stands for. -/
def read (text : List Char) : Except Trouble Int :=
  match stripBlanks text with
  | '-' :: rest => (magnitude rest).map fun n => -Int.ofNat n
  | '+' :: rest => (magnitude rest).map Int.ofNat
  | rest => (magnitude rest).map Int.ofNat

end Numeral

end Vetting

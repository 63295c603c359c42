import Vetting.Decimal.Fixed
import Vetting.Decimal.Numeral
import Vetting.Fault

/-!
# Vetting.Form

The form that a value is brought into when it is put into a text: where it stands in how much room
and what fills the room, how signs are written, how digits are grouped, how many of them there are,
and the kind of text. `Form.read` reads a form; `Form.ofText`, `Form.ofWhole` and `Form.ofDouble`
set values in one.
-/

namespace Vetting

/-- Where a value stands in its room. -/
inductive Alignment where
  | left
  | right
  | center
  /-- At the right end, but the sign at the left end. -/
  | behindSign
  deriving DecidableEq, Repr

namespace Alignment

/-- The alignment that a sign stands for. -/
def ofSign? : Char → Option Alignment
  | '<' => some left
  | '>' => some right
  | '^' => some center
  | '=' => some behindSign
  | _ => none

end Alignment

/-- A form of a value. -/
structure Form where
  fill : Char := ' '
  alignment : Alignment := .right
  /-- How numbers that are not below zero are marked. -/
  sign? : Option Char := none
  /-- Whether a number that is written as zero has no sign. -/
  dropsZeroSign : Bool := false
  /-- Whether the other form of a kind is meant. -/
  isAlternate : Bool := false
  width : Nat := 0
  /-- What stands between groups of digits. -/
  grouping? : Option Char := none
  /-- How many places or digits there are, or characters of a text. -/
  precision? : Option Nat := none
  /-- The kind of text. -/
  kind? : Option Char := none
  deriving DecidableEq, Repr

/-- Why a value cannot be set in a form. -/
inductive FormTrouble where
  | tooManyDigits
  | bothGroupings
  | groupingWith (grouping kind : Char)
  | noPrecision
  | unreadable (source typeName : String)
  | unknownKind (kind : Char) (typeName : String)
  /-- Something that is told in the form does not go with the kind of value. -/
  | notAllowed (what place : String)
  /-- Something that is told in the form does not go with its kind. -/
  | notAllowedWith (what place : String)
  | noCharacter
  /-- A whole number has too many digits to be written. -/
  | tooLong
  /-- A number is too large for a character, and for a machine. -/
  | tooWide
  | tooLarge
  deriving DecidableEq, Repr

namespace FormTrouble

/-- A character as it is named in a message: those that are no plain signs by their number. -/
def named (c : Char) : String :=
  if 32 < c.toNat ∧ c.toNat < 128 then "'" ++ c.toString ++ "'"
  else "'\\x" ++ String.ofList (Nat.toDigits 16 c.toNat) ++ "'"

/-- The fault of a form that does not fit. -/
def fault : FormTrouble → Fault
  | tooManyDigits => .withText "ValueError" "Too many decimal digits in format string"
  | bothGroupings => .withText "ValueError" "Cannot specify both ',' and '_'."
  | groupingWith grouping kind =>
    .withText "ValueError" ("Cannot specify '" ++ grouping.toString ++ "' with " ++ named kind ++
      ".")
  | noPrecision => .withText "ValueError" "Format specifier missing precision"
  | unreadable source typeName =>
    .withText "ValueError" ("Invalid format specifier '" ++ source ++ "' for object of type '" ++
      typeName ++ "'")
  | unknownKind kind typeName =>
    .withText "ValueError" ("Unknown format code " ++ named kind ++ " for object of type '" ++
      typeName ++ "'")
  | notAllowed what place => .withText "ValueError" (what ++ " not allowed in " ++ place)
  | notAllowedWith what place => .withText "ValueError" (what ++ " not allowed with " ++ place)
  | tooLong =>
    .withText "ValueError" ("Exceeds the limit (" ++ toString Numeral.maxDigits ++
      " digits) for integer string conversion; use sys.set_int_max_str_digits() to increase the " ++
      "limit")
  | noCharacter => .withText "OverflowError" "%c arg not in range(0x110000)"
  | tooWide => .withText "OverflowError" "Python int too large to convert to C long"
  | tooLarge => .withText "OverflowError" "int too large to convert to float"

end FormTrouble

namespace Form

/-- The number that some characters start with, and what follows it. -/
def number? (cs : List Char) : Option Nat × List Char :=
  let digits := cs.takeWhile fun c => (decimalValue? c).isSome
  if digits.isEmpty then (none, cs)
  else (some (Numeral.ofDigits (digits.filterMap decimalValue?)), cs.drop digits.length)

/-- The greatest number that stands in a form. -/
def maxNumber : Nat := 9223372036854775807

/-- The kinds of numbers whose digits can be grouped by commas. -/
def groupedKinds : List Char := ['d', 'e', 'f', 'g', 'E', 'G', '%', 'F']

/-- The kinds of numbers in a base whose digits can be grouped. -/
def basedKinds : List Char := ['b', 'o', 'x', 'X']

/-- Where a value stands, and what fills its room, as a form starts: whether each is told, and what
follows. -/
def readAlignment (base : Form) : List Char → Form × Bool × Bool × List Char
  | c :: d :: rest =>
    match Alignment.ofSign? d, Alignment.ofSign? c with
    | some a, _ => ({ base with fill := c, alignment := a }, true, true, rest)
    | none, some a => ({ base with alignment := a }, true, false, d :: rest)
    | none, none => (base, false, false, c :: d :: rest)
  | [c] =>
    match Alignment.ofSign? c with
    | some a => ({ base with alignment := a }, true, false, [])
    | none => (base, false, false, [c])
  | [] => (base, false, false, [])

/-- Whether the digits of the kind of a form can be grouped as it tells. `plain?` is the kind where
none is told. -/
def groupingTrouble? (form : Form) (plain? : Option Char) : Option FormTrouble :=
  match form.grouping?, form.kind?.or plain? with
  | none, _ => none
  | some _, none => none
  | some grouping, some kind =>
    if groupedKinds.contains kind || (basedKinds.contains kind && grouping == '_') then none
    else some (.groupingWith grouping kind)

/-- A form, given the type of the values that are set in it, where they stand, and their kind where
none is told. -/
def read (source : List Char) (typeName : String) (alignment : Alignment) (plain? : Option Char) :
    Except FormTrouble Form := do
  let (form, isAligned, isFilled, cs) := readAlignment { alignment } source
  let (sign?, cs) :=
    match cs with
    | c :: rest => if c = ' ' ∨ c = '+' ∨ c = '-' then (some c, rest) else (none, cs)
    | [] => (none, [])
  let (dropsZeroSign, cs) := if cs.head? == some 'z' then (true, cs.drop 1) else (false, cs)
  let (isAlternate, cs) := if cs.head? == some '#' then (true, cs.drop 1) else (false, cs)
  let form := { form with sign?, dropsZeroSign, isAlternate }
  let (form, cs) :=
    if !isFilled && cs.head? == some '0' then
      ({ form with
          fill := '0'
          alignment :=
            if !isAligned && alignment == .right then .behindSign else form.alignment },
        cs.drop 1)
    else (form, cs)
  let (width?, cs) := number? cs
  if maxNumber < width?.getD 0 then throw .tooManyDigits
  let (isComma, cs) := if cs.head? == some ',' then (true, cs.drop 1) else (false, cs)
  let (isLow, cs) := if cs.head? == some '_' then (true, cs.drop 1) else (false, cs)
  if isLow && (isComma || cs.head? == some ',') then throw .bothGroupings
  let (precision?, cs) ←
    match cs with
    | '.' :: rest =>
      match number? rest with
      | (some n, rest) =>
        if maxNumber < n then throw .tooManyDigits else pure (some n, rest)
      | (none, _) => throw .noPrecision
    | cs => pure (none, cs)
  if 1 < cs.length then throw (.unreadable (String.ofList source) typeName)
  let form := { form with
    width := width?.getD 0
    grouping? := if isComma then some ',' else if isLow then some '_' else none
    precision?
    kind? := cs.head? }
  match form.groupingTrouble? plain? with
  | some trouble => throw trouble
  | none => return form

/-- The greatest room that is filled. -/
def maxRoom : Nat := 100000

/-- What fills the room that something leaves. -/
def filler (form : Form) (length : Nat) : List Char :=
  List.replicate (min (form.width - length) maxRoom) form.fill

/-- Something in its room. -/
def placed (form : Form) (cs : List Char) : List Char :=
  let filler := form.filler cs.length
  match form.alignment with
  | .left => cs ++ filler
  | .center => filler.take (filler.length / 2) ++ cs ++ filler.drop (filler.length / 2)
  | _ => filler ++ cs

/-- Digits in groups, with zeros before them up to a width. -/
def grouped (separator : Char) (size width : Nat) (digits : List Char) : List Char :=
  let total (n : Nat) : Nat := n + (n - 1) / size
  let count :=
    ((List.range (width + 1)).find? fun n => digits.length ≤ n && width ≤ total n).getD
      digits.length
  let filled := List.replicate (count - digits.length) '0' ++ digits
  (filled.zipIdx.map fun (c, n) =>
    if n ≠ 0 ∧ (filled.length - n) % size = 0 then [separator, c] else [c]).flatten

/-- A number in its room: its sign, a mark before its digits, the digits before the point, and the
rest. -/
def placedNumber (form : Form) (size : Nat) (sign mark digits rest : List Char) : List Char :=
  let others := sign.length + mark.length + rest.length
  let width :=
    if form.fill = '0' && form.alignment = .behindSign then min (form.width - others) maxRoom
    else 0
  let digits :=
    match form.grouping? with
    | some separator => if digits.isEmpty then [] else grouped separator size width digits
    | none => digits
  match form.alignment with
  | .behindSign => sign ++ mark ++ form.filler (others + digits.length) ++ digits ++ rest
  | _ => form.placed (sign ++ mark ++ digits ++ rest)

/-- The sign of a number. -/
def signText (form : Form) (negative : Bool) : List Char :=
  if negative then ['-']
  else
    match form.sign? with
    | some '+' => ['+']
    | some ' ' => [' ']
    | _ => []

/-- A text in a form. -/
def ofText (source s : String) : Except FormTrouble String := do
  if source.isEmpty then return s
  let place := "string format specifier"
  let form ← read source.toList "str" .left (some 's')
  if form.kind?.getD 's' != 's' then throw (.unknownKind (form.kind?.getD 's') "str")
  match form.sign? with
  | some ' ' => throw (.notAllowed "Space" place)
  | some _ => throw (.notAllowed "Sign" place)
  | none => pure ()
  if form.dropsZeroSign then throw (.notAllowed "Negative zero coercion (z)" place)
  if form.isAlternate then throw (.notAllowed "Alternate form (#)" place)
  if form.alignment = .behindSign then throw (.notAllowed "'=' alignment" place)
  let cs :=
    match form.precision? with
    | some n => s.toList.take n
    | none => s.toList
  return String.ofList (form.placed cs)

/-- Letters of numbers in capitals. -/
def raised (cs : List Char) : List Char := cs.map Char.toUpper

/-- The digits before the point of a set number, and the rest. -/
def atPoint (cs : List Char) : List Char × List Char :=
  (cs.takeWhile Char.isDigit, cs.dropWhile Char.isDigit)

/-- A floating point number set for a form, without its sign. -/
def magnitudeText (form : Form) (x : Double) : List Char :=
  let kind := form.kind?.getD ' '
  let text :=
    match x with
    | .nan => "nan".toList
    | .infinite _ => "inf".toList
    | .finite _ m e =>
      let places := min (form.precision?.getD 6) maxRoom
      if kind = 'f' ∨ kind = 'F' ∨ kind = '%' then Double.fixed m e places form.isAlternate
      else if kind = 'e' ∨ kind = 'E' then Double.scientific m e places form.isAlternate
      else if kind = 'g' ∨ kind = 'G' ∨ kind = 'n' then
        Double.general m e places form.isAlternate false
      else if form.precision?.isSome then Double.general m e places form.isAlternate true
      else
        let text := (Double.text (.finite false m e)).toList
        if form.isAlternate && !text.contains '.' then
          text.takeWhile (· != 'e') ++ '.' :: text.dropWhile (· != 'e')
        else text
  let text := if kind = '%' then text ++ ['%'] else text
  if kind = 'E' ∨ kind = 'F' ∨ kind = 'G' then raised text else text

/-- Whether nothing but zeros is written. -/
def isZeroText (cs : List Char) : Bool :=
  (cs.takeWhile fun c => c != 'e' && c != 'E').all fun c => !c.isDigit || c == '0'

/-- The kinds of floating point numbers. -/
def doubleKinds : List Char := ['e', 'E', 'f', 'F', 'g', 'G', 'n', '%']

/-- A floating point number in a form that was read. -/
def setDouble (form : Form) (x : Double) : String :=
  let x := if form.kind? == some '%' then x.mul (Double.ofWhole 100) else x
  let text := form.magnitudeText x
  let negative := x.isNegative && !(form.dropsZeroSign && x.isFinite && isZeroText text)
  let (digits, rest) := atPoint text
  String.ofList (form.placedNumber 3 (form.signText negative) [] digits rest)

/-- A floating point number in a form. -/
def ofDouble (source : String) (x : Double) : Except FormTrouble String := do
  if source.isEmpty then return x.text
  let form ← read source.toList "float" .right none
  match form.kind? with
  | some kind => if !doubleKinds.contains kind then throw (.unknownKind kind "float")
  | none => pure ()
  return form.setDouble x

/-- The kinds of complex numbers. -/
def complexKinds : List Char := ['e', 'E', 'f', 'F', 'g', 'G', 'n']

/-- A complex number in a form. `plain` is its text where no form is told. Where no kind is told, a
real part that is zero is left away, and both parts stand in brackets otherwise. -/
def ofComplex (plain source : String) (real imaginary : Double) : Except FormTrouble String := do
  if source.isEmpty then return plain
  let form ← read source.toList "complex" .right none
  match form.kind? with
  | some kind => if !complexKinds.contains kind then throw (.unknownKind kind "complex")
  | none => pure ()
  let place := "complex format specifier"
  if form.fill = '0' then throw (.notAllowed "Zero padding is" place)
  if form.alignment = .behindSign then throw (.notAllowed "'=' alignment flag is" place)
  let isPlain := form.kind?.isNone
  let isAlone := isPlain && real.isZero && !real.isNegative
  let part (form : Form) (x : Double) : List Char :=
    let bare : Form := { form with width := 0, fill := ' ', alignment := .right }
    let cs :=
      if isPlain && form.precision?.isNone then
        let cs := form.magnitudeText x
        let length := cs.length - 2
        if cs.drop length = ['.', '0'] then
          (if form.isAlternate then cs.take (length + 1) else cs.take length)
        else cs
      else if isPlain then ({ form with kind? := some 'g' } : Form).magnitudeText x
      else form.magnitudeText x
    let negative := x.isNegative && !(form.dropsZeroSign && x.isFinite && isZeroText cs)
    let (digits, rest) := atPoint cs
    bare.placedNumber 3 (form.signText negative) [] digits rest
  let second := part (if isAlone then form else { form with sign? := some '+' }) imaginary
  let cs :=
    if isAlone then second ++ ['j']
    else if isPlain then '(' :: part form real ++ second ++ ['j', ')']
    else part form real ++ second ++ ['j']
  return String.ofList (form.placed cs)

/-- The base of a kind of whole numbers, and the mark of the base. -/
def baseOf (kind : Char) : Nat × List Char :=
  if kind = 'b' then (2, ['0', 'b'])
  else if kind = 'o' then (8, ['0', 'o'])
  else if kind = 'x' then (16, ['0', 'x'])
  else if kind = 'X' then (16, ['0', 'X'])
  else (10, [])

/-- A whole number as a character. -/
def setCharacter (form : Form) (n : Int) : Except FormTrouble String := do
  let place := "integer format specifier 'c'"
  if form.sign?.isSome then throw (.notAllowedWith "Sign" place)
  if form.isAlternate then throw (.notAllowedWith "Alternate form (#)" place)
  if Int.ofNat maxNumber < n ∨ n < -Int.ofNat maxNumber - 1 then throw .tooWide
  if n < 0 ∨ 0x110000 ≤ n then throw .noCharacter
  return String.ofList (form.placedNumber 3 [] [] [] [Char.ofNat n.toNat])

/-- Whether a whole number has too many decimal digits to be written. -/
def isTooLong (n : Int) : Bool := decide (Nat.pow 10 Numeral.maxDigits ≤ n.natAbs)

/-- A whole number in a form. `typeName` is the type of whole numbers that it is of. -/
def ofWhole (typeName source : String) (n : Int) : Except FormTrouble String := do
  let form ← read source.toList typeName .right (some 'd')
  let kind := form.kind?.getD 'd'
  if doubleKinds.contains kind && kind != 'n' then
    let x := Double.ofWhole n
    if x.isFinite then return form.setDouble x else throw .tooLarge
  if !(basedKinds.contains kind || kind = 'c' || kind = 'd' || kind = 'n') then
    throw (.unknownKind kind typeName)
  let place := "integer format specifier"
  if form.precision?.isSome then throw (.notAllowed "Precision" place)
  if form.dropsZeroSign then throw (.notAllowed "Negative zero coercion (z)" place)
  if kind = 'c' then form.setCharacter n
  else
    let (base, mark) := baseOf kind
    if base = 10 ∧ isTooLong n then throw .tooLong
    let digits := Nat.toDigits base n.natAbs
    let digits := if kind = 'X' then raised digits else digits
    return String.ofList (form.placedNumber (if base = 10 then 3 else 4)
      (form.signText (decide (n < 0))) (if form.isAlternate then mark else []) digits [])

end Form

end Vetting

import Vetting.Decimal.Arithmetic

/-!
# Vetting.Decimal.Fixed

Floating point numbers set with a given number of places after the point, or with a given number of
digits. The exact value of a number is rounded, a tie going to the even neighbour. All functions set
the magnitude of a finite number; signs are set by who uses them.
-/

namespace Vetting

namespace Double

/-- A whole number of the places behind the point. `keepsPoint` tells whether a point stands where
nothing is behind it. -/
def withPoint (n places : Nat) (keepsPoint : Bool) : List Char :=
  let digits := decimal n
  let filled := List.replicate (places + 1 - digits.length) '0' ++ digits
  let whole := filled.take (filled.length - places)
  let fraction := filled.drop (filled.length - places)
  if fraction.isEmpty && !keepsPoint then whole else whole ++ '.' :: fraction

/-- A number with a number of places after the point. -/
def fixed (significand : Nat) (exponent : Int) (places : Nat) (keepsPoint : Bool) : List Char :=
  withPoint (scaledDigits significand exponent (Int.ofNat places)) places keepsPoint

/-- The first digits of a number, `places` behind the first one, and the power of ten of the first
one. -/
def leadingDigits (significand : Nat) (exponent : Int) (places : Nat) : Nat × Int :=
  if significand = 0 then (0, 0)
  else
    let (n, d) := scale significand 1 exponent
    let power := digitsBeforePoint n d - 1
    let digits := scaledDigits significand exponent (Int.ofNat places - power)
    if tenTo (places + 1) ≤ digits then (digits / 10, power + 1) else (digits, power)

/-- The text of a power of ten: its sign and at least two digits. -/
def powerText (power : Int) : List Char :=
  let digits := decimal power.natAbs
  'e' :: (if power < 0 then '-' else '+') :: (List.replicate (2 - digits.length) '0' ++ digits)

/-- A number with one digit before the point, a number of places after it, and a power of ten. -/
def scientific (significand : Nat) (exponent : Int) (places : Nat) (keepsPoint : Bool) :
    List Char :=
  let (digits, power) := leadingDigits significand exponent places
  withPoint digits places keepsPoint ++ powerText power

/-- Digits with a point among them, without the zeros at their end. -/
def withoutZeros (text : List Char) : List Char :=
  if text.contains '.' then
    match text.reverse.dropWhile (· == '0') with
    | '.' :: rest => rest.reverse
    | rest => rest.reverse
  else text

/-- A number with a number of digits in all. Small and large numbers have a power of ten. `keepsAll`
tells whether zeros at the end and the point stay; `endsInZero` whether a whole number ends with a
point and a zero. -/
def general (significand : Nat) (exponent : Int) (count : Nat) (keepsAll endsInZero : Bool) :
    List Char :=
  let count := max count 1
  let (digits, power) := leadingDigits significand exponent (count - 1)
  let limit := if endsInZero then Int.ofNat count - 1 else Int.ofNat count
  let trim (text : List Char) : List Char := if keepsAll then text else withoutZeros text
  if power < -4 || limit ≤ power then
    trim (withPoint digits (count - 1) keepsAll) ++ powerText power
  else
    let places := (Int.ofNat count - 1 - power).toNat
    let text := trim (fixed significand exponent places keepsAll)
    if endsInZero && !text.contains '.' then text ++ ['.', '0'] else text

/-- A number in base sixteen, with a power of two: of a number that is not zero the digit before the
point is one, or zero for the smallest numbers. -/
def hexadecimal (significand : Nat) (exponent : Int) : List Char :=
  if significand = 0 then "0x0.0p+0".toList
  else
    let isSmall := significand < twoTo 52
    let digits := Nat.toDigits 16 (significand % twoTo 52)
    let power := exponent + 52
    (if isSmall then "0x0.".toList else "0x1.".toList) ++
      List.replicate (13 - digits.length) '0' ++ digits ++
      'p' :: (if power < 0 then '-' else '+') :: decimal power.natAbs

end Double

end Vetting

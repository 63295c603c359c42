/-!
# Vetting.Decimal.Double

Binary floating point numbers with a significand of 53 bits, kept exactly. A finite number is
`± significand * 2 ^ exponent` in one canonical form, so equal numbers are equal values of the
type. `Double.ofRatio` rounds a fraction to the nearest number, a tie to the even significand.
-/

namespace Vetting

/-- A floating point number. In `finite` the significand is below `2 ^ 53`, the exponent at least
`-1074`, and the significand at least `2 ^ 52` wherever the exponent is larger. -/
inductive Double where
  | finite (negative : Bool) (significand : Nat) (exponent : Int)
  | infinite (negative : Bool)
  | nan
  deriving DecidableEq, Repr, Inhabited

namespace Double

/-- A power of two. -/
def twoTo (k : Nat) : Nat := Nat.pow 2 k

/-- A power of ten. -/
def tenTo (k : Nat) : Nat := Nat.pow 10 k

/-- The least exponent. -/
def minExponent : Int := -1074

/-- The greatest exponent. -/
def maxExponent : Int := 971

/-- Zero, with its sign. -/
def zero (negative : Bool) : Double := .finite negative 0 minExponent

/-- `numerator / denominator`, times a power of two, as one fraction. -/
def scale (numerator denominator : Nat) (power : Int) : Nat × Nat :=
  if 0 ≤ power then (numerator * twoTo power.toNat, denominator)
  else (numerator, denominator * twoTo (-power).toNat)

/-- The whole number nearest to a fraction, a tie going to the even neighbour. -/
def nearestEven (numerator denominator : Nat) : Nat :=
  let quotient := numerator / denominator
  let twice := 2 * (numerator % denominator)
  if twice < denominator then quotient
  else if denominator < twice then quotient + 1
  else if quotient % 2 = 0 then quotient else quotient + 1

/-- The number nearest to a positive fraction. -/
def ofRatio (negative : Bool) (numerator denominator : Nat) : Double :=
  if numerator = 0 then zero negative
  else
    let guess : Int := Int.ofNat numerator.log2 - Int.ofNat denominator.log2 - 52
    let (n, d) := scale numerator denominator (-guess)
    let exponent := max (if n / d < twoTo 52 then guess - 1 else guess) minExponent
    let (n, d) := scale numerator denominator (-exponent)
    let rounded := nearestEven n d
    let (significand, exponent) :=
      if rounded = twoTo 53 then (twoTo 52, exponent + 1) else (rounded, exponent)
    if maxExponent < exponent then .infinite negative else .finite negative significand exponent

/-- The number nearest to `digits * 10 ^ power`. Powers far outside the range are not computed. -/
def ofDecimal (negative : Bool) (digits : Nat) (power : Int) : Double :=
  let magnitude := Int.ofNat (Nat.toDigits 10 digits).length + power
  if digits = 0 || magnitude < -330 then zero negative
  else if 310 < magnitude then .infinite negative
  else if 0 ≤ power then ofRatio negative (digits * tenTo power.toNat) 1
  else ofRatio negative digits (tenTo (-power).toNat)

/-- Whether the number is a zero of either sign. -/
def isZero : Double → Bool
  | .finite _ significand _ => significand == 0
  | _ => false

/-- The number with the other sign. -/
def negated : Double → Double
  | .finite negative significand exponent => .finite (!negative) significand exponent
  | .infinite negative => .infinite (!negative)
  | .nan => .nan

/-- The whole part of the magnitude of a finite number. -/
def wholeMagnitude (significand : Nat) (exponent : Int) : Nat :=
  if 0 ≤ exponent then significand * twoTo exponent.toNat else significand / twoTo (-exponent).toNat

end Double

end Vetting

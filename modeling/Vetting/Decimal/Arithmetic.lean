import Vetting.Decimal.Shortest

/-!
# Vetting.Decimal.Arithmetic

Arithmetic of floating point numbers. Each operation is the exact result, rounded once: finite
numbers are whole multiples of powers of two, so sums, products and remainders are computed on whole
numbers and then brought to the nearest number by `Double.ofDyadic`.

Comparisons are exact as well, also between a floating point number and a whole number of any size.
-/

namespace Vetting

namespace Double

/-- A whole number with a sign. -/
def signed (negative : Bool) (n : Nat) : Int := if negative then -Int.ofNat n else Int.ofNat n

/-- The number nearest to `magnitude * 2 ^ exponent`, with a sign. -/
def ofScaled (negative : Bool) (magnitude : Nat) (exponent : Int) : Double :=
  let (n, d) := scale magnitude 1 exponent
  ofRatio negative n d

/-- The number nearest to `n * 2 ^ exponent`. The sign of a zero is told apart. -/
def ofDyadic (zeroSign : Bool) (n exponent : Int) : Double :=
  if n = 0 then zero zeroSign else ofScaled (decide (n < 0)) n.natAbs exponent

/-- The number nearest to a whole number; infinite where it is too large. -/
def ofWhole (n : Int) : Double := ofDyadic false n 0

/-- One. -/
def one : Double := ofWhole 1

/-- Whether the number is below zero, or a zero with that sign. -/
def isNegative : Double → Bool
  | .finite negative _ _ => negative
  | .infinite negative => negative
  | .nan => false

/-- Whether the number is neither infinite nor undefined. -/
def isFinite : Double → Bool
  | .finite _ _ _ => true
  | _ => false

/-- The number without its sign. -/
def magnitude : Double → Double
  | .finite _ significand exponent => .finite false significand exponent
  | .infinite _ => .infinite false
  | .nan => .nan

/-- The number with a given sign. -/
def withSign (negative : Bool) : Double → Double
  | .finite _ significand exponent => .finite negative significand exponent
  | .infinite _ => .infinite negative
  | .nan => .nan

/-- A multiple of a power of two, as a multiple of a smaller one. -/
def lifted (n exponent low : Int) : Int := n * Int.ofNat (twoTo (exponent - low).toNat)

/-- The sum of two numbers. -/
def add : Double → Double → Double
  | .nan, _ => .nan
  | _, .nan => .nan
  | .infinite a, .infinite b => if a = b then .infinite a else .nan
  | .infinite a, _ => .infinite a
  | _, .infinite b => .infinite b
  | .finite a m e, .finite b n f =>
    let low := min e f
    ofDyadic (a && b) (lifted (signed a m) e low + lifted (signed b n) f low) low

/-- The difference of two numbers. -/
def sub (x y : Double) : Double := add x y.negated

/-- The product of two numbers. -/
def mul : Double → Double → Double
  | .nan, _ => .nan
  | _, .nan => .nan
  | .infinite a, y => if y.isZero then .nan else .infinite (a != y.isNegative)
  | x, .infinite b => if x.isZero then .nan else .infinite (x.isNegative != b)
  | .finite a m e, .finite b n f => ofScaled (a != b) (m * n) (e + f)

/-- The quotient of two numbers. What is not zero becomes infinite over zero. -/
def div : Double → Double → Double
  | .nan, _ => .nan
  | _, .nan => .nan
  | .infinite _, .infinite _ => .nan
  | .infinite a, y => .infinite (a != y.isNegative)
  | x, .infinite b => zero (x.isNegative != b)
  | .finite a m e, .finite b n f =>
    if n = 0 then (if m = 0 then .nan else .infinite (a != b))
    else
      let (p, q) := scale m n (e - f)
      ofRatio (a != b) p q

/-- The order of two numbers, if they have one. -/
def order? : Double → Double → Option Ordering
  | .nan, _ => none
  | _, .nan => none
  | .infinite a, .infinite b =>
    some (if a = b then .eq else if a then .lt else .gt)
  | .infinite a, _ => some (if a then .lt else .gt)
  | _, .infinite b => some (if b then .gt else .lt)
  | .finite a m e, .finite b n f =>
    let low := min e f
    some (compareOfLessAndEq (lifted (signed a m) e low) (lifted (signed b n) f low))

/-- The order of a whole number and a floating point number, if they have one. -/
def orderWhole? (n : Int) : Double → Option Ordering
  | .nan => none
  | .infinite negative => some (if negative then .gt else .lt)
  | .finite negative significand exponent =>
    let low := min exponent 0
    some (compareOfLessAndEq (lifted n 0 low) (lifted (signed negative significand) exponent low))

/-- Whether two numbers are equal. Zeros of both signs are, and what is undefined never is. -/
def equals (x y : Double) : Bool := order? x y == some .eq

/-- The whole number that a finite number is cut down to, towards zero. -/
def truncated? : Double → Option Int
  | .finite negative significand exponent =>
    some (signed negative (wholeMagnitude significand exponent))
  | _ => none

/-- The greatest whole number that is not above a finite number. -/
def floor? : Double → Option Int
  | .finite negative significand exponent =>
    let n := signed negative significand
    some (if 0 ≤ exponent then n * Int.ofNat (twoTo exponent.toNat)
      else Int.fdiv n (Int.ofNat (twoTo (-exponent).toNat)))
  | _ => none

/-- The least whole number that is not below a finite number. -/
def ceiling? (x : Double) : Option Int := (floor? x.negated).map (-·)

/-- The whole number nearest to a finite number, a tie going to the even neighbour. -/
def nearest? : Double → Option Int
  | .finite negative significand exponent =>
    let (n, d) := scale significand 1 exponent
    some (signed negative (nearestEven n d))
  | _ => none

/-- Whether the number is whole. -/
def isWhole (x : Double) : Bool :=
  match x.truncated? with
  | some n => orderWhole? n x == some .eq
  | none => false

/-- A finite number as a fraction in lowest terms. -/
def ratio? : Double → Option (Int × Nat)
  | .finite negative significand exponent =>
    let (n, d) := scale significand 1 exponent
    let divisor := Nat.gcd n d
    some (signed negative (n / divisor), d / divisor)
  | _ => none

/-- What is left of a first number after the second was taken away as often as it fits. It has the
sign of the first number. -/
def remainder : Double → Double → Double
  | .nan, _ => .nan
  | _, .nan => .nan
  | .infinite _, _ => .nan
  | x, .infinite _ => x
  | .finite a m e, .finite _ n f =>
    if n = 0 then .nan
    else
      let low := min e f
      let left := (lifted (Int.ofNat m) e low).toNat % (lifted (Int.ofNat n) f low).toNat
      ofScaled a left low

/-- What is left after a division whose quotient is brought down to a whole number. It has the sign
of the divisor. -/
def modulo (x y : Double) : Double :=
  let left := remainder x y
  if left.isZero then left.withSign y.isNegative
  else if left.isNegative != y.isNegative && left != .nan then add left y
  else left

/-- A number brought down to a whole number. -/
def floored (x : Double) : Double :=
  match x.floor? with
  | some n => ofDyadic x.isNegative n 0
  | none => x

/-- A quotient brought down to a whole number. -/
def floorDiv (x y : Double) : Double :=
  let left := remainder x y
  let exact := div (sub x left) y
  let quotient :=
    if !left.isZero && left.isNegative != y.isNegative && left != .nan then sub exact one else exact
  if quotient.isZero then zero (x.isNegative != y.isNegative)
  else
    let whole := floored quotient
    if order? (sub quotient whole) (ofRatio false 1 2) == some .gt then add whole one else whole

/-- A finite number as the whole number nearest to it times ten to a power of places, a tie going to
the even neighbour. -/
def scaledDigits (significand : Nat) (exponent places : Int) : Nat :=
  let (n, d) := scale significand 1 exponent
  if 0 ≤ places then nearestEven (n * tenTo places.toNat) d
  else nearestEven n (d * tenTo (-places).toNat)

/-- A number rounded to a number of places after the point. Nothing is done where no number has so
many places, and nothing is left where no number is so large. -/
def rounded (x : Double) (places : Int) : Double :=
  match x with
  | .finite negative significand exponent =>
    if 323 < places then x
    else if places < -308 then zero negative
    else ofDecimal negative (scaledDigits significand exponent places) (-places)
  | x => x

end Double

end Vetting

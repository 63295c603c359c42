import Vetting.Decimal.Arithmetic

/-!
# Vetting.Decimal.Power

Powers and square roots of floating point numbers. A power with a small whole exponent is exact,
rounded once; any other one goes through a logarithm and an exponential with far more binary places
than a number has, so that it is rounded from a value that is right well beyond the last place.
-/

namespace Vetting

namespace Double

/-- How many binary places logarithms and exponentials are worked out with. -/
def places : Nat := 320

/-- One, in these places. -/
def unit : Int := Int.ofNat (twoTo places)

/-- The product of two numbers in these places. -/
def timesPlaces (a b : Int) : Int := Int.fdiv (a * b) unit

/-- The sum of `z ^ (2 * k + 1) / (2 * k + 1)` from one `k` on, given the power that comes next. The
fuel is the number of terms. -/
def oddSeries (square : Int) : (fuel : Nat) → (k : Nat) → (term : Int) → Int
  | 0, _, _ => 0
  | fuel + 1, k, term =>
    Int.fdiv term (Int.ofNat (2 * k + 1)) + oddSeries square fuel (k + 1) (timesPlaces term square)

/-- The logarithm of a positive fraction between a half and two, in these places. -/
def logNearOne (n d : Nat) : Int :=
  let z := Int.fdiv ((Int.ofNat n - Int.ofNat d) * unit) (Int.ofNat (n + d))
  2 * oddSeries (timesPlaces z z) 110 0 z

/-- The logarithm of two, in these places. -/
def logTwo : Int := logNearOne 2 1

/-- The logarithm of `significand * 2 ^ exponent`, in these places. -/
def logOf (significand : Nat) (exponent : Int) : Int :=
  let size := significand.log2
  logNearOne significand (twoTo size) + (Int.ofNat size + exponent) * logTwo

/-- The sum of `z ^ k / k!` from one `k` on, given its term. The fuel is the number of terms. -/
def exponentialSeries (z : Int) : (fuel : Nat) → (k : Nat) → (term : Int) → Int
  | 0, _, _ => 0
  | fuel + 1, k, term =>
    term + exponentialSeries z fuel (k + 1) (Int.fdiv (timesPlaces term z) (Int.ofNat (k + 1)))

/-- The number nearest to the exponential of a number in these places. -/
def exponential (negative : Bool) (t : Int) : Double :=
  let shift := Int.fdiv t logTwo
  if 1100 < shift then .infinite negative
  else if shift < -1200 then zero negative
  else
    let sum := exponentialSeries (t - shift * logTwo) 110 0 unit
    ofScaled negative sum.toNat (shift - Int.ofNat places)

/-- A power of a positive number. -/
def positivePower (negative : Bool) (m : Nat) (e : Int) (y : Double) : Double :=
  match y with
  | .finite below n f =>
    let whole := wholeMagnitude n f
    if y.isWhole && decide (whole < 64) then
      let power := Nat.pow m whole
      if below then
        let (p, q) := scale 1 power (-e * Int.ofNat whole)
        ofRatio negative p q
      else ofScaled negative power (e * Int.ofNat whole)
    else
      let log := logOf m e
      let product := signed below n * log
      exponential negative
        (if 0 ≤ f then product * Int.ofNat (twoTo f.toNat)
          else Int.fdiv product (Int.ofNat (twoTo (-f).toNat)))
  | .infinite below =>
    match orderWhole? 1 (.finite false m e) with
    | some .eq => one.withSign negative
    | some .lt => if below then zero negative else .infinite negative
    | _ => if below then .infinite negative else zero negative
  | .nan => .nan

/-- Why a power is no number. -/
inductive PowerTrouble where
  /-- It is a power of zero, below zero. -/
  | ofZero
  /-- It is not real: a power of a number below zero that is not whole. -/
  | notReal
  /-- It is too large. -/
  | tooLarge
  deriving DecidableEq, Repr

/-- Whether the number is whole and odd. -/
def isOdd (x : Double) : Bool :=
  match x.truncated? with
  | some n => x.isWhole && n % 2 != 0
  | none => false

/-- A power of a number. -/
def power (x y : Double) : Except PowerTrouble Double :=
  if y.isZero then .ok one
  else
    match x, y with
    | .nan, _ => .ok .nan
    | x, .nan => .ok (if equals x one then one else .nan)
    | .infinite negative, y =>
      let sign := negative && y.isOdd
      .ok (if y.isNegative then zero sign else .infinite sign)
    | .finite negative m e, y =>
      let sign := negative && y.isOdd
      if m = 0 then
        if y.isNegative then .error .ofZero else .ok (zero sign)
      else if y.isFinite && negative && !y.isWhole then .error .notReal
      else
        let found := positivePower sign m e y
        if y.isFinite && !found.isFinite then .error .tooLarge else .ok found

/-- The greatest whole number whose square is not above another one. The fuel bounds the number of
binary digits of the root, and `root` holds those that are found. -/
def rootFrom (n : Nat) : (fuel : Nat) → (root : Nat) → Nat
  | 0, root => root
  | fuel + 1, root =>
    let next := root + twoTo fuel
    rootFrom n fuel (if next * next ≤ n then next else root)

/-- The greatest whole number whose square is not above another one. -/
def wholeRoot (n : Nat) : Nat := rootFrom n (n.log2 / 2 + 1) 0

/-- The number nearest to the square root of `n * 2 ^ (2 * exponent)`. -/
def rootOf (n : Nat) (exponent : Int) : Double :=
  let raised := n * twoTo 256
  let root := wholeRoot raised
  let isExact := root * root == raised
  ofScaled false (2 * root + (if isExact then 0 else 1)) (exponent - 129)

/-- The length of the hypotenuse over two sides. -/
def hypotenuse : Double → Double → Double
  | .infinite _, _ => .infinite false
  | _, .infinite _ => .infinite false
  | .nan, _ => .nan
  | _, .nan => .nan
  | .finite _ m e, .finite _ n f =>
    let low := min e f
    let p := (lifted (Int.ofNat m) e low).toNat
    let q := (lifted (Int.ofNat n) f low).toNat
    rootOf (p * p + q * q) low

end Double

end Vetting

import Vetting.Decimal.Power

/-!
# Vetting.Decimal.Angle

Angles of points and points of angles: sines, cosines and the angle of a point, and with them
natural exponentials and logarithms. All are worked out in the places of `Double.places` and rounded
once.
-/

namespace Vetting

namespace Double

/-- A finite number in the places of `places`, cut down. -/
def inPlaces (negative : Bool) (significand : Nat) (exponent : Int) : Int :=
  let power := exponent + Int.ofNat places
  if 0 ≤ power then signed negative significand * Int.ofNat (twoTo power.toNat)
  else Int.fdiv (signed negative significand) (Int.ofNat (twoTo (-power).toNat))

/-- The number nearest to one in the places of `places`. -/
def ofPlaces (n : Int) : Double := ofDyadic false n (-Int.ofNat places)

/-- The sum of the terms of a series whose signs take turns, from `k` on: each term is the one
before it times the square over two more whole numbers. The fuel is the number of terms. -/
def turningSeries (square : Int) : (fuel : Nat) → (k : Nat) → (term : Int) → Int
  | 0, _, _ => 0
  | fuel + 1, k, term =>
    let next := Int.fdiv (timesPlaces term square) (Int.ofNat ((k + 1) * (k + 2)))
    term - turningSeries square fuel (k + 2) next

/-- The sum of `z ^ (2 * k + 1) / (2 * k + 1)` with signs that take turns, from one `k` on, given
the power that comes next. The fuel is the number of terms. -/
def angleSeries (square : Int) : (fuel : Nat) → (k : Nat) → (term : Int) → Int
  | 0, _, _ => 0
  | fuel + 1, k, term =>
    Int.fdiv term (Int.ofNat (2 * k + 1)) -
      angleSeries square fuel (k + 1) (timesPlaces term square)

/-- The square root of a number in the places of `places`. -/
def rootInPlaces (n : Int) : Int := Int.ofNat (wholeRoot (n * unit).toNat)

/-- The tangent of half an angle, given the tangent of the angle. -/
def halfTangent (z : Int) : Int :=
  Int.fdiv (z * unit) (unit + rootInPlaces (unit + timesPlaces z z))

/-- The angle whose tangent is between zero and one. -/
def angleOfTangent (z : Int) : Int :=
  let z := halfTangent (halfTangent (halfTangent z))
  8 * angleSeries (timesPlaces z z) 60 0 z

/-- Half of a turn, in the places of `places`. -/
def halfTurn : Int := 4 * angleOfTangent unit

/-- The angle of a point whose coordinates are whole numbers that are not below zero, and not both
zero. -/
def angleOf (x y : Int) : Int :=
  if y ≤ x then angleOfTangent (Int.fdiv (y * unit) x)
  else Int.fdiv halfTurn 2 - angleOfTangent (Int.fdiv (x * unit) y)

/-- The angle of a point, between minus and plus half of a turn. -/
def angle (y x : Double) : Double :=
  let whole : Option Int :=
    match x, y with
    | .nan, _ | _, .nan => none
    | .infinite _, .infinite _ => some (angleOf 1 1)
    | .infinite _, _ => some 0
    | _, .infinite _ => some (Int.fdiv halfTurn 2)
    | .finite _ m e, .finite _ n f =>
      if n = 0 then some 0
      else if m = 0 then some (Int.fdiv halfTurn 2)
      else
        let low := min e f
        some (angleOf (lifted (Int.ofNat m) e low) (lifted (Int.ofNat n) f low))
  match whole with
  | none => .nan
  | some n =>
    let n := if x.isNegative then halfTurn - n else n
    if n < Int.ofNat (twoTo 200) then
      match x, y with
      | .finite _ _ _, .finite _ _ _ => (div y x).magnitude.withSign y.isNegative
      | _, _ => zero y.isNegative
    else (ofPlaces n).withSign y.isNegative

/-- What is left of an angle after full turns were taken away. -/
def withinTurn (t : Int) : Int := Int.fmod t (2 * halfTurn)

/-- The sine of a number. -/
def sine : Double → Double
  | .finite negative m e =>
    if m = 0 || decide (e < -140) then .finite negative m e
    else
      let t := withinTurn (inPlaces negative m e)
      ofPlaces (turningSeries (timesPlaces t t) 110 1 t)
  | _ => .nan

/-- The cosine of a number. -/
def cosine : Double → Double
  | .finite negative m e =>
    let t := withinTurn (inPlaces negative m e)
    ofPlaces (turningSeries (timesPlaces t t) 110 0 unit)
  | _ => .nan

/-- The natural exponential of a number. -/
def exponentialOf : Double → Double
  | .finite negative m e =>
    if 20 < e then (if negative then zero false else .infinite false)
    else exponential false (inPlaces negative m e)
  | .infinite negative => if negative then zero false else .infinite false
  | .nan => .nan

/-- The natural logarithm of a number; of zero it is minus infinity. -/
def logarithm : Double → Double
  | .finite negative m e =>
    if m = 0 then .infinite true
    else if negative then .nan
    else ofPlaces (logOf m e)
  | .infinite negative => if negative then .nan else .infinite false
  | .nan => .nan

end Double

end Vetting

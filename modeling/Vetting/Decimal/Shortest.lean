import Vetting.Decimal.Double

/-!
# Vetting.Decimal.Shortest

The shortest decimal text of a floating point number: the fewest digits that read back as the same
number, and of those the nearest to it. `Layout` holds how digits are set: which magnitudes are
written out in full and how an exponent looks.
-/

namespace Vetting

/-- Decimal digits as a whole number, and the power of ten of the last one. -/
structure DecimalDigits where
  digits : Nat
  power : Int
  deriving DecidableEq, Repr

namespace Double

/-- How many digits stand before the point of a positive fraction: `k` with
`10 ^ (k - 1) ≤ n / d < 10 ^ k`, zero or less for fractions below one. -/
def digitsBeforePoint (n d : Nat) : Int :=
  if d ≤ n then Int.ofNat (Nat.toDigits 10 (n / d)).length
  else
    match (List.range 400).find? fun k => d ≤ n * tenTo k with
    | some k => 1 - Int.ofNat k
    | none => -400

/-- The decimal of `count` digits that reads back as the number, the nearer of its two neighbours
where both do. -/
def withDigits? (significand : Nat) (exponent : Int) (count : Nat) : Option DecimalDigits :=
  let (n, d) := scale significand 1 exponent
  let point := digitsBeforePoint n d
  let power := point - Int.ofNat count
  let (n, d) := if 0 ≤ power then (n, d * tenTo power.toNat) else (n * tenTo (-power).toNat, d)
  let below := n / d
  let readsBack (digits : Nat) := ofDecimal false digits power == .finite false significand exponent
  let nearest := nearestEven n d
  let other := if nearest = below then below + 1 else below
  if readsBack nearest then some ⟨nearest, power⟩
  else if readsBack other then some ⟨other, power⟩
  else none

/-- The digits of the shortest decimal, as a whole number and the power of ten of its last digit. -/
def shortest (significand : Nat) (exponent : Int) : DecimalDigits :=
  match (List.range 17).findSome? fun k => withDigits? significand exponent (k + 1) with
  | some found => found
  | none => ⟨significand, exponent⟩

/-- How the digits of a number are set. -/
structure Layout where
  /-- Numbers from ten to this power on are written with an exponent. -/
  fullBelow : Int
  /-- Numbers below ten to this power are written with an exponent. -/
  fullFrom : Int
  /-- The least number of digits of an exponent. -/
  exponentWidth : Nat

/-- Numbers from `0.0001` to below `1e16` are written in full, a whole one with `.0`; an exponent
has a sign and at least two digits. -/
def layout : Layout := ⟨16, -4, 2⟩

/-- A whole number in decimal digits. -/
def decimal (n : Nat) : List Char := Nat.toDigits 10 n

/-- Digits without the zeros at their end. -/
def significant (digits : List Char) : List Char :=
  match (digits.reverse.dropWhile (· == '0')).reverse with
  | [] => ['0']
  | kept => kept

/-- The digits of a positive number, set by the layout. -/
def setDigits (style : Layout) (found : DecimalDigits) : List Char :=
  let all := decimal found.digits
  let point := found.power + Int.ofNat all.length
  let digits := significant all
  if style.fullFrom ≤ point - 1 && point - 1 < style.fullBelow then
    if point ≤ 0 then
      '0' :: '.' :: (List.replicate (-point).toNat '0' ++ digits)
    else
      let whole := digits.take point.toNat
      let filled := whole ++ List.replicate (point.toNat - whole.length) '0'
      let fraction := digits.drop point.toNat
      filled ++ '.' :: (if fraction.isEmpty then ['0'] else fraction)
  else
    let exponent := point - 1
    let power := decimal exponent.natAbs
    digits.take 1 ++ (if digits.length = 1 then [] else '.' :: digits.drop 1) ++
      'e' :: (if exponent < 0 then '-' else '+') ::
      (List.replicate (style.exponentWidth - power.length) '0' ++ power)

/-- The text of a number. -/
def text : Double → String
  | .nan => "nan"
  | .infinite negative => if negative then "-inf" else "inf"
  | .finite negative significand exponent =>
    let magnitude :=
      if significand = 0 then ['0', '.', '0'] else setDigits layout (shortest significand exponent)
    String.ofList (if negative then '-' :: magnitude else magnitude)

end Double

end Vetting

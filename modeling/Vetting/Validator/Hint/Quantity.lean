import Vetting.Decimal.Angle
import Vetting.Text.Scan
import Vetting.Fault
import Vetting.Validator.Hint.Expression

/-!
# Vetting.Validator.Hint.Quantity

The numbers that hints reckon with: whole numbers of any size, floating point numbers, and complex
numbers. An operator first brings both numbers to the wider of their kinds. `Quantity.operate` says
what an operator gives, or that numbers of these kinds do not have it.
-/

namespace Vetting

/-- A number. -/
inductive Quantity where
  | whole (n : Int)
  | pointed (x : Double)
  | complex (real imaginary : Double)
  deriving DecidableEq, Repr, Inhabited

namespace Quantity

/-- The name of the type of a number. -/
def typeName : Quantity → String
  | whole _ => "int"
  | pointed _ => "float"
  | complex _ _ => "complex"

/-- The fault of a division by zero, or of another operation that zero does not allow. -/
def zeroFault (message : String) : Fault := .withText "ZeroDivisionError" message

/-- The fault of a number that is too large. -/
def overflow (message : String) : Fault := .withText "OverflowError" message

/-- The fault of a power that is too large. -/
def rangeFault : Fault :=
  .raised "OverflowError" [.int 34, .text "Numerical result out of range"]

/-- A whole number as a floating point number. -/
def wholeAsDouble (n : Int) : Except Fault Double :=
  let x := Double.ofWhole n
  if x.isFinite then .ok x else .error (overflow "int too large to convert to float")

/-- A number that is not complex as a floating point number. -/
def asDouble : Quantity → Except Fault Double
  | whole n => wholeAsDouble n
  | pointed x => .ok x
  | complex real _ => .ok real

/-- A number as the real and the imaginary part of a complex number. -/
def asComplex : Quantity → Except Fault (Double × Double)
  | complex real imaginary => .ok (real, imaginary)
  | q => (asDouble q).map fun x => (x, Double.zero false)

/-- Whether a number is zero. -/
def isZero : Quantity → Bool
  | whole n => n == 0
  | pointed x => x.isZero
  | complex real imaginary => real.isZero && imaginary.isZero

/-- Whether two numbers are equal. -/
def equals : Quantity → Quantity → Bool
  | whole m, whole n => m == n
  | whole n, pointed x => Double.orderWhole? n x == some .eq
  | pointed x, whole n => Double.orderWhole? n x == some .eq
  | pointed x, pointed y => x.equals y
  | complex a b, complex c d => a.equals c && b.equals d
  | complex a b, whole n => b.isZero && Double.orderWhole? n a == some .eq
  | complex a b, pointed x => b.isZero && a.equals x
  | whole n, complex a b => b.isZero && Double.orderWhole? n a == some .eq
  | pointed x, complex a b => b.isZero && x.equals a

/-- Whether a first number is below a second one, if numbers of their kinds have an order. -/
def isBelow? : Quantity → Quantity → Option Bool
  | whole m, whole n => some (decide (m < n))
  | whole n, pointed x => some (Double.orderWhole? n x == some .lt)
  | pointed x, whole n => some (Double.orderWhole? n x == some .gt)
  | pointed x, pointed y => some (Double.order? x y == some .lt)
  | _, _ => none

/-! ### Whole numbers -/

/-- The numbers of which exactly the ones of `a` that are none of `b` are set. -/
def without (a b : Nat) : Nat := Nat.xor a (Nat.land a b)

/-- The digits in base two that are set in one of two numbers. -/
def bitOr : Int → Int → Int
  | .ofNat a, .ofNat b => .ofNat (Nat.lor a b)
  | .ofNat a, .negSucc b => .negSucc (without b a)
  | .negSucc a, .ofNat b => .negSucc (without a b)
  | .negSucc a, .negSucc b => .negSucc (Nat.land a b)

/-- The digits in base two that are set in both of two numbers. -/
def bitAnd : Int → Int → Int
  | .ofNat a, .ofNat b => .ofNat (Nat.land a b)
  | .ofNat a, .negSucc b => .ofNat (without a b)
  | .negSucc a, .ofNat b => .ofNat (without b a)
  | .negSucc a, .negSucc b => .negSucc (Nat.lor a b)

/-- The digits in base two that are set in just one of two numbers. -/
def bitXor : Int → Int → Int
  | .ofNat a, .ofNat b => .ofNat (Nat.xor a b)
  | .ofNat a, .negSucc b => .negSucc (Nat.xor a b)
  | .negSucc a, .ofNat b => .negSucc (Nat.xor a b)
  | .negSucc a, .negSucc b => .ofNat (Nat.xor a b)

/-- A power of a whole number. -/
def wholePower (m : Int) (n : Nat) : Int :=
  let size := Nat.pow m.natAbs n
  if m < 0 ∧ n % 2 = 1 then -Int.ofNat size else Int.ofNat size

/-- The greatest number of binary digits of a whole number that is worked out. -/
def maxDigits : Nat := 4000000

/-- Whether an operator on whole numbers gives a number that is too large to be worked out. -/
def isGiant (operator : BinaryOperator) : Quantity → Quantity → Bool
  | whole m, whole n =>
    match operator with
    | .left => m != 0 && decide (maxDigits < n.toNat)
    | .power => decide (1 < m.natAbs) && decide (maxDigits < m.natAbs.log2 * n.toNat)
    | _ => false
  | _, _ => false

/-- The quotient of two whole numbers as a floating point number. -/
def wholeQuotient (m n : Int) : Except Fault Quantity :=
  if n = 0 then .error (zeroFault "division by zero")
  else
    let x := Double.ofRatio (decide (m < 0) != decide (n < 0)) m.natAbs n.natAbs
    if x.isFinite then .ok (pointed x)
    else .error (overflow "integer division result too large for a float")

/-! ### Floating point numbers -/

/-- An operator between two floating point numbers, other than a power. -/
def doubleOperation? (operator : BinaryOperator) (x y : Double) : Option (Except Fault Quantity) :=
  let unlessZero (message : String) (z : Double) : Option (Except Fault Quantity) :=
    some (if y.isZero then .error (zeroFault message) else .ok (pointed z))
  match operator with
  | .plus => some (.ok (pointed (x.add y)))
  | .minus => some (.ok (pointed (x.sub y)))
  | .times => some (.ok (pointed (x.mul y)))
  | .divide => unlessZero "float division by zero" (x.div y)
  | .floor => unlessZero "float floor division by zero" (x.floorDiv y)
  | .remainder => unlessZero "float modulo" (x.modulo y)
  | _ => none

/-! ### Complex numbers -/

/-- The product of two complex numbers. -/
def complexProduct (a b c d : Double) : Double × Double :=
  ((a.mul c).sub (b.mul d), (a.mul d).add (b.mul c))

/-- The quotient of two complex numbers, if the second is not zero. The part of the divisor with the
greater magnitude is divided by. -/
def complexQuotient? (a b c d : Double) : Option (Double × Double) :=
  match Double.order? d.magnitude c.magnitude with
  | none => some (.nan, .nan)
  | some .gt =>
    let ratio := c.div d
    let scale := (c.mul ratio).add d
    some (((a.mul ratio).add b).div scale, ((b.mul ratio).sub a).div scale)
  | some _ =>
    if c.isZero then none
    else
      let ratio := d.div c
      let scale := c.add (d.mul ratio)
      some ((a.add (b.mul ratio)).div scale, (b.sub (a.mul ratio)).div scale)

/-- A power of a complex number with a whole exponent: the squares that the binary digits of the
exponent tell are multiplied. The fuel bounds the number of digits. -/
def complexPowers : (fuel n : Nat) → (found square : Double × Double) → Double × Double
  | 0, _, found, _ => found
  | fuel + 1, n, found, square =>
    if n = 0 then found
    else
      let found :=
        if n % 2 = 1 then complexProduct found.1 found.2 square.1 square.2 else found
      complexPowers fuel (n / 2) found (complexProduct square.1 square.2 square.1 square.2)

/-- A power of a complex number by its length and its angle. -/
def polarPower (a b c d : Double) : Except Fault (Double × Double) := do
  let length := a.hypotenuse b
  let raised ←
    match length.power c with
    | .ok x => pure x
    | .error .tooLarge => pure (Double.infinite false)
    | .error _ => throw (zeroFault "0.0 to a negative or complex power")
  let turn := Double.angle b a
  let phase := turn.mul c
  let (raised, phase) :=
    if d.isZero then (raised, phase)
    else (raised.div (turn.mul d).exponentialOf, phase.add (d.mul length.logarithm))
  if phase matches .infinite _ then throw (zeroFault "0.0 to a negative or complex power")
  return (raised.mul phase.cosine, raised.mul phase.sine)

/-- A power of a complex number. -/
def complexPower (a b c d : Double) : Except Fault Quantity := do
  let zeroPower := zeroFault "0.0 to a negative or complex power"
  let bound := Double.ofWhole 100
  let isSmall :=
    d.isZero && c.isWhole && Double.order? c.magnitude bound != some .gt
  let (real, imaginary) ←
    match isSmall, c.truncated? with
    | true, some n =>
      let found := complexPowers 8 n.natAbs (Double.one, Double.zero false) (a, b)
      if 0 < n then pure found
      else
        match complexQuotient? Double.one (Double.zero false) found.1 found.2 with
        | some found => pure found
        | none => throw zeroPower
    | _, _ =>
      if c.isZero && d.isZero then pure (Double.one, Double.zero false)
      else if a.isZero && b.isZero then
        if !d.isZero || c.isNegative then throw zeroPower
        else pure (Double.zero false, Double.zero false)
      else polarPower a b c d
  let isInfinite (x : Double) : Bool := x matches .infinite _
  if isInfinite real || isInfinite imaginary then throw (overflow "complex exponentiation")
  else return complex real imaginary

/-- An operator between two complex numbers. -/
def complexOperation? (operator : BinaryOperator) (a b c d : Double) :
    Option (Except Fault Quantity) :=
  match operator with
  | .plus => some (.ok (complex (a.add c) (b.add d)))
  | .minus => some (.ok (complex (a.sub c) (b.sub d)))
  | .times =>
    let (real, imaginary) := complexProduct a b c d
    some (.ok (complex real imaginary))
  | .divide =>
    some (match complexQuotient? a b c d with
      | some (real, imaginary) => .ok (complex real imaginary)
      | none => .error (zeroFault "complex division by zero"))
  | .power => some (complexPower a b c d)
  | _ => none

/-! ### All numbers -/

/-- A power of a floating point number: of a number below zero it may be complex. -/
def doublePower (x y : Double) : Except Fault Quantity :=
  match x.power y with
  | .ok z => .ok (pointed z)
  | .error .ofZero => .error (zeroFault "0.0 cannot be raised to a negative power")
  | .error .tooLarge => .error rangeFault
  | .error .notReal => complexPower x (Double.zero false) y (Double.zero false)

/-- An operator between two whole numbers, if they have it. -/
def wholeOperation? (operator : BinaryOperator) (m n : Int) : Option (Except Fault Quantity) :=
  let shifted (k : Nat) : Int := Int.ofNat (Nat.pow 2 k)
  match operator with
  | .or => some (.ok (whole (bitOr m n)))
  | .xor => some (.ok (whole (bitXor m n)))
  | .and => some (.ok (whole (bitAnd m n)))
  | .left =>
    some (if n < 0 then .error (.withText "ValueError" "negative shift count")
      else .ok (whole (if m = 0 then 0 else m * shifted n.toNat)))
  | .right =>
    some (if n < 0 then .error (.withText "ValueError" "negative shift count")
      else if m.natAbs.log2 + 1 < n.toNat then .ok (whole (if m < 0 then -1 else 0))
      else .ok (whole (Int.fdiv m (shifted n.toNat))))
  | .plus => some (.ok (whole (m + n)))
  | .minus => some (.ok (whole (m - n)))
  | .times => some (.ok (whole (m * n)))
  | .matrix => none
  | .divide => some (wholeQuotient m n)
  | .floor =>
    some (if n = 0 then .error (zeroFault "integer division or modulo by zero")
      else .ok (whole (Int.fdiv m n)))
  | .remainder =>
    some (if n = 0 then .error (zeroFault "integer modulo by zero")
      else .ok (whole (Int.fmod m n)))
  | .power =>
    some (if n < 0 then do doublePower (← wholeAsDouble m) (← wholeAsDouble n)
      else .ok (whole (wholePower m n.toNat)))

/-- An operator between two numbers, if they have it. -/
def operate? (operator : BinaryOperator) (p q : Quantity) : Option (Except Fault Quantity) :=
  match p, q with
  | whole m, whole n => wholeOperation? operator m n
  | complex _ _, _ | _, complex _ _ =>
    (complexOperation? operator .nan .nan .nan .nan).map fun _ => do
      let (a, b) ← p.asComplex
      let (c, d) ← q.asComplex
      (complexOperation? operator a b c d).getD (.ok p)
  | p, q =>
    match operator with
    | .power => some (do doublePower (← p.asDouble) (← q.asDouble))
    | operator =>
      (doubleOperation? operator .nan .nan).map fun _ => do
        let x ← p.asDouble
        let y ← q.asDouble
        (doubleOperation? operator x y).getD (.ok p)

/-- A number with the other sign. -/
def negated : Quantity → Quantity
  | whole n => whole (-n)
  | pointed x => pointed x.negated
  | complex real imaginary => complex real.negated imaginary.negated

/-- A number without its sign; of a complex one its length. -/
def magnitude : Quantity → Except Fault Quantity
  | whole n => .ok (whole (Int.ofNat n.natAbs))
  | pointed x => .ok (pointed x.magnitude)
  | complex real imaginary =>
    let length := real.hypotenuse imaginary
    if length.isFinite || !real.isFinite || !imaginary.isFinite then .ok (pointed length)
    else .error (overflow "absolute value too large")

/-- The quotient of two numbers brought down to a whole number, and what is left. -/
def divided? (p q : Quantity) : Option (Except Fault (Quantity × Quantity)) :=
  match p, q with
  | whole m, whole n =>
    some (if n = 0 then .error (zeroFault "integer division or modulo by zero")
      else .ok (whole (Int.fdiv m n), whole (Int.fmod m n)))
  | complex _ _, _ => none
  | _, complex _ _ => none
  | p, q => some (do
    let x ← p.asDouble
    let y ← q.asDouble
    if y.isZero then throw (zeroFault "float divmod()")
    else return (pointed (x.floorDiv y), pointed (x.modulo y)))

/-- A part of a complex number: a whole one without a point. -/
def partText (x : Double) : String :=
  let cs := x.text.toList
  String.ofList (((Text.after? ['0', '.'] cs.reverse).map List.reverse).getD cs)

/-- A complex number written out. A real part that is zero is left away. -/
def complexText (real imaginary : Double) : String :=
  if real.isZero && !real.isNegative then partText imaginary ++ "j"
  else
    let sign := if imaginary.isNegative then "" else "+"
    "(" ++ partText real ++ sign ++ partText imaginary ++ "j)"

/-- The fault of a number that no whole number is near to. -/
def notWhole (x : Double) : Fault :=
  if x matches .nan then .withText "ValueError" "cannot convert float NaN to integer"
  else overflow "cannot convert float infinity to integer"

/-- A whole number that is made of a floating point number. -/
def wholeOf (make : Double → Option Int) (x : Double) : Except Fault Int :=
  match make x with
  | some n => .ok n
  | none => .error (notWhole x)

/-- A whole number rounded to a power of ten, a tie going to the even multiple. -/
def roundedWhole (n : Int) (places : Nat) : Int :=
  let unit := Nat.pow 10 places
  Double.signed (decide (n < 0)) (Double.nearestEven n.natAbs unit * unit)

/-- The digits that numbers are told apart by: a prime number. -/
def hashModulus : Nat := Nat.pow 2 61 - 1

/-- The power of a number up to a prime number. The fuel bounds the number of binary digits of the
exponent. -/
def powerModulo (modulus : Nat) : (fuel exponent : Nat) → (base found : Nat) → Nat
  | 0, _, _, found => found
  | fuel + 1, exponent, base, found =>
    if exponent = 0 then found
    else
      powerModulo modulus fuel (exponent / 2) (base * base % modulus)
        (if exponent % 2 = 1 then found * base % modulus else found)

/-- What a fraction is told apart by: equal numbers have equal ones. -/
def hashOfRatio (negative : Bool) (n d : Nat) : Int :=
  let inverse := powerModulo hashModulus 64 (hashModulus - 2) (d % hashModulus) 1
  let found := Double.signed negative (n % hashModulus * inverse % hashModulus)
  if found = -1 then -2 else found

/-- What a floating point number is told apart by, if it is defined. -/
def hashOfDouble? : Double → Option Int
  | .finite negative m e =>
    let (n, d) := Double.scale m 1 e
    some (hashOfRatio negative n d)
  | .infinite negative => some (if negative then -314159 else 314159)
  | .nan => none

/-- What a number is told apart by, if it is defined. -/
def hash? : Quantity → Option Int
  | whole n => some (hashOfRatio (decide (n < 0)) n.natAbs 1)
  | pointed x => hashOfDouble? x
  | complex real imaginary =>
    match hashOfDouble? real, hashOfDouble? imaginary with
    | some a, some b =>
      let found := (a + 1000003 * b) % Int.ofNat (Nat.pow 2 64)
      let found :=
        if Int.ofNat (Nat.pow 2 63) ≤ found then found - Int.ofNat (Nat.pow 2 64) else found
      some (if found = -1 then -2 else found)
    | _, _ => none

end Quantity

end Vetting

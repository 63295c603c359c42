import Vetting.Decimal.Arithmetic
import Vetting.Fault.Details

/-!
# Vetting.Fault.Telling

Details that cannot be told. A trace shows the line of a syntax error, with a mark below it; the
line and the mark are details that nobody has looked at before, and telling them is what fails.
`Details.lineMisfit?` is what is raised then, and `Details.positionMisfit?` what is raised where a
coding fault is to name a character in front of its text.
-/

namespace Vetting

namespace Details

/-- The whole number that a detail counts as. -/
def whole? : Value → Option Int
  | .int n => some n
  | .bool b => some (if b then 1 else 0)
  | _ => none

/-- How a whole number compares with a detail, if it does. -/
def order? (n : Int) : Value → Option Ordering
  | .float x => Double.orderWhole? n x
  | v => (whole? v).map fun m => compareOfLessAndEq n m

/-- Whether a detail is the number that is undefined. -/
def isUndefined : Value → Bool
  | .float x => x == .nan
  | _ => false

/-- Whether the mark of a syntax error starts and stops at one place. -/
def isOnePlace (start stop : Value) : Bool :=
  match start, stop with
  | .text s, .text t => s == t
  | .float x, .float y => x.equals y
  | .float x, v => ((whole? v).map fun n => Double.orderWhole? n x == some .eq).getD false
  | v, w => ((whole? v).map fun n => order? n w == some .eq).getD false

/-- Whether the mark of a syntax error covers one character: it stops where it starts, or nothing is
known of where it stops. A start that is undefined is not even equal to itself. -/
def isPoint (start stop : Value) : Bool :=
  if stop matches .null || order? 0 stop == some .eq then !isUndefined start
  else isOnePlace start stop || order? (-1) stop == some .eq

/-- What is raised for an operator between a detail that is no number and a whole number. -/
def operandMisfit (sign : String) (v : Value) : Misfit :=
  let joins : Bool := match v with
    | .text _ | .list _ => sign == "+"
    | _ => false
  if joins then
    ("TypeError", "can only concatenate " ++ v.typeName ++ " (not \"int\") to " ++ v.typeName)
  else
    ("TypeError",
      "unsupported operand type(s) for " ++ sign ++ ": '" ++ v.typeName ++ "' and 'int'")

/-- Whether a detail is a number. -/
def isNumber (v : Value) : Bool :=
  match v with
  | .float _ => true
  | v => (whole? v).isSome

/-- What is raised for a mark that starts and stops at numbers, below a line from which `indent`
characters were cut. A mark that starts within them is not shown. -/
def widthMisfit? (indent : Nat) (start stop : Value) : Option Misfit :=
  match order? (indent + 1) start with
  | none | some .gt => none
  | some _ =>
    match whole? start with
    | none =>
      some ("TypeError", "slice indices must be integers or None or have an __index__ method")
    | some first =>
      if isPoint start stop then none
      else
        match whole? stop with
        | none => some ("TypeError", "can't multiply sequence by non-int of type 'float'")
        | some last =>
          if DetailForm.fitsWord (last - first) then none
          else some ("OverflowError", "cannot fit 'int' into an index-sized integer")

/-- What is raised for the mark below a line from which `indent` characters were cut. -/
def markMisfit? (indent : Nat) (start stop : Value) : Option Misfit :=
  match start, stop with
  | .null, _ => none
  | _, .list _ | _, .object _ => some ("TypeError", "unhashable type: '" ++ stop.typeName ++ "'")
  | start, stop =>
    if !isNumber start then
      some (operandMisfit (if isPoint start stop then "+" else "-") start)
    else if !isPoint start stop && stop matches .text _ then some (operandMisfit "-" stop)
    else widthMisfit? indent start stop

/-- How many characters are cut from the start of a line that is shown. -/
def indentOf (line : List Char) : Nat :=
  let ended := (line.reverse.dropWhile (· == '\n')).reverse
  (ended.takeWhile fun c => c == ' ' || c == '\n' || c == Char.ofNat 12).length

/-- What is raised where the line of a syntax error is shown with a mark below it. -/
def lineMisfit? (details : Details) : Option Misfit :=
  match details with
  | [_, place] =>
    match placeParts? place with
    | some (_ :: _ :: start :: line :: more) =>
      match line with
      | .null => none
      | .text line => markMisfit? (indentOf line.toList) start ((more[1]?).getD .null)
      | line =>
        some ("AttributeError", "'" ++ line.typeName ++ "' object has no attribute 'rstrip'")
    | _ => none
  | _ => none

/-- The file of a syntax error that has no line, in brackets. -/
def fileAlone (details : Details) : String :=
  match details with
  | [_, place] =>
    match placeParts? place with
    | some (.null :: _) => ""
    | some (file :: .null :: _) => " (" ++ file.plain ++ ")"
    | _ => ""
  | _ => ""

/-- What is raised where a coding fault is to name the one character before the start of its
text. -/
def positionMisfit? (kind : String) (details : Details) : Option Misfit :=
  match kind, details with
  | "UnicodeEncodeError", [_, .text _, start, stop, _]
  | "UnicodeTranslateError", [.text _, start, stop, _] =>
    if position start < 0 && position stop == position start + 1 then
      some ("SystemError",
        "<built-in method __format__ of " ++ kind ++
          " object> returned a result with an exception set")
    else none
  | _, _ => none

end Details

end Vetting

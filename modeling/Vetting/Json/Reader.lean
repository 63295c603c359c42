import Vetting.Decimal.Numeral
import Vetting.Text.Scan
import Vetting.Value

/-!
# Vetting.Json.Reader

Reading a value from JSON text. Beside the standard's values the reader takes `NaN`, `Infinity`
and `-Infinity`. Only space, tab, carriage return and line feed count as blanks; a control
character inside a string is refused; of two fields with one key the later value stands at the
earlier place. Every reader returns what it read and the text that is left. Lists and objects may
stand in one another up to a depth of `maxNesting`; `ReadTrouble` tells a text that goes deeper from
one that is malformed.
-/

namespace Vetting.Json

/-- A reader: the value it reads at the start of the text and what is left. -/
abbrev Reader (α : Type) := List Char → Option (α × List Char)

/-- Why no value is read. -/
inductive ReadTrouble where
  /-- The text does not follow the grammar. -/
  | malformed
  /-- Too many lists and objects stand in one another; the innermost is an object or a list. -/
  | tooDeep (isObject : Bool)
  deriving DecidableEq, Repr

/-- A reader of parts that hold one another: `room` more lists and objects may be opened. -/
abbrev NestedReader (α : Type) := (room : Nat) → List Char → Except ReadTrouble (α × List Char)

/-- How many lists and objects may stand in one another. -/
def maxNesting : Nat := 987

/-- What a reader without depth gives, where a value is asked for. -/
def required (found : Option (α × List Char)) : Except ReadTrouble (α × List Char) :=
  match found with
  | some found => .ok found
  | none => .error .malformed

/-- Blanks between the parts of a value. -/
def isGap (c : Char) : Bool := c == ' ' || c == '\t' || c == '\n' || c == '\r'

/-- The text without the blanks it starts with. -/
def skip (text : List Char) : List Char := text.dropWhile isGap

/-- The number written by four hexadecimal digits. -/
def fourHex? (a b c d : Char) : Option Nat :=
  match Text.hexValue? a, Text.hexValue? b, Text.hexValue? c, Text.hexValue? d with
  | some w, some x, some y, some z => some (((w * 16 + x) * 16 + y) * 16 + z)
  | _, _, _, _ => none

/-- The character of a code unit that stands alone; half a pair becomes the replacement
character. -/
def loneUnit (n : Nat) : Char :=
  if 0xD800 ≤ n && n < 0xE000 then Char.ofNat 0xFFFD else Char.ofNat n

/-- The character that a one-letter escape stands for. -/
def escape? : Char → Option Char
  | '"' => some '"'
  | '\\' => some '\\'
  | '/' => some '/'
  | 'b' => some (Char.ofNat 8)
  | 'f' => some (Char.ofNat 12)
  | 'n' => some '\n'
  | 'r' => some '\r'
  | 't' => some '\t'
  | _ => none

/-- A high code unit and the low one that completes it. -/
def joinPair? (high low : Nat) : Option Char :=
  if 0xD800 ≤ high && high < 0xDC00 && 0xDC00 ≤ low && low < 0xE000 then
    some (Char.ofNat (0x10000 + (high - 0xD800) * 0x400 + (low - 0xDC00)))
  else none

/-- The rest of a string after its opening quote; `before` holds what was read, last first. -/
def stringBody (before : List Char) : Reader (List Char)
  | [] => none
  | '"' :: rest => some (before.reverse, rest)
  | '\\' :: 'u' :: a :: b :: c :: d :: '\\' :: 'u' :: e :: f :: g :: h :: rest =>
    match fourHex? a b c d with
    | none => none
    | some high =>
      match (fourHex? e f g h).bind (joinPair? high) with
      | some joined => stringBody (joined :: before) rest
      | none => stringBody (loneUnit high :: before) ('\\' :: 'u' :: e :: f :: g :: h :: rest)
  | '\\' :: 'u' :: a :: b :: c :: d :: rest =>
    match fourHex? a b c d with
    | none => none
    | some n => stringBody (loneUnit n :: before) rest
  | '\\' :: c :: rest =>
    match escape? c with
    | none => none
    | some e => stringBody (e :: before) rest
  | c :: rest => if c.toNat < 32 then none else stringBody (c :: before) rest
termination_by text => text.length

/-- The digits at the start of the text. -/
def digits (text : List Char) : List Char × List Char :=
  (text.takeWhile Char.isDigit, text.dropWhile Char.isDigit)

/-- The number written by ASCII digits. -/
def number (text : List Char) : Nat := text.foldl (fun n c => 10 * n + (c.toNat - 48)) 0

/-- The whole part of a number: a zero alone, or digits that do not start with one. -/
def wholePart : Reader (List Char)
  | '0' :: rest => some (['0'], rest)
  | c :: rest => if c.isDigit then some (digits (c :: rest)) else none
  | [] => none

/-- The digits after the point, where there is a point with digits after it. -/
def fractionPart : List Char → Option (List Char) × List Char
  | '.' :: c :: rest =>
    if c.isDigit then
      let (found, rest) := digits (c :: rest)
      (some found, rest)
    else (none, '.' :: c :: rest)
  | text => (none, text)

/-- The exponent, where a letter, maybe a sign, and digits follow. -/
def exponentPart (text : List Char) : Option Int × List Char :=
  let signed (negative : Bool) (rest : List Char) : Option Int × List Char :=
    match digits rest with
    | ([], _) => (none, text)
    | (found, rest) =>
      let n := Int.ofNat (number found)
      (some (if negative then -n else n), rest)
  match text with
  | c :: rest =>
    if c == 'e' || c == 'E' then
      match rest with
      | '+' :: rest => signed false rest
      | '-' :: rest => signed true rest
      | rest => signed false rest
    else (none, text)
  | [] => (none, text)

/-- A number after its sign. A whole number without point and exponent stays whole. -/
def unsignedNumber (negative : Bool) : Reader Value := fun text => do
  let (whole, rest) ← wholePart text
  let (fraction, rest) := fractionPart rest
  let (exponent, rest) := exponentPart rest
  if fraction.isNone && exponent.isNone then
    if Numeral.maxDigits < whole.length then none
    else
      let n := Int.ofNat (number whole)
      some (.int (if negative then -n else n), rest)
  else
    let fraction := fraction.getD []
    let power := exponent.getD 0 - Int.ofNat fraction.length
    some (.float (Double.ofDecimal negative (number (whole ++ fraction)) power), rest)

/-- A value that is neither list, object nor string. -/
def scalar : Reader Value
  | 'n' :: 'u' :: 'l' :: 'l' :: rest => some (.null, rest)
  | 't' :: 'r' :: 'u' :: 'e' :: rest => some (.bool true, rest)
  | 'f' :: 'a' :: 'l' :: 's' :: 'e' :: rest => some (.bool false, rest)
  | 'N' :: 'a' :: 'N' :: rest => some (.float .nan, rest)
  | 'I' :: 'n' :: 'f' :: 'i' :: 'n' :: 'i' :: 't' :: 'y' :: rest =>
    some (.float (.infinite false), rest)
  | '-' :: 'I' :: 'n' :: 'f' :: 'i' :: 'n' :: 'i' :: 't' :: 'y' :: rest =>
    some (.float (.infinite true), rest)
  | '-' :: rest => unsignedNumber true rest
  | text => unsignedNumber false text

mutual

/-- A value. The fuel bounds the number of nested and following values. -/
def value : (fuel : Nat) → NestedReader Value
  | 0, _, _ => .error .malformed
  | fuel + 1, room, text =>
    match text with
    | '"' :: rest => do
      let (s, rest) ← required (stringBody [] rest)
      return (.text (String.ofList s), rest)
    | '[' :: rest =>
      match room with
      | 0 => .error (.tooDeep false)
      | room + 1 =>
        match skip rest with
        | ']' :: rest => .ok (.list [], rest)
        | rest => do
          let (vs, rest) ← items fuel room rest
          return (.list vs, rest)
    | '\x7b' :: rest =>
      match room with
      | 0 => .error (.tooDeep true)
      | room + 1 =>
        match skip rest with
        | '\x7d' :: rest => .ok (.object [], rest)
        | rest => do
          let (fs, rest) ← fields fuel [] room rest
          return (.object fs, rest)
    | _ => required (scalar text)

/-- The items of a list up to its closing bracket. -/
def items : (fuel : Nat) → NestedReader (List Value)
  | 0, _, _ => .error .malformed
  | fuel + 1, room, text => do
    let (v, rest) ← value fuel room text
    match skip rest with
    | ']' :: rest => return ([v], rest)
    | ',' :: rest =>
      let (vs, rest) ← items fuel room (skip rest)
      return (v :: vs, rest)
    | _ => .error .malformed

/-- The fields of an object up to its closing brace, added to those read before. -/
def fields : (fuel : Nat) → List (String × Value) → NestedReader (List (String × Value))
  | 0, _, _, _ => .error .malformed
  | fuel + 1, before, room, text =>
    match text with
    | '"' :: rest => do
      let (key, rest) ← required (stringBody [] rest)
      match skip rest with
      | ':' :: rest =>
        let (v, rest) ← value fuel room (skip rest)
        let before := Value.setField before (String.ofList key) v
        match skip rest with
        | '\x7d' :: rest => return (before, rest)
        | ',' :: rest => fields fuel before room (skip rest)
        | _ => .error .malformed
      | _ => .error .malformed
    | _ => .error .malformed

end

/-- The value that a whole JSON text stands for, or why there is none. -/
def read (text : List Char) : Except ReadTrouble Value := do
  let (v, rest) ← value (text.length + 1) maxNesting (skip text)
  if (skip rest).isEmpty then return v else .error .malformed

/-- The value that a whole JSON text stands for, if there is one. -/
def read? (text : List Char) : Option Value := (read text).toOption

end Vetting.Json

import Vetting.Form
import Vetting.Validator.Hint.Typing

/-!
# Vetting.Validator.Hint.Wording

How things are put into texts. A thing has a plain text, and a text in a form; and a text can be a
pattern whose marks, each a sign of percent with a letter, stand for arguments in their order, or
for the values of a mapping.
-/

namespace Vetting

namespace HintValue

/-- The name of the type of an argument as some messages tell it: of nothing itself. -/
def argumentTypeName (program : Program) (v : HintValue) : String :=
  if v matches .value .null then "None" else program.typeName v

/-- The plain text of a thing, as it is put into other texts. -/
def plainText (program : Program) : HintValue → String
  | .value v => v.plain
  | .verdict _ passed message =>
    let status := if passed.truthy then "PASS" else "FAIL"
    if message.truthy then
      status ++ " - " ++
        (match message with
          | .value v => v.plain
          | v => program.shown v)
    else status
  | .unraised kind arguments =>
    match asValues? arguments, arguments with
    | some details, _ => (Fault.raised kind details).message
    | none, [v] => program.shown v
    | none, vs => program.shown (.tuple vs)
  | v => program.shown v

/-- The fault of a whole number that has too many digits to be written. -/
def tooManyDigits : Fault := FormTrouble.tooLong.fault

mutual

/-- Whether something can be written: whole numbers have a greatest number of digits. -/
def isWritable : HintValue → Bool
  | .value (.int n) => !Form.isTooLong n
  | .list vs | .tuple vs | .set vs | .frozenset vs | .unraised _ vs | .supply _ vs => allWritable vs
  | .range first step last _ =>
    !Form.isTooLong first && !Form.isTooLong step && !Form.isTooLong last
  | .mapping entries => entriesWritable entries
  | .slice first last step => isWritable first && isWritable last && isWritable step
  | .verdict _ passed message => isWritable passed && isWritable message
  | _ => true

/-- Whether some things can all be written. -/
def allWritable : List HintValue → Bool
  | [] => true
  | v :: rest => isWritable v && allWritable rest

/-- Whether some entries can all be written. -/
def entriesWritable : List (HintValue × HintValue) → Bool
  | [] => true
  | (key, v) :: rest => isWritable key && isWritable v && entriesWritable rest

end

/-- The plain text of a thing, if it can be written. -/
def written (program : Program) (v : HintValue) : Except Fault String :=
  if v.isWritable then .ok (plainText program v) else .error tooManyDigits

/-- The full text of a thing, if it can be written. -/
def writtenOut (program : Program) (v : HintValue) : Except Fault String :=
  if v.isWritable then .ok (program.shown v) else .error tooManyDigits

/-- A written text in basic characters alone: all others by their numbers. -/
def inBasicCharacters (s : String) : String :=
  let digits (n width : Nat) : List Char :=
    let found := Nat.toDigits 16 n
    List.replicate (width - found.length) '0' ++ found
  String.ofList (s.toList.flatMap fun c =>
    let n := c.toNat
    if n < 128 then [c]
    else if n < 256 then '\\' :: 'x' :: digits n 2
    else if n < 65536 then '\\' :: 'u' :: digits n 4
    else '\\' :: 'U' :: digits n 8)

/-- The fault of a form that does not go with a thing. -/
def formFault {α : Type} : Except FormTrouble α → Except Fault α
  | .ok a => .ok a
  | .error trouble => .error trouble.fault

/-- The text of a thing in a form. -/
def formed (program : Program) (v : HintValue) (form : String) : Except Fault String :=
  let general : Except Fault String :=
    if form.isEmpty then written program v
    else
      .error (mismatch ("unsupported format string passed to " ++ program.typeName v ++
        ".__format__"))
  match v, v.quantity? with
  | .value (.text s), _ => formFault (Form.ofText form s)
  | _, some (.whole n) =>
    if form.isEmpty then written program v
    else formFault (Form.ofWhole (program.typeName v) form n)
  | _, some (.pointed x) => formFault (Form.ofDouble form x)
  | _, some (.complex real imaginary) =>
    formFault (Form.ofComplex (plainText program v) form real imaginary)
  | _, _ => general

/-- A thing as a text of the kind that a letter tells. -/
def converted (program : Program) (conversion? : Option Char) (v : HintValue) :
    Except Fault HintValue :=
  match conversion? with
  | some 'r' => (writtenOut program v).map text
  | some 'a' => (writtenOut program v).map fun s => text (inBasicCharacters s)
  | some _ => (written program v).map text
  | none => .ok v

/-! ### Patterns -/

/-- A number in a mark: none, a given one, or one that an argument tells. -/
inductive MarkNumber where
  | absent
  | given (n : Nat)
  | asked
  deriving DecidableEq, Repr

/-- A mark in a pattern. -/
structure PatternMark where
  /-- The key of the value that the mark stands for. -/
  key? : Option String := none
  flags : List Char := []
  width : MarkNumber := .absent
  precision : MarkNumber := .absent
  /-- What kind of text the mark stands for. -/
  letter : Char
  deriving Repr

/-- The fault of a pattern that ends within a mark. -/
def incomplete : Fault := .withText "ValueError" "incomplete format"

/-- A key up to the bracket that closes it, and what follows. -/
def markKey? (depth : Nat) : List Char → Option (List Char × List Char)
  | [] => none
  | c :: rest =>
    if c = ')' ∧ depth = 0 then some ([], rest)
    else
      let depth := if c = '(' then depth + 1 else if c = ')' then depth - 1 else depth
      (markKey? depth rest).map fun (key, rest) => (c :: key, rest)

/-- The number that a mark goes on with, and what follows. -/
def markNumber : List Char → MarkNumber × List Char
  | '*' :: rest => (.asked, rest)
  | cs =>
    let digits := cs.takeWhile Char.isDigit
    if digits.isEmpty then (.absent, cs)
    else (.given (Numeral.ofDigits (digits.map fun c => c.toNat - 48)), cs.drop digits.length)

/-- The mark that stands behind a sign of percent, and what follows it. -/
def readMark (cs : List Char) : Except Fault (PatternMark × List Char) := do
  let (key?, cs) ←
    match cs with
    | '(' :: rest =>
      match markKey? 0 rest with
      | some (key, rest) => pure (some (String.ofList key), rest)
      | none => throw (.withText "ValueError" "incomplete format key")
    | cs => pure (none, cs)
  let isFlag (c : Char) : Bool := ['-', '+', ' ', '#', '0'].contains c
  let flags := cs.takeWhile isFlag
  let (width, cs) := markNumber (cs.dropWhile isFlag)
  let (precision, cs) :=
    match cs with
    | '.' :: rest =>
      let (n, rest) := markNumber rest
      (if n = .absent then .given 0 else n, rest)
    | cs => (.absent, cs)
  let cs :=
    match cs with
    | c :: rest => if c = 'h' ∨ c = 'l' ∨ c = 'L' then rest else cs
    | [] => []
  match cs with
  | [] => throw incomplete
  | letter :: rest => return ({ key?, flags, width, precision, letter }, rest)

/-- The fault of a mark for a whole number that stands for something else. -/
def notWholeFault (program : Program) (letter : Char) (wanted : String) (v : HintValue) : Fault :=
  mismatch ("%" ++ letter.toString ++ " format: " ++ wanted ++ " is required, not " ++
    program.typeName v)

/-- The whole number that a mark with a letter stands for. -/
def markWhole (program : Program) (letter : Char) (v : HintValue) : Except Fault Int :=
  let isBased := letter = 'x' ∨ letter = 'X' ∨ letter = 'o'
  match v.quantity? with
  | some (.whole n) => .ok n
  | some (.pointed x) =>
    if isBased then .error (notWholeFault program letter "an integer" v)
    else Quantity.wholeOf Double.truncated? x
  | _ =>
    .error (notWholeFault program letter (if isBased then "an integer" else "a real number") v)

/-- The sign, the mark before the digits and the digits of a number that a mark stands for, or a
text without them. -/
def markText (program : Program) (isOfBytes : Bool) (mark : PatternMark)
    (precision? : Option Nat) (v : HintValue) :
    Except Fault (List Char × List Char × List Char) := do
  let letter := mark.letter
  let sign (negative : Bool) : List Char :=
    if negative then ['-']
    else if mark.flags.contains '+' then ['+']
    else if mark.flags.contains ' ' then [' ']
    else []
  if isOfBytes ∧ (letter = 's' ∨ letter = 'b') then
    match v with
    | .bytes s => return ([], [], (precision?.map s.toList.take).getD s.toList)
    | v =>
      throw (mismatch ("%b requires a bytes-like object, or an object that implements " ++
        "__bytes__, not " ++ Text.quoted (program.typeName v)))
  else if isOfBytes ∧ letter = 'c' then
    match v, v.whole? with
    | .bytes s, _ =>
      if s.length = 1 then return ([], [], s.toList)
      else throw (mismatch "%c requires an integer in range(256) or a single byte")
    | _, some n =>
      if n < 0 ∨ 256 ≤ n then throw (.withText "OverflowError" "%c arg not in range(256)")
      else return ([], [], [Char.ofNat n.toNat])
    | _, none => throw (mismatch "%c requires an integer in range(256) or a single byte")
  else if letter = 's' ∨ letter = 'r' ∨ letter = 'a' then
    match ← converted program (some (if isOfBytes then 'a' else letter)) v with
    | .value (.text s) =>
      let cs := s.toList
      return ([], [], (precision?.map cs.take).getD cs)
    | _ => return ([], [], [])
  else if letter = 'c' then
    match v, v.whole? with
    | .value (.text s), _ =>
      if s.length = 1 then return ([], [], s.toList)
      else throw (mismatch "%c requires int or char")
    | _, some n =>
      if n < 0 ∨ 0x110000 ≤ n then throw FormTrouble.noCharacter.fault
      else return ([], [], [Char.ofNat n.toNat])
    | _, none => throw (mismatch "%c requires int or char")
  else if ['d', 'i', 'u', 'o', 'x', 'X'].contains letter then
    let n ← markWhole program (if isOfBytes ∧ letter = 'i' then 'd' else letter) v
    let (base, before) := Form.baseOf letter
    if base = 10 ∧ Form.isTooLong n then throw tooManyDigits
    let digits := Nat.toDigits base n.natAbs
    let digits := if letter = 'X' then Form.raised digits else digits
    let places := min (precision?.getD 0) Form.maxRoom
    let filled := List.replicate (places - digits.length) '0' ++ digits
    return (sign (decide (n < 0)), if mark.flags.contains '#' then before else [], filled)
  else
    match v.quantity? with
    | some (.whole _) | some (.pointed _) =>
      let x ← (v.quantity?.getD (.whole 0)).asDouble
      let form : Form :=
        { kind? := some letter, precision?, isAlternate := mark.flags.contains '#' }
      return (sign x.isNegative, [], form.magnitudeText x)
    | _ =>
      throw (mismatch ((if isOfBytes then "float argument required, not "
        else "must be real number, not ") ++ program.typeName v))

/-- A text in the room of a mark. -/
def markPlaced (mark : PatternMark) (width : Nat) (isLeft : Bool) :
    List Char × List Char × List Char → List Char
  | (sign, before, digits) =>
    let length := sign.length + before.length + digits.length
    let room := min (width - length) Form.maxRoom
    let hasZeros := mark.flags.contains '0' && !(['s', 'r', 'a', 'c'].contains mark.letter)
    if isLeft then sign ++ before ++ digits ++ List.replicate room ' '
    else if hasZeros then sign ++ before ++ List.replicate room '0' ++ digits
    else List.replicate room ' ' ++ sign ++ before ++ digits

/-- The letters that marks can have. -/
def markLetters : List Char :=
  ['s', 'r', 'a', 'c', 'd', 'i', 'u', 'o', 'x', 'X', 'e', 'E', 'f', 'F', 'g', 'G']

/-- The number that a mark has, and the arguments that are left. -/
def askedNumber (number : MarkNumber) (arguments : List HintValue) :
    Except Fault (Option Int × List HintValue) :=
  match number, arguments with
  | .absent, arguments => .ok (none, arguments)
  | .given n, arguments => .ok (some (Int.ofNat n), arguments)
  | .asked, [] => .error (mismatch "not enough arguments for format string")
  | .asked, v :: rest =>
    match v.whole? with
    | some n => .ok (some n, rest)
    | none => .error (mismatch "* wants int")

/-- What the marks of a pattern stand for: arguments one by one, or the values of a mapping. -/
structure MarkSource where
  arguments : List HintValue
  /-- What gives the value of a key. -/
  find? : Option (HintValue → Except Fault HintValue) := none

/-- A pattern whose marks are filled, and the arguments that are left. The fuel bounds the number of
characters, and `length` is that of the whole pattern. -/
def filled (program : Program) (isOfBytes : Bool) (length : Nat) : (fuel : Nat) →
    (pattern : List Char) → MarkSource → Except Fault (List Char × List HintValue)
  | 0, _, source => .ok ([], source.arguments)
  | _ + 1, [], source => .ok ([], source.arguments)
  | fuel + 1, '%' :: cs, source => do
    if cs.isEmpty then throw incomplete
    let (mark, rest) ← readMark cs
    let source ←
      match mark.key?, source.find? with
      | none, _ => pure source
      | some _, none => throw (mismatch "format requires a mapping")
      | some key, some find => do
        pure { source with arguments := [← find (if isOfBytes then .bytes key else text key)] }
    let (width?, arguments) ← askedNumber mark.width source.arguments
    let (precision?, arguments) ← askedNumber mark.precision arguments
    let isLeft := mark.flags.contains '-' || decide (width?.getD 0 < 0)
    if mark.letter = '%' then
      let (s, left) ← filled program isOfBytes length fuel rest { source with arguments }
      return ('%' :: s, left)
    match arguments with
    | [] => throw (mismatch "not enough arguments for format string")
    | v :: more =>
      if !(markLetters.contains mark.letter || (isOfBytes && mark.letter = 'b')) then
        let c := if 31 < mark.letter.toNat ∧ mark.letter.toNat < 127 then mark.letter else '?'
        throw (.withText "ValueError" ("unsupported format character '" ++ c.toString ++
          "' (0x" ++ String.ofList (Nat.toDigits 16 mark.letter.toNat) ++ ") at index " ++
          toString (length - rest.length - 1)))
      let found ← markText program isOfBytes mark (precision?.map Int.toNat) v
      let (s, left) ← filled program isOfBytes length fuel rest { source with arguments := more }
      return (markPlaced mark (width?.getD 0).natAbs isLeft found ++ s, left)
  | fuel + 1, c :: rest, source => do
    let (s, left) ← filled program isOfBytes length fuel rest source
    return (c :: s, left)

/-- Whether a thing has items, other than a text or several things. -/
def hasItems : HintValue → Bool
  | .mapping _ | .list _ | .bytes _ | .range _ _ _ _ => true
  | .alias _ _ | .union _ | .choice _ | .optionalForm => true
  | _ => false

/-- A text as a pattern for what follows the sign, or the characters of bytes as one. `find` gives
the value of a key in it. -/
def fillPattern (program : Program) (isOfBytes : Bool)
    (find : HintValue → Except Fault HintValue) (pattern : String) (v : HintValue) :
    Except Fault HintValue := do
  let arguments :=
    match v with
    | .tuple items => items
    | v => [v]
  let cs := pattern.toList
  let hasItems := v.hasItems && !(isOfBytes && v matches .bytes _)
  let (s, left) ← filled program isOfBytes cs.length (2 * cs.length + 1) cs
    { arguments, find? := if hasItems then some find else none }
  if left.isEmpty || hasItems then
    return if isOfBytes then .bytes (String.ofList s) else text (String.ofList s)
  else
    throw (mismatch ("not all arguments converted during " ++
      (if isOfBytes then "bytes" else "string") ++ " formatting"))

end HintValue

end Vetting

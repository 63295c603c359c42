import Vetting.Fault.Kind
import Vetting.Text.Scan
import Vetting.Value

/-!
# Vetting.Fault.Details

The values that faults are raised with. Most kinds take any details. A few want a fixed number of
them, each of its own form: `Details.misfit?` is what is raised in their place where the details do
not fit. `Details.message` words the details, for each kind in its way.
-/

namespace Vetting

/-- The values that a fault is raised with. -/
abbrev Details := List Value

/-- What is raised in place of a fault whose details do not fit: a kind and a text. -/
abbrev Misfit := String × String

/-- The form that a detail has to have. -/
inductive DetailForm where
  | any
  | text
  /-- A whole number that can be a position. -/
  | position
  /-- A whole number that can count characters. -/
  | count
  deriving DecidableEq, Repr

namespace DetailForm

/-- Whether a number fits into a signed word of 64 bits. -/
def fitsWord (n : Int) : Bool := -9223372036854775808 ≤ n && n ≤ 9223372036854775807

/-- What is raised for a value at a place where it has not the form. -/
def misfit? (place : Nat) (form : DetailForm) (v : Value) : Option Misfit :=
  match form, v with
  | any, _ => none
  | text, .text _ => none
  | text, .null => some ("TypeError", s!"argument {place} must be str, not None")
  | text, v => some ("TypeError", s!"argument {place} must be str, not {v.typeName}")
  | _, .bool _ => none
  | position, .int n =>
    if fitsWord n then none
    else some ("OverflowError", "Python int too large to convert to C ssize_t")
  | count, .int n =>
    if fitsWord n then none
    else some ("ValueError", "cannot fit 'int' into an index-sized integer")
  | _, v => some ("TypeError", "'" ++ v.typeName ++ "' object cannot be interpreted as an integer")

end DetailForm

namespace Details

/-- The forms of the details of a kind that wants a fixed number of them. -/
def forms? (kind : String) : Option (List DetailForm) :=
  [("UnicodeDecodeError", [.text, .any, .position, .position, .text]),
   ("UnicodeEncodeError", [.text, .text, .position, .position, .text]),
   ("UnicodeTranslateError", [.text, .position, .position, .text])].lookup kind

/-- What is raised for the first detail that has not its form; places are counted from `place`. -/
def firstMisfit? (place : Nat) : List DetailForm → Details → Option Misfit
  | form :: forms, v :: rest => (form.misfit? place v).or (firstMisfit? (place + 1) forms rest)
  | _, _ => none

/-- The detail at a place, null where there is none. -/
def nth (details : Details) (k : Nat) : Value := (details[k]?).getD .null

/-- What is raised when the details of a kind that wants given forms do not fit. No detail is a
sequence of bytes, so a decoding fault never fits. -/
def formMisfit? (kind : String) (forms : List DetailForm) (details : Details) : Option Misfit :=
  if details.length != forms.length then
    some ("TypeError",
      s!"function takes exactly {forms.length} arguments ({details.length} given)")
  else
    match firstMisfit? 1 forms details with
    | some misfit => some misfit
    | none =>
      if kind == "UnicodeDecodeError" then
        some ("TypeError",
          "a bytes-like object is required, not '" ++ (details.nth 1).typeName ++ "'")
      else none

/-- What is raised in place of a group of faults: no detail is a fault, so a group never fits. -/
def groupMisfit (details : Details) : Misfit :=
  let wrongItem : Misfit :=
    ("ValueError", "Item 0 of second argument (exceptions) is not an exception")
  let noItem : Misfit :=
    ("ValueError", "second argument (exceptions) must be a non-empty sequence")
  match details with
  | [name, items] =>
    match DetailForm.text.misfit? 1 name, items with
    | some (kind, text), _ => (kind, "BaseExceptionGroup.__new__() " ++ text)
    | none, .list vs => if vs.isEmpty then noItem else wrongItem
    | none, .text s => if s.isEmpty then noItem else wrongItem
    | none, _ => ("TypeError", "second argument (exceptions) must be a sequence")
  | _ =>
    ("TypeError",
      s!"BaseExceptionGroup.__new__() takes exactly 2 arguments ({details.length} given)")

/-- The parts of the place of a syntax error: a file, a line, a column and the text of the line,
and perhaps where the mistake ends. -/
def placeParts? : Value → Option (List Value)
  | .list parts => some parts
  | .text s => some (s.toList.map fun c => .text (String.singleton c))
  | .object fields => some (fields.map fun (key, _) => .text key)
  | _ => none

/-- What is raised in place of a syntax error whose second and last detail is no place. -/
def placeMisfit? (details : Details) : Option Misfit :=
  match details with
  | [_, place] =>
    match placeParts? place with
    | none => some ("TypeError", "'" ++ place.typeName ++ "' object is not iterable")
    | some parts =>
      if parts.length < 4 then
        some ("TypeError", s!"function takes at least 4 arguments ({parts.length} given)")
      else if 6 < parts.length then
        some ("TypeError", s!"function takes at most 6 arguments ({parts.length} given)")
      else if parts.length = 5 then
        some ("TypeError", "end_offset must be provided when end_lineno is provided")
      else none
  | _ => none

/-- Whether the details are a system error number and its text, with at most three more. -/
def isSystemError (kind : String) (details : Details) : Bool :=
  FaultKind.isA kind "OSError" && 2 ≤ details.length && details.length ≤ 5

/-- Whether the third detail of a system error counts what was written before the error, and names
no file. -/
def countsWritten (kind : String) (details : Details) : Bool :=
  kind == "BlockingIOError" &&
    match details.nth 2 with
    | .int _ | .bool _ | .float _ => true
    | _ => false

/-- What is raised instead when the details do not fit the kind. -/
def misfit? (kind : String) (details : Details) : Option Misfit :=
  match forms? kind with
  | some forms => formMisfit? kind forms details
  | none =>
    if FaultKind.isA kind "BaseExceptionGroup" || kind == "ExceptionGroup" then
      some (groupMisfit details)
    else if FaultKind.isA kind "SyntaxError" then placeMisfit? details
    else if isSystemError kind details && countsWritten kind details then
      DetailForm.count.misfit? 3 (details.nth 2)
    else none

/-- The details in brackets, as one reads them. -/
def listed (details : Details) : String :=
  match details with
  | [v] => "(" ++ v.shown ++ ",)"
  | vs => "(" ++ Value.shownItems vs ++ ")"

/-- The message of a system error: its number and text, and the files it names. -/
def systemMessage (kind : String) (details : Details) : String :=
  let start := "[Errno " ++ (details.nth 0).plain ++ "] " ++ (details.nth 1).plain
  if countsWritten kind details then start
  else
    match details.nth 2, details.nth 4 with
    | .null, _ => start
    | file, .null => start ++ ": " ++ file.shown
    | file, other => start ++ ": " ++ file.shown ++ " -> " ++ other.shown

/-- The details that a fault keeps: the files of a system error are kept elsewhere. -/
def kept (kind : String) (details : Details) : Details :=
  if isSystemError kind details && !countsWritten kind details then
    match details.nth 2 with
    | .null => details
    | _ => details.take 2
  else details

/-- A character by its number, in as few digits as its escape has. -/
def numbered (c : Char) : String :=
  let n := c.toNat
  String.ofList <|
    if n < 0x100 then '\\' :: 'x' :: Text.hex 2 n
    else if n < 0x10000 then '\\' :: 'u' :: Text.hex 4 n
    else '\\' :: 'U' :: Text.hex 8 n

/-- The characters of a text from `start` up to `stop`, as a message names them: one character by
its number, others by their positions. -/
def charactersAt (text : String) (start stop : Int) : String :=
  match text.toList.drop start.toNat with
  | c :: _ =>
    if stop = start + 1 then "character '" ++ numbered c ++ "' in position " ++ toString start
    else "characters in position " ++ toString start ++ "-" ++ toString (stop - 1)
  | [] => "characters in position " ++ toString start ++ "-" ++ toString (stop - 1)

/-- A position among the details. -/
def position : Value → Int
  | .int n => n
  | .bool true => 1
  | _ => 0

/-- A line as it is told: one that fits into no word is told as -1. -/
def lineText (line : Int) : String := toString (if DetailForm.fitsWord line then line else -1)

/-- Where a syntax error is, in brackets: the name of its file and its line. -/
def placeText (place : Value) : String :=
  match placeParts? place with
  | some (.text file :: line :: _) =>
    let name := String.ofList (Text.lastPiece '/' file.toList)
    match line with
    | .int n => " (" ++ name ++ ", line " ++ lineText n ++ ")"
    | _ => " (" ++ name ++ ")"
  | some (_ :: .int n :: _) => " (line " ++ lineText n ++ ")"
  | _ => ""

/-- The message of a syntax error: its first detail, and its place where that is the other one. -/
def syntaxMessage : Details → String
  | [] => "None"
  | [v, place] => v.plain ++ placeText place
  | v :: _ => v.plain

/-- The message that details make. One value is written plainly, but a key in full; several stand in
brackets. -/
def message (kind : String) (details : Details) : String :=
  if isSystemError kind details then systemMessage kind details
  else if FaultKind.isA kind "SyntaxError" then syntaxMessage details
  else
    match kind, details with
    | "UnicodeEncodeError", [codec, .text text, start, stop, reason] =>
      "'" ++ codec.plain ++ "' codec can't encode " ++
        charactersAt text (position start) (position stop) ++ ": " ++ reason.plain
    | "UnicodeTranslateError", [.text text, start, stop, reason] =>
      "can't translate " ++ charactersAt text (position start) (position stop) ++ ": " ++
        reason.plain
    | _, [] => ""
    | kind, [v] => if FaultKind.isA kind "KeyError" then v.shown else v.plain
    | _, vs => listed vs

end Details

end Vetting

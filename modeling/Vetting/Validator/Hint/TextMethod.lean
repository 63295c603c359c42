import Vetting.Text.Capital
import Vetting.Validator.Hint.Bytes
import Vetting.Validator.Hint.Operation
import Vetting.Validator.Hint.Template

/-!
# Vetting.Validator.Hint.TextMethod

The functions of texts that hints can call. Positions and bounds are counted in characters, and a
bound below zero from the end.
-/

namespace Vetting

namespace TextMethod

/-- A text with a part replaced, as often as wanted, or wherever it occurs. The fuel bounds the
number of characters. -/
def replaced (part other : List Char) : (fuel : Nat) → (most? : Option Nat) → List Char → List Char
  | 0, _, cs => cs
  | _, some 0, cs => cs
  | fuel + 1, most?, cs =>
    let less? : Option Nat := most?.map (· - 1)
    match cs, Text.after? part cs with
    | [], some _ => other
    | [], none => []
    | c :: others, some rest =>
      if part.isEmpty then other ++ c :: replaced part other fuel less? others
      else other ++ replaced part other fuel less? rest
    | c :: rest, none => c :: replaced part other fuel most? rest

/-- The parts of a text between a separator that is not empty, cut as often as wanted or wherever it
occurs. The fuel bounds the number of characters. -/
def splitAt (separator : List Char) : (fuel : Nat) → (most? : Option Nat) → (before : List Char) →
    List Char → List (List Char)
  | 0, _, before, _ => [before]
  | _ + 1, _, before, [] => [before]
  | _ + 1, some 0, before, cs => [before ++ cs]
  | fuel + 1, most?, before, c :: rest =>
    match Text.after? separator (c :: rest) with
    | some rest => before :: splitAt separator fuel (most?.map (· - 1)) [] rest
    | none => splitAt separator fuel most? (before ++ [c]) rest

/-- The words of a text between white space, cut as often as wanted or wherever it stands. The fuel
bounds the number of words. -/
def words : (fuel : Nat) → (most? : Option Nat) → List Char → List (List Char)
  | 0, _, _ => []
  | fuel + 1, most?, cs =>
    match cs.dropWhile isSpace, most? with
    | [], _ => []
    | cs, some 0 => [cs]
    | cs, most? =>
      let word := cs.takeWhile fun c => !isSpace c
      word :: words fuel (most?.map (· - 1)) (cs.drop word.length)

/-- The first place of a part in a text. -/
def place? (part : List Char) : List Char → Option Nat
  | [] => if part.isEmpty then some 0 else none
  | c :: rest =>
    if Text.startsWith part (c :: rest) then some 0 else (place? part rest).map (· + 1)

/-- How often a part occurs in a text. -/
def count (part cs : List Char) : Nat :=
  if part.isEmpty then cs.length + 1 else (splitAt part (cs.length + 1) none [] cs).length - 1

/-- A text without some characters at its start. -/
def stripStart (chars : List Char) (cs : List Char) : List Char :=
  cs.dropWhile chars.contains

/-- A text without some characters at its end. -/
def stripEnd (chars : List Char) (cs : List Char) : List Char :=
  (stripStart chars cs.reverse).reverse

/-- Whether a text has characters, and all are of a kind. -/
def isAll (isKind : Char → Bool) (cs : List Char) : Bool := !cs.isEmpty && cs.all isKind

/-- The fault of an argument that is no text. -/
def notText (program : Program) (name : String) (place : Nat) (v : HintValue) : Fault :=
  HintValue.mismatch (name ++ "() argument " ++ toString place ++ " must be str, not " ++
    HintValue.argumentTypeName program v)

/-- The fault of a single argument that is no text. -/
def notOneText (program : Program) (name : String) (v : HintValue) : Fault :=
  if ["strip", "lstrip", "rstrip"].contains name then
    HintValue.mismatch (name ++ " arg must be None or str")
  else if ["partition", "rpartition"].contains name then
    HintValue.mismatch ("must be str, not " ++ program.typeName v)
  else
    HintValue.mismatch (name ++ "() argument must be str, not " ++
      HintValue.argumentTypeName program v)

/-- Texts joined by one that stands between them. -/
def joinedBy (program : Program) (between : String) :
    (place : Nat) → List HintValue → Except Fault (List String)
  | _, [] => .ok []
  | place, .value (.text s) :: rest => do
    let more ← joinedBy program between (place + 1) rest
    return s :: more
  | place, v :: _ =>
    .error (HintValue.mismatch ("sequence item " ++ toString place ++
      ": expected str instance, " ++ program.typeName v ++ " found"))

/-- The fault of an argument that has to be a whole number. -/
def asCount (program : Program) (v : HintValue) : Except Fault Int :=
  match v.whole? with
  | some n =>
    if HintValue.maxIndex < n ∨ n < -HintValue.maxIndex - 1 then
      .error (Quantity.overflow "Python int too large to convert to C ssize_t")
    else .ok n
  | none =>
    .error (HintValue.mismatch (Text.quoted (program.typeName v) ++
      " object cannot be interpreted as an integer"))

/-- The part of a text between two bounds, and where it starts; nothing where the second bound
stands before the first one. -/
def between (cs : List Char) (bounds : List HintValue) : Except Fault (Nat × Option (List Char)) :=
  do
  let length := Int.ofNat cs.length
  let first := (← HintValue.partEnd (bounds.headD HintValue.nothing)).getD 0
  let last := (← HintValue.partEnd ((bounds.drop 1).headD HintValue.nothing)).getD length
  let start := if first < 0 then max (first + length) 0 else first
  let stop := if last < 0 then max (last + length) 0 else min last length
  if stop < start then return (start.toNat, none)
  else return (start.toNat, some ((cs.take stop.toNat).drop start.toNat))

/-- The words for tabs in a text: each up to the next place that is a multiple of a size. `column`
is the place in the line. -/
def withoutTabs (size : Nat) : (column : Nat) → List Char → List Char
  | _, [] => []
  | column, c :: rest =>
    if c = '\t' then
      let missing := if size = 0 then 0 else size - column % size
      List.replicate missing ' ' ++ withoutTabs size (column + missing) rest
    else if c = '\n' ∨ c = '\r' then c :: withoutTabs size 0 rest
    else c :: withoutTabs size (column + 1) rest

/-- The lines of a text with the signs that end them. -/
def linesWithEnds : (line : List Char) → List Char → List (List Char)
  | line, [] => if line.isEmpty then [] else [line]
  | line, '\r' :: '\n' :: rest => (line ++ ['\r', '\n']) :: linesWithEnds [] rest
  | line, c :: rest =>
    if isLineBreak c then (line ++ [c]) :: linesWithEnds [] rest
    else linesWithEnds (line ++ [c]) rest

/-- Whether a text is an identifier. -/
def isName : List Char → Bool
  | [] => false
  | c :: rest => isNameStart c && rest.all isWord

/-- What a function of a text gives without arguments. -/
def plainCall? (name : String) (cs : List Char) : Option HintValue :=
  let made (cs : List Char) : Option HintValue := some (HintValue.text (String.ofList cs))
  let listOf (parts : List (List Char)) : Option HintValue :=
    some (.list (parts.map fun part => HintValue.text (String.ofList part)))
  match name with
  | "lower" => made (Text.lower (String.ofList cs)).toList
  | "casefold" => made (Text.caseless cs)
  | "upper" => made (Text.upper cs)
  | "capitalize" => made (Text.capitalized cs)
  | "title" => made (Text.titledFrom [] cs)
  | "swapcase" => made (Text.swappedFrom [] cs)
  | "strip" => made (Text.trim cs)
  | "lstrip" => made (Text.trimStart cs)
  | "rstrip" => made (Text.trimEnd cs)
  | "split" | "rsplit" => listOf (words (cs.length + 1) none cs)
  | "splitlines" => listOf (Text.lines cs)
  | "expandtabs" => made (withoutTabs 8 0 cs)
  | "encode" => some (.bytes (HintValue.bytesOf (String.ofList cs)))
  | "isalpha" => some (.bool (isAll isLetter cs))
  | "isalnum" => some (.bool (isAll isLetterOrNumber cs))
  | "isdecimal" => some (.bool (isAll isDecimal cs))
  | "isdigit" => some (.bool (isAll Text.isAnyDigit cs))
  | "isnumeric" => some (.bool (isAll Text.isNumeric cs))
  | "isspace" => some (.bool (isAll isSpace cs))
  | "islower" => some (.bool (Text.isLowerText cs))
  | "isupper" => some (.bool (Text.isUpperText cs))
  | "istitle" => some (.bool (Text.isTitleText cs))
  | "isascii" => some (.bool (cs.all fun c => c.toNat < 128))
  | "isprintable" => some (.bool (cs.all isPrintable))
  | "isidentifier" => some (.bool (isName cs))
  | _ => none

/-- Where a part stands in a text, at first or at last. -/
def placeOf? (isLast : Bool) (part cs : List Char) : Option Nat :=
  if isLast then (place? part.reverse cs.reverse).map fun n => cs.length - n - part.length
  else place? part cs

/-- What a function that looks for a part of a text gives. -/
def search (name : String) (cs part : List Char) (bounds : List HintValue) :
    Except Fault HintValue := do
  let (start, found?) ← between cs bounds
  let isLast := name == "rfind" || name == "rindex"
  let place? := (found?.bind (placeOf? isLast part)).map fun n => Int.ofNat (start + n)
  match name, place? with
  | "count", _ => return .int (Int.ofNat ((found?.map (count part)).getD 0))
  | "find", place? | "rfind", place? => return .int (place?.getD (-1))
  | _, some n => return .int n
  | _, none => throw (.withText "ValueError" "substring not found")

/-- Whether a text starts or ends with a part, or with one of several. -/
def isAtEnd (program : Program) (name : String) (cs : List Char) (v : HintValue)
    (bounds : List HintValue) : Except Fault HintValue := do
  let (_, found?) ← between cs bounds
  let holds (part : List Char) : Bool :=
    match found? with
    | some found =>
      if name == "startswith" then Text.startsWith part found else Text.endsWith part found
    | none => false
  let asPart (within : String) (v : HintValue) : Except Fault (List Char) :=
    match v with
    | .value (.text s) => .ok s.toList
    | v => .error (HintValue.mismatch (name ++ within ++ program.typeName v))
  match v with
  | .tuple vs => do
    for v in vs do
      if holds (← asPart " for str must only contain str, not " v) then return .bool true
    return .bool false
  | v => return .bool (holds (← asPart " first arg must be str or a tuple of str, not " v))

/-- The parts of a text that a separator tells, from its start or from its end. -/
def pieces (isFromEnd : Bool) (separator? : Option (List Char)) (most? : Option Nat)
    (cs : List Char) : List (List Char) :=
  let cut (separator? : Option (List Char)) (cs : List Char) : List (List Char) :=
    match separator? with
    | some separator => splitAt separator (cs.length + 1) most? [] cs
    | none => words (cs.length + 1) most? cs
  if isFromEnd then
    ((cut (separator?.map List.reverse) cs.reverse).map List.reverse).reverse
  else cut separator? cs

/-- What the functions that cut a text into parts give. -/
def split (program : Program) (name : String) (cs : List Char) (separator most : HintValue) :
    Except Fault HintValue := do
  let n ← asCount program most
  let separator? ←
    match separator with
    | .value .null => pure none
    | .value (.text s) =>
      if s.isEmpty then throw (.withText "ValueError" "empty separator") else pure (some s.toList)
    | v => throw (HintValue.mismatch ("must be str or None, not " ++ program.typeName v))
  let found := pieces (name == "rsplit") separator? (if n < 0 then none else some n.toNat) cs
  return .list (found.map fun part => .text (String.ofList part))

/-- What a function of a text gives for a text as argument. -/
def textCall? (name : String) (cs part : List Char) : Option (Except Fault HintValue) :=
  let made (cs : List Char) : HintValue := .text (String.ofList cs)
  match name with
  | "strip" => some (.ok (made (stripEnd part (stripStart part cs))))
  | "lstrip" => some (.ok (made (stripStart part cs)))
  | "rstrip" => some (.ok (made (stripEnd part cs)))
  | "removeprefix" => some (.ok (made ((Text.after? part cs).getD cs)))
  | "removesuffix" =>
    some (.ok (made (((Text.after? part.reverse cs.reverse).map List.reverse).getD cs)))
  | "partition" | "rpartition" =>
    some (if part.isEmpty then .error (.withText "ValueError" "empty separator")
      else
        match placeOf? (name == "rpartition") part cs with
        | some n => .ok (.tuple [made (cs.take n), made part, made (cs.drop (n + part.length))])
        | none =>
          .ok (.tuple (if name == "partition" then [made cs, made [], made []]
            else [made [], made [], made cs])))
  | _ => none

/-- A text made as long as wanted: filled at its end, at its start, or at both. -/
def padded (name : String) (filler : Char) (width : Nat) (cs : List Char) : List Char :=
  let missing := width - cs.length
  let fill (n : Nat) : List Char := List.replicate n filler
  match name with
  | "ljust" => cs ++ fill missing
  | "rjust" => fill missing ++ cs
  | "zfill" =>
    match cs with
    | c :: rest =>
      if c = '+' ∨ c = '-' then c :: fill missing ++ rest else fill missing ++ cs
    | [] => fill missing
  | _ =>
    let before := missing / 2 + (if missing % 2 = 1 ∧ width % 2 = 1 then 1 else 0)
    fill before ++ cs ++ fill (missing - before)

/-- What stands for a character that is translated. -/
def translated (program : Program) (table : HintValue) (c : Char) : Except Fault (List Char) :=
  match HintValue.item program table (.int (Int.ofNat c.toNat)) with
  | .error fault => if fault.isA "LookupError" then .ok [c] else .error fault
  | .ok (.value .null) => .ok []
  | .ok (.value (.text s)) => .ok s.toList
  | .ok v =>
    match v.whole? with
    | some n =>
      if n < 0 ∨ 0x110000 ≤ n then
        .error (.withText "ValueError" "character mapping must be in range(0x110000)")
      else .ok [Char.ofNat n.toNat]
    | none => .error (HintValue.mismatch "character mapping must return integer, None or str")

/-- A table for substitutions: the characters of one text for those of another, and perhaps some
that are left away; or a mapping whose keys are characters or their numbers. -/
def substitutionTable (program : Program) : List HintValue → Except Fault HintValue
  | [.mapping entries] => do
    let found ← entries.mapM fun (key, v) =>
      match key, key.whole? with
      | .value (.text s), _ =>
        match s.toList with
        | [c] => .ok (HintValue.int (Int.ofNat c.toNat), v)
        | _ =>
          .error (.withText "ValueError" "string keys in translate table must be of length 1")
      | key, some _ => .ok (key, v)
      | _, none =>
        .error (HintValue.mismatch "keys in translate table must be strings or integers")
    return .mapping found
  | [_] =>
    .error (HintValue.mismatch
      "if you give only one argument to maketrans it must be a dict")
  | .value (.text s) :: .value (.text t) :: more =>
    let code (c : Char) : HintValue := .int (Int.ofNat c.toNat)
    if s.length ≠ t.length then
      .error (.withText "ValueError" "the first two maketrans arguments must have equal length")
    else
      let dropped : List Char :=
        match more with
        | [.value (.text u)] => u.toList
        | _ => []
      let pairs := (s.toList.zip t.toList).map fun (c, d) => (code c, code d)
      let entries := pairs ++ dropped.map fun c => (code c, HintValue.nothing)
      .ok (.mapping (entries.foldl (fun es (key, v) => HintValue.withEntry es key v) []))
  | v :: _ =>
    .error (HintValue.mismatch ("maketrans() argument 2 must be str, not " ++ program.typeName v))
  | [] => .error (HintValue.mismatch "maketrans expected at least 1 argument, got 0")

/-- An argument by its place or its name. -/
def argument (arguments : List HintValue) (named : List (String × HintValue)) (place : Nat)
    (name : String) (other : HintValue) : HintValue :=
  (arguments[place]?).getD ((named.lookup name).getD other)

/-- What a call of a function of a text gives. -/
def call (program : Program) (s name : String) (arguments : List HintValue)
    (named : List (String × HintValue)) : Except Fault HintValue :=
  let cs := s.toList
  match name, arguments with
  | "format", arguments =>
    let find (key : String) : Except Fault HintValue :=
      match named.lookup key with
      | some v => .ok v
      | none => .error (.withText "KeyError" key)
    HintValue.ofTemplate program { placed? := some arguments, find } s
  | "format_map", [v] =>
    HintValue.ofTemplate program
      { placed? := none, find := fun key => HintValue.item program v (.text key) } s
  | "split", arguments | "rsplit", arguments =>
    split program name cs (argument arguments named 0 "sep" HintValue.nothing)
      (argument arguments named 1 "maxsplit" (.int (-1)))
  | "splitlines", arguments => do
    let keepsEnds ← asCount program (argument arguments named 0 "keepends" (.bool false))
    let lines := if keepsEnds = 0 then Text.lines cs else linesWithEnds [] cs
    return .list (lines.map fun line => .text (String.ofList line))
  | "expandtabs", arguments => do
    let size ← asCount program (argument arguments named 0 "tabsize" (.int 8))
    return .text (String.ofList (withoutTabs size.toNat 0 cs))
  | "encode", arguments =>
    HintValue.encoded program s (argument arguments named 0 "encoding" (.text "utf-8"))
      (argument arguments named 1 "errors" (.text "strict"))
  | "join", [v] => do
    let items ← HintValue.itemsOr program (HintValue.mismatch "can only join an iterable") v
    return .text (s.intercalate (← joinedBy program s 0 items))
  | "replace", v :: w :: more =>
    match v, w with
    | .value (.text part), .value (.text other) => do
      let n ← asCount program (more.headD (.int (-1)))
      return .text (String.ofList (replaced part.toList other.toList (cs.length + 1)
        (if n < 0 then none else some n.toNat) cs))
    | .value (.text _), w => .error (notText program "replace" 2 w)
    | v, _ => .error (notText program "replace" 1 v)
  | "translate", [table] =>
    (cs.mapM (translated program table)).map fun parts => .text (String.ofList parts.flatten)
  | "maketrans", arguments => substitutionTable program arguments
  | "zfill", [n] | "center", n :: _ | "ljust", n :: _ | "rjust", n :: _ => do
    let n ← asCount program n
    let filler ←
      match arguments.drop 1 with
      | [.value (.text f)] =>
        match f.toList with
        | [c] => pure c
        | _ =>
          throw (HintValue.mismatch "The fill character must be exactly one character long")
      | [v] =>
        throw (HintValue.mismatch ("The fill character must be a unicode character, not " ++
          program.typeName v))
      | _ => pure (if name == "zfill" then '0' else ' ')
    if HintValue.maxSize < n.toNat then return HintValue.thingOf "str"
    else return .text (String.ofList (padded name filler n.toNat cs))
  | name, [] => .ok ((plainCall? name cs).getD (HintValue.thingOf "object"))
  | name, v :: bounds =>
    if ["find", "rfind", "index", "rindex", "count"].contains name then
      match between cs bounds, v with
      | .error fault, _ => .error fault
      | .ok _, .value (.text part) => search name cs part.toList bounds
      | .ok _, v => .error (HintValue.mismatch ("must be str, not " ++ program.typeName v))
    else if name == "startswith" || name == "endswith" then isAtEnd program name cs v bounds
    else
      match v with
      | .value (.text part) =>
        (textCall? name cs part.toList).getD (.ok (HintValue.thingOf "object"))
      | .value .null =>
        if ["strip", "lstrip", "rstrip"].contains name then
          .ok ((plainCall? name cs).getD (HintValue.thingOf "object"))
        else .error (notOneText program name v)
      | v => .error (notOneText program name v)

end TextMethod

end Vetting

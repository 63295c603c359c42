import Vetting.Validator.Hint.TextMethod

/-!
# Vetting.Validator.Hint.BytesMethod

The functions of bytes that hints can call. Most of them are those of texts, once their arguments
are known to be bytes; those that look for bytes also take a single one by its number.
-/

namespace Vetting

namespace BytesMethod

/-- The fault of an argument that is no bytes. -/
def notBytes (program : Program) (v : HintValue) : Fault :=
  HintValue.mismatch ("a bytes-like object is required, not " ++
    Text.quoted (program.typeName v))

/-- The bytes of an argument. -/
def asBytes (program : Program) : HintValue → Except Fault String
  | .bytes s => .ok s
  | v => .error (notBytes program v)

/-- The bytes of an argument that may be nothing. -/
def asBytesOrNothing (program : Program) : HintValue → Except Fault (Option String)
  | .value .null => .ok none
  | v => (asBytes program v).map some

/-- The bytes that are looked for: some, or one by its number. -/
def sought (program : Program) (v : HintValue) : Except Fault String :=
  match v, v.whole? with
  | .bytes s, _ => .ok s
  | _, some n =>
    if n < 0 ∨ 256 ≤ n then .error (.withText "ValueError" "byte must be in range(0, 256)")
    else .ok (String.ofList [Char.ofNat n.toNat])
  | v, none =>
    .error (HintValue.mismatch ("argument should be integer or bytes-like object, not " ++
      Text.quoted (program.typeName v)))

/-- Where bytes are found, or how often. -/
def search (name s part : String) (bounds : List HintValue) : Except Fault HintValue := do
  let asked := if name == "index" then "find" else if name == "rindex" then "rfind" else name
  let found ← TextMethod.search asked s.toList part.toList bounds
  if asked != name && found.whole? == some (-1) then
    throw (.withText "ValueError" "subsection not found")
  else return found

/-- Whether bytes start or end with some, or with one of several. -/
def isAtEnd (program : Program) (name s : String) (v : HintValue) (bounds : List HintValue) :
    Except Fault HintValue := do
  let (_, found?) ← TextMethod.between s.toList bounds
  let holds (part : String) : Bool :=
    match found? with
    | some found =>
      if name == "startswith" then Text.startsWith part.toList found
      else Text.endsWith part.toList found
    | none => false
  match v with
  | .tuple vs => do
    for v in vs do
      if holds (← asBytes program v) then return .bool true
    return .bool false
  | .bytes part => return .bool (holds part)
  | v =>
    throw (HintValue.mismatch (name ++ " first arg must be bytes or a tuple of bytes, not " ++
      program.typeName v))

/-- Bytes joined by some that stand between them. -/
def joined (program : Program) : (place : Nat) → List HintValue → Except Fault (List String)
  | _, [] => .ok []
  | place, .bytes s :: rest => (joined program (place + 1) rest).map (s :: ·)
  | place, v :: _ =>
    .error (HintValue.mismatch ("sequence item " ++ toString place ++
      ": expected a bytes-like object, " ++ program.typeName v ++ " found"))

/-- Bytes for others by a table of all bytes, without some that are left away. -/
def translated (program : Program) (s : String) (table dropped : HintValue) :
    Except Fault HintValue := do
  let table? ← asBytesOrNothing program table
  match table? with
  | some t =>
    if t.length ≠ 256 then
      throw (.withText "ValueError" "translation table must be 256 characters long")
  | none => pure ()
  let dropped ← asBytes program dropped
  let kept := s.toList.filter fun c => !dropped.contains c
  let found :=
    match table? with
    | some t => kept.filterMap fun c => t.toList[c.toNat]?
    | none => kept
  return .bytes (String.ofList found)

/-- The sign between the digits of bytes. -/
def separator : HintValue → Except Fault Char
  | .value (.text s) | .bytes s =>
    match s.toList with
    | [c] => .ok c
    | _ => .error (.withText "ValueError" "sep must be length 1.")
  | _ => .error (HintValue.mismatch "sep must be str or bytes.")

/-- Bytes in digits in base sixteen, with a sign behind each group of bytes. Groups are counted from
the end, or from the start where their size is below zero. -/
def inDigits (program : Program) (s : String) (sign size : HintValue) :
    Except Fault HintValue := do
  let size ← TextMethod.asCount program size
  let c ← separator sign
  let digits := s.toList.map fun b => Text.hex 2 b.toNat
  let isEnd (n : Nat) : Bool :=
    size != 0 && n != 0 &&
      (if 0 < size then (digits.length - n) % size.natAbs == 0 else n % size.natAbs == 0)
  let parts := digits.zipIdx.map fun (cs, n) => if isEnd n then c :: cs else cs
  return .text (String.ofList parts.flatten)

/-- What a function of texts gives for bytes, whose arguments fit it. -/
def callAsText (program : Program) (s name : String) (arguments : List HintValue)
    (named : List (String × HintValue)) : Except Fault HintValue := do
  let found ← TextMethod.call program (HintValue.asOpaqueText s) name
    (HintValue.allBytesAsText arguments)
    (named.map fun (key, v) => (key, v.bytesAsText))
  return found.textAsBytes

/-- What a call of a function of bytes gives. -/
def call (program : Program) (s name : String) (arguments : List HintValue)
    (named : List (String × HintValue)) : Except Fault HintValue := do
  let part (place : Nat) (key : String) (other : HintValue) : HintValue :=
    TextMethod.argument arguments named place key other
  match name, arguments with
  | "decode", _ =>
    HintValue.decoded program s (part 0 "encoding" (.text "utf-8"))
      (part 1 "errors" (.text "strict"))
  | "hex", [] =>
    if named.isEmpty then return .text (HintValue.hexDigits s)
    else inDigits program s (part 0 "sep" (.text "")) (part 1 "bytes_per_sep" (.int 1))
  | "hex", sign :: _ => inDigits program s sign (part 1 "bytes_per_sep" (.int 1))
  | "translate", table :: _ => translated program s table (part 1 "delete" (.bytes ""))
  | "find", v :: bounds | "rfind", v :: bounds | "index", v :: bounds | "rindex", v :: bounds
  | "count", v :: bounds =>
    let _ ← TextMethod.between s.toList bounds
    search name s (← sought program v) bounds
  | "startswith", v :: bounds | "endswith", v :: bounds => isAtEnd program name s v bounds
  | "join", [v] =>
    let vs ← HintValue.itemsOr program (HintValue.mismatch "can only join an iterable") v
    return .bytes (s.intercalate (← joined program 0 vs))
  | "center", n :: more | "ljust", n :: more | "rjust", n :: more =>
    let _ ← TextMethod.asCount program n
    match more with
    | [.bytes f] =>
      if f.length ≠ 1 then
        throw (HintValue.mismatch
          (name ++ "() argument 2 must be a byte string of length 1, not bytes"))
    | [v] =>
      throw (HintValue.mismatch (name ++
        "() argument 2 must be a byte string of length 1, not " ++
          HintValue.argumentTypeName program v))
    | _ => pure ()
    callAsText program s name arguments named
  | "split", _ | "rsplit", _ =>
    let _ ← TextMethod.asCount program (part 1 "maxsplit" (.int (-1)))
    let _ ← asBytesOrNothing program (part 0 "sep" HintValue.nothing)
    callAsText program s name arguments named
  | "strip", [v] | "lstrip", [v] | "rstrip", [v] =>
    let _ ← asBytesOrNothing program v
    callAsText program s name arguments named
  | "replace", v :: w :: more =>
    let _ ← asBytes program v
    let _ ← asBytes program w
    let _ ← TextMethod.asCount program (more.headD (.int (-1)))
    callAsText program s name arguments named
  | "zfill", [n] | "expandtabs", [n] | "splitlines", [n] =>
    let _ ← TextMethod.asCount program n
    callAsText program s name arguments named
  | "partition", [v] | "rpartition", [v] | "removeprefix", [v] | "removesuffix", [v] =>
    let _ ← asBytes program v
    callAsText program s name arguments named
  | name, arguments => callAsText program s name arguments named

end BytesMethod

end Vetting

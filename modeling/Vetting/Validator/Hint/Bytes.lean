import Vetting.Validator.Hint.Wording
import Vetting.Text.Capital

/-!
# Vetting.Validator.Hint.Bytes

Bytes of hints: each is kept as the character with its number. Texts become bytes in an encoding,
and bytes become texts. For the functions that bytes share with texts, the bytes that are no basic
characters stand as characters that have no properties, `asOpaqueText`.
-/

namespace Vetting

namespace HintValue

/-- Bytes, each as the character with its number. -/
def ofByteList (bytes : List UInt8) : String :=
  String.ofList (bytes.map fun b => Char.ofNat b.toNat)

/-- The bytes that are kept as characters. -/
def toByteList (s : String) : List UInt8 := s.toList.map fun c => UInt8.ofNat c.toNat

/-- The bytes of a text in the encoding of most texts. -/
def bytesOf (s : String) : String := ofByteList (Encoding.utf8Bytes s)

/-- The fault of a name that is no encoding's. -/
def unknownEncoding (name : String) : Fault :=
  .withText "LookupError" ("unknown encoding: " ++ name)

/-- The text of an argument that has to be one. -/
def encodingName (program : Program) (function place : String) (v : HintValue) :
    Except Fault String :=
  match v with
  | .value (.text s) => .ok s
  | v =>
    .error (mismatch (function ++ "() argument " ++ Text.quoted place ++ " must be str, not " ++
      argumentTypeName program v))

/-- The bytes of a text whose characters have numbers below a limit. Others are left away, stand as
question marks, or are a fault. -/
def encodedBelow (limit : Nat) (codec errors : String) : (place : Nat) → List Char →
    Except Fault (List Char)
  | _, [] => .ok []
  | place, c :: rest =>
    if c.toNat < limit then (encodedBelow limit codec errors (place + 1) rest).map (c :: ·)
    else if errors == "ignore" then encodedBelow limit codec errors (place + 1) rest
    else if errors == "replace" then
      (encodedBelow limit codec errors (place + 1) rest).map ('?' :: ·)
    else if errors == "backslashreplace" then
      (encodedBelow limit codec errors (place + 1) rest).map
        ((inBasicCharacters (String.ofList [c])).toList ++ ·)
    else if errors == "xmlcharrefreplace" then
      (encodedBelow limit codec errors (place + 1) rest).map
        (("&#" ++ toString c.toNat ++ ";").toList ++ ·)
    else if errors != "strict" then
      .error (.withText "LookupError" ("unknown error handler name " ++ Text.quoted errors))
    else
      let count := (rest.takeWhile fun d => limit ≤ d.toNat).length
      let told :=
        if count = 0 then
          "character '" ++ inBasicCharacters (String.ofList [c]) ++ "' in position " ++
            toString place
        else "characters in position " ++ toString place ++ "-" ++ toString (place + count)
      .error (.worded "UnicodeEncodeError" ("'" ++ codec ++ "' codec can't encode " ++ told ++
        ": ordinal not in range(" ++ toString limit ++ ")"))

/-- A text as bytes. -/
def encoded (program : Program) (s : String) (encoding errors : HintValue) :
    Except Fault HintValue := do
  let name ← encodingName program "encode" "encoding" encoding
  let errors ← encodingName program "encode" "errors" errors
  match Encoding.named? name with
  | none => throw (unknownEncoding name)
  | some .utf8 => return .bytes (bytesOf s)
  | some .utf8Marked => return .bytes (ofByteList (Encoding.mark ++ Encoding.utf8Bytes s))
  | some .ascii => return .bytes (String.ofList (← encodedBelow 128 "ascii" errors 0 s.toList))
  | some .latin1 => return .bytes (String.ofList (← encodedBelow 256 "latin-1" errors 0 s.toList))

/-- The text of bytes in an encoding. For the bytes that stand in the way, some characters stand.
The fuel bounds how often there are such. -/
def decodedAround (encoding : Encoding) (instead : List UInt8 → List Char) :
    (fuel : Nat) → List UInt8 → List Char
  | 0, _ => []
  | fuel + 1, bs =>
    match encoding.decode bs with
    | .ok cs => cs
    | .error trouble =>
      let before := ((encoding.decode (bs.take trouble.start)).toOption).getD []
      let wrong := (bs.take trouble.stop).drop trouble.start
      before ++ instead wrong ++ decodedAround encoding instead fuel (bs.drop trouble.stop)

/-- What stands for bytes that stand in the way of a text, by the name of the way to go on. -/
def insteadOf? (errors : String) (wrong : List UInt8) : Option (List Char) :=
  match errors with
  | "ignore" => some []
  | "replace" => some ['\uFFFD']
  | "backslashreplace" =>
    some (wrong.flatMap fun b => '\\' :: 'x' :: Text.hex 2 b.toNat)
  | _ => none

/-- Bytes as a text. -/
def decoded (program : Program) (s : String) (encoding errors : HintValue) :
    Except Fault HintValue := do
  let name ← encodingName program "decode" "encoding" encoding
  let errors ← encodingName program "decode" "errors" errors
  if s.isEmpty then return text ""
  match Encoding.named? name with
  | none => throw (unknownEncoding name)
  | some encoding =>
    let isMarked := encoding = .utf8Marked
    let bs := if isMarked then Encoding.withoutMark (toByteList s) else toByteList s
    let encoding := if isMarked then .utf8 else encoding
    match encoding.decode bs with
    | .ok cs => return text (String.ofList cs)
    | .error trouble =>
      if (insteadOf? errors []).isSome then
        let instead (wrong : List UInt8) : List Char := (insteadOf? errors wrong).getD []
        return text (String.ofList (decodedAround encoding instead (bs.length + 1) bs))
      else if errors == "strict" then throw (.undecodable trouble)
      else
        throw (.withText "LookupError" ("unknown error handler name " ++ Text.quoted errors))

/-- How far the bytes that are no basic characters are moved. -/
def opaqueShift : Nat := 0xF0000

/-- Bytes as a text in which those that are no basic characters have no properties. -/
def asOpaqueText (s : String) : String :=
  String.ofList (s.toList.map fun c =>
    if c.toNat < 128 then c else Char.ofNat (c.toNat + opaqueShift))

/-- Bytes from a text that stands for them. -/
def ofOpaqueText (s : String) : String :=
  String.ofList (s.toList.map fun c =>
    if c.toNat < opaqueShift then c else Char.ofNat (c.toNat - opaqueShift))

mutual

/-- Bytes in a thing as texts that stand for them. -/
def bytesAsText : HintValue → HintValue
  | .bytes s => text (asOpaqueText s)
  | .list vs => .list (allBytesAsText vs)
  | .tuple vs => .tuple (allBytesAsText vs)
  | v => v

/-- Bytes in things as texts that stand for them. -/
def allBytesAsText : List HintValue → List HintValue
  | [] => []
  | v :: rest => bytesAsText v :: allBytesAsText rest

end

mutual

/-- Bytes from the texts in a thing that stand for them. -/
def textAsBytes : HintValue → HintValue
  | .value (.text s) => .bytes (ofOpaqueText s)
  | .list vs => .list (allTextAsBytes vs)
  | .tuple vs => .tuple (allTextAsBytes vs)
  | v => v

/-- Bytes from the texts in things that stand for them. -/
def allTextAsBytes : List HintValue → List HintValue
  | [] => []
  | v :: rest => textAsBytes v :: allTextAsBytes rest

end

/-- The bytes that pairs of digits in base sixteen tell. White space may stand between pairs. Fails
with the place of what is no digit. -/
def ofHexDigits : (place : Nat) → List Char → Except Nat (List Char)
  | _, [] => .ok []
  | place, c :: rest =>
    if c = ' ' ∨ (8 < c.toNat ∧ c.toNat < 14) then ofHexDigits (place + 1) rest
    else
      match Text.hexValue? c, rest with
      | none, _ => .error place
      | some _, [] => .error (place + 1)
      | some m, d :: rest =>
        match Text.hexValue? d with
        | none => .error (place + 1)
        | some n => (ofHexDigits (place + 2) rest).map (Char.ofNat (16 * m + n) :: ·)

/-- Bytes in digits in base sixteen. -/
def hexDigits (s : String) : String :=
  String.ofList (s.toList.flatMap fun c => Text.hex 2 c.toNat)

/-- Bytes of whole numbers. -/
def ofNumbers (program : Program) : List HintValue → Except Fault (List Char)
  | [] => .ok []
  | v :: rest =>
    match v.whole? with
    | none =>
      .error (mismatch (Text.quoted (program.typeName v) ++
        " object cannot be interpreted as an integer"))
    | some n =>
      if n < 0 ∨ 256 ≤ n then
        .error (.withText "ValueError" "bytes must be in range(0, 256)")
      else (ofNumbers program rest).map (Char.ofNat n.toNat :: ·)

end HintValue

end Vetting

import Vetting.Text.Quoted
import Vetting.Text.Scan

/-!
# Vetting.Text.Encoding

Text from bytes. `Encoding.decode` reads bytes in one of four encodings and says which bytes stand
in the way where it cannot; `Encoding.decodeFile` reads the bytes of a file, where every line ends
in a line feed whatever ended it on disk.
-/

namespace Vetting

/-- Why bytes are no text. -/
inductive DecodeReason where
  | invalidStart
  | invalidContinuation
  | unexpectedEnd
  | outsideAscii
  deriving DecidableEq, Repr

/-- Bytes that are no text in an encoding: where they start and stop, and the first of them. -/
structure DecodeTrouble where
  codec : String
  first : UInt8
  start : Nat
  stop : Nat
  reason : DecodeReason
  deriving DecidableEq, Repr

namespace DecodeReason

/-- The reason in words. -/
def message : DecodeReason → String
  | invalidStart => "invalid start byte"
  | invalidContinuation => "invalid continuation byte"
  | unexpectedEnd => "unexpected end of data"
  | outsideAscii => "ordinal not in range(128)"

end DecodeReason

namespace DecodeTrouble

/-- What is said of the bytes: one byte by its value, several by their positions. -/
def message (trouble : DecodeTrouble) : String :=
  let bytes :=
    if trouble.stop = trouble.start + 1 then
      "byte 0x" ++ String.ofList (Text.hex 2 trouble.first.toNat) ++ " in position " ++
        toString trouble.start
    else
      "bytes in position " ++ toString trouble.start ++ "-" ++ toString (trouble.stop - 1)
  "'" ++ trouble.codec ++ "' codec can't decode " ++ bytes ++ ": " ++ trouble.reason.message

end DecodeTrouble

/-- The encodings a text can be read in. -/
inductive Encoding where
  | utf8
  /-- UTF-8 whose byte order mark at the start is no part of the text. -/
  | utf8Marked
  | ascii
  | latin1
  deriving DecidableEq, Repr

namespace Encoding

/-- The words of an encoding name in lower case: its runs of letters, digits and points. -/
def nameWords : List Char → List (List Char)
  | [] => [[]]
  | c :: rest =>
    match nameWords rest with
    | [] => [[c.toLower]]
    | word :: more =>
      if c.isAlphanum || c == '.' then (c.toLower :: word) :: more else [] :: word :: more

/-- An encoding name as it is looked up: its words, with low lines between them. -/
def normalName (name : String) : String :=
  "_".intercalate (((nameWords name.toList).filter (· != [])).map String.ofList)

/-- The names of the encodings. -/
def names : List (String × Encoding) :=
  [("utf_8", utf8), ("utf8", utf8), ("utf", utf8), ("u8", utf8), ("utf8_ucs2", utf8),
   ("utf8_ucs4", utf8), ("cp65001", utf8), ("utf_8_sig", utf8Marked), ("ascii", ascii),
   ("us_ascii", ascii), ("us", ascii), ("646", ascii), ("cp367", ascii), ("csascii", ascii),
   ("ibm367", ascii), ("iso646_us", ascii), ("iso_646.irv_1991", ascii), ("iso_ir_6", ascii),
   ("ansi_x3.4_1968", ascii), ("ansi_x3.4_1986", ascii), ("latin_1", latin1),
   ("latin1", latin1), ("latin", latin1), ("l1", latin1), ("iso8859_1", latin1),
   ("iso_8859_1", latin1), ("iso8859", latin1), ("8859", latin1), ("cp819", latin1),
   ("csisolatin1", latin1), ("ibm819", latin1), ("iso_8859_1_1987", latin1),
   ("iso_ir_100", latin1)]

/-- The encoding of a name. -/
def named? (name : String) : Option Encoding := names.lookup (normalName name)

/-- Whether a byte goes on with a character. -/
def isContinuation (b : UInt8) : Bool := 0x80 ≤ b && b < 0xC0

/-- Whether `second` can follow the lead byte of a character of three or four bytes: longer forms
than needed, halves of pairs, and what lies beyond the last code point are no characters. -/
def canFollow (lead second : UInt8) : Bool :=
  isContinuation second &&
    !(lead == 0xE0 && second < 0xA0) && !(lead == 0xED && 0xA0 ≤ second) &&
    !(lead == 0xF0 && second < 0x90) && !(lead == 0xF4 && 0x90 ≤ second)

/-- The six payload bits of a continuation byte. -/
def payload (b : UInt8) : Nat := b.toNat % 64

/-- UTF-8 text from the bytes that start at position `at`. -/
def utf8From (position : Nat) : List UInt8 → Except DecodeTrouble (List Char)
  | [] => .ok []
  | lead :: rest =>
    let trouble (length : Nat) (reason : DecodeReason) : Except DecodeTrouble (List Char) :=
      .error ⟨"utf-8", lead, position, position + length, reason⟩
    if lead < 0x80 then
      (utf8From (position + 1) rest).map (Char.ofNat lead.toNat :: ·)
    else if lead < 0xC2 then trouble 1 .invalidStart
    else if lead < 0xE0 then
      match rest with
      | [] => trouble 1 .unexpectedEnd
      | b :: rest =>
        if isContinuation b then
          (utf8From (position + 2) rest).map
            (Char.ofNat (lead.toNat % 32 * 64 + payload b) :: ·)
        else trouble 1 .invalidContinuation
    else if lead < 0xF0 then
      match rest with
      | [] => trouble 1 .unexpectedEnd
      | [b] => if canFollow lead b then trouble 2 .unexpectedEnd else trouble 1 .invalidContinuation
      | b :: c :: rest =>
        if !canFollow lead b then trouble 1 .invalidContinuation
        else if !isContinuation c then trouble 2 .invalidContinuation
        else
          (utf8From (position + 3) rest).map
            (Char.ofNat ((lead.toNat % 16 * 64 + payload b) * 64 + payload c) :: ·)
    else if lead < 0xF5 then
      match rest with
      | [] => trouble 1 .unexpectedEnd
      | [b] => if canFollow lead b then trouble 2 .unexpectedEnd else trouble 1 .invalidContinuation
      | [b, c] =>
        if !canFollow lead b then trouble 1 .invalidContinuation
        else if !isContinuation c then trouble 2 .invalidContinuation
        else trouble 3 .unexpectedEnd
      | b :: c :: d :: rest =>
        if !canFollow lead b then trouble 1 .invalidContinuation
        else if !isContinuation c then trouble 2 .invalidContinuation
        else if !isContinuation d then trouble 3 .invalidContinuation
        else
          (utf8From (position + 4) rest).map
            (Char.ofNat (((lead.toNat % 8 * 64 + payload b) * 64 + payload c) * 64 + payload d) ::
              ·)
    else trouble 1 .invalidStart

/-- ASCII text from the bytes that start at a position. -/
def asciiFrom (position : Nat) : List UInt8 → Except DecodeTrouble (List Char)
  | [] => .ok []
  | b :: rest =>
    if b < 0x80 then (asciiFrom (position + 1) rest).map (Char.ofNat b.toNat :: ·)
    else .error ⟨"ascii", b, position, position + 1, .outsideAscii⟩

/-- The byte order mark in UTF-8. -/
def mark : List UInt8 := [0xEF, 0xBB, 0xBF]

/-- The bytes without a byte order mark at their start; positions count from there. -/
def withoutMark : List UInt8 → List UInt8
  | 0xEF :: 0xBB :: 0xBF :: rest => rest
  | bytes => bytes

/-- The text that bytes stand for. -/
def decode : Encoding → List UInt8 → Except DecodeTrouble (List Char)
  | utf8, bytes => utf8From 0 bytes
  | utf8Marked, bytes => utf8From 0 (withoutMark bytes)
  | ascii, bytes => asciiFrom 0 bytes
  | latin1, bytes => .ok (bytes.map fun b => Char.ofNat b.toNat)

/-- The text of a file. A file that holds only the beginning of a byte order mark is empty. -/
def decodeFile (encoding : Encoding) (bytes : List UInt8) : Except DecodeTrouble (List Char) :=
  if encoding = utf8Marked && (bytes == mark.take 1 || bytes == mark.take 2) then .ok []
  else (encoding.decode bytes).map Text.unifyLineEnds

/-- The bytes of a character in UTF-8. -/
def charBytes (c : Char) : List UInt8 :=
  let n := c.toNat
  let tail (k : Nat) : UInt8 := UInt8.ofNat (0x80 + k % 64)
  if n < 0x80 then [UInt8.ofNat n]
  else if n < 0x800 then [UInt8.ofNat (0xC0 + n / 64), tail n]
  else if n < 0x10000 then [UInt8.ofNat (0xE0 + n / 4096), tail (n / 64), tail n]
  else [UInt8.ofNat (0xF0 + n / 262144), tail (n / 4096), tail (n / 64), tail n]

/-- The bytes of a text in UTF-8. -/
def utf8Bytes (text : String) : List UInt8 := text.toList.flatMap charBytes

end Encoding

end Vetting

import Vetting.Value

/-!
# Vetting.Json.Writer

Writing a value as JSON text in ASCII: other characters are escaped by their UTF-16 code units.
-/

namespace Vetting.Json

/-- An escape by code unit. -/
def unitEscape (n : Nat) : List Char := '\\' :: 'u' :: Text.hex 4 n

/-- One character inside a JSON string. -/
def jsonChar (c : Char) : List Char :=
  let n := c.toNat
  if c == '"' || c == '\\' then ['\\', c]
  else if 32 ≤ n && n < 127 then [c]
  else if n < 0x10000 then unitEscape n
  else
    let offset := n - 0x10000
    unitEscape (0xD800 + offset / 0x400) ++ unitEscape (0xDC00 + offset % 0x400)

/-- A JSON string. -/
def jsonText (s : String) : String :=
  String.ofList ('"' :: (s.toList.flatMap jsonChar ++ ['"']))

mutual

/-- The value as JSON text. -/
def write : Value → String
  | .null => "null"
  | .bool b => if b then "true" else "false"
  | .int n => toString n
  | .float x => x.text
  | .text s => jsonText s
  | .list items => "[" ++ writeItems items ++ "]"
  | .object fields => "\x7b" ++ writeFields fields ++ "\x7d"

/-- Items as JSON text, with commas between them. -/
def writeItems : List Value → String
  | [] => ""
  | [v] => write v
  | v :: w :: rest => write v ++ "," ++ writeItems (w :: rest)

/-- Fields as JSON text, with commas between them. -/
def writeFields : List (String × Value) → String
  | [] => ""
  | [(k, v)] => jsonText k ++ ":" ++ write v
  | (k, v) :: w :: rest => jsonText k ++ ":" ++ write v ++ "," ++ writeFields (w :: rest)

end

end Vetting.Json

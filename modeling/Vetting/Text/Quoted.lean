import Vetting.Text.Class

/-!
# Vetting.Text.Quoted

Quoted text: between single quotes, or between double quotes when the text holds a single quote
and no double quote. The quote in use and the backslash are written with a backslash, as are line
feed, carriage return and tab; other characters that do not print are written by number.
-/

namespace Vetting.Text

/-- A number in hexadecimal, in lower case, filled up to `width` digits with zeros. -/
def hex (width n : Nat) : List Char :=
  let digits := Nat.toDigits 16 n
  List.replicate (width - digits.length) '0' ++ digits

/-- The quote to write a text with. -/
def quoteFor (text : List Char) : Char :=
  if text.contains '\'' && !text.contains '"' then '"' else '\''

/-- One character inside a pair of quotes. -/
def quoteChar (quote c : Char) : List Char :=
  if c == quote || c == '\\' then ['\\', c]
  else if c == '\n' then ['\\', 'n']
  else if c == '\r' then ['\\', 'r']
  else if c == '\t' then ['\\', 't']
  else if isPrintable c then [c]
  else if c.toNat < 0x100 then '\\' :: 'x' :: hex 2 c.toNat
  else if c.toNat < 0x10000 then '\\' :: 'u' :: hex 4 c.toNat
  else '\\' :: 'U' :: hex 8 c.toNat

/-- The text in quotes. -/
def quoted (text : String) : String :=
  let chars := text.toList
  let quote := quoteFor chars
  String.ofList (quote :: (chars.flatMap (quoteChar quote) ++ [quote]))

end Vetting.Text

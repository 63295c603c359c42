import Vetting.Text.Scan

/-!
# Vetting.Text.Literal

Texts as they are written between quotes. A backslash gives a meaning to the character after it, or
takes its meaning away. Letters before the first quote say that backslashes stand for themselves,
that the text is made of bytes, or that expressions stand in it.

`LiteralForm.ofMark?` reads those letters, and `LiteralForm.body?` reads what stands between quotes.
-/

namespace Vetting

/-- How a text is written. -/
structure LiteralForm where
  /-- Backslashes stand for themselves. -/
  isRaw : Bool := false
  isBytes : Bool := false
  /-- Expressions may stand in it. -/
  isMixed : Bool := false
  deriving Repr

namespace LiteralForm

/-- The form of texts that a word before the quote asks for. -/
def ofMark? (word : List Char) : Option LiteralForm :=
  let lower := word.map Char.toLower
  [([], {}), (['r'], { isRaw := true }), (['u'], {}), (['b'], { isBytes := true }),
   (['f'], { isMixed := true }), (['b', 'r'], { isRaw := true, isBytes := true }),
   (['r', 'b'], { isRaw := true, isBytes := true }),
   (['f', 'r'], { isRaw := true, isMixed := true }),
   (['r', 'f'], { isRaw := true, isMixed := true })].lookup lower

/-- The letters that stand for a character after a backslash. -/
def escapes : List (Char × Char) :=
  [('\\', '\\'), ('\'', '\''), ('"', '"'), ('a', '\x07'), ('b', '\x08'), ('f', '\x0c'),
   ('n', '\n'), ('r', '\r'), ('t', '\t'), ('v', '\x0b')]

/-- The number of exactly `width` hexadecimal digits, and what follows them. -/
def hexadecimal? (width : Nat) (text : List Char) : Option (Nat × List Char) :=
  let digits := text.take width
  if digits.length = width ∧ digits.all fun c => (Text.hexValue? c).isSome then
    some (digits.foldl (fun n c => 16 * n + (Text.hexValue? c).getD 0) 0, text.drop width)
  else none

/-- The characters that what stands after a backslash stands for, and what follows. -/
def unescape? (form : LiteralForm) : List Char → Option (List Char × List Char)
  | [] => none
  | c :: rest =>
    let numbered (width : Nat) : Option (List Char × List Char) :=
      match hexadecimal? width rest with
      | some (n, rest) => if n < 0x110000 then some ([Char.ofNat n], rest) else none
      | none => none
    let isOctal (d : Char) : Bool := '0' ≤ d && d ≤ '7'
    if c = '\n' then some ([], rest)
    else if c = 'x' then numbered 2
    else if c = 'u' ∧ !form.isBytes then numbered 4
    else if c = 'U' ∧ !form.isBytes then numbered 8
    else if c = 'N' ∧ !form.isBytes then none
    else if isOctal c then
      let digits := (c :: rest.takeWhile isOctal).take 3
      some ([Char.ofNat (digits.foldl (fun n d => 8 * n + (d.toNat - 48)) 0)],
        rest.drop (digits.length - 1))
    else
      match escapes.lookup c with
      | some e => some ([e], rest)
      | none => some (['\\', c], rest)

/-- A text up to its closing quotes, and what follows them. A text between single quotes ends on its
line. The fuel bounds the number of characters. -/
def body? (form : LiteralForm) (closing : List Char) :
    (fuel : Nat) → List Char → Option (List Char × List Char)
  | 0, _ => none
  | fuel + 1, cs =>
    match Text.after? closing cs with
    | some rest => some ([], rest)
    | none =>
      match cs with
      | [] => none
      | '\\' :: rest =>
        if form.isRaw then
          match rest with
          | [] => none
          | c :: rest =>
            (body? form closing fuel rest).map fun (body, rest) => ('\\' :: c :: body, rest)
        else
          match unescape? form rest with
          | none => none
          | some (found, rest) =>
            (body? form closing fuel rest).map fun (body, rest) => (found ++ body, rest)
      | c :: rest =>
        if (c = '\n' ∧ closing.length = 1) ∨ (form.isBytes ∧ 128 ≤ c.toNat) then none
        else (body? form closing fuel rest).map fun (body, rest) => (c :: body, rest)

end LiteralForm

end Vetting

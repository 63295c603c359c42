import Vetting.Text.CaseVariant
import Vetting.Text.Class

/-!
# Vetting.Text.Pattern

Patterns of text, and matching one at a place of a text. Choices are ordered: of two alternatives
the first is tried first, and a repetition tries more rounds before fewer, or fewer before more. A
pattern that has matched is tried in its next way when what stands after it does not match, so a
match is the first way, in this order, in which the whole pattern can be matched.

`Pattern.run` takes what is to come as an argument, and `Pattern.rest?` gives what a match leaves.
-/

namespace Vetting

/-- The kinds of characters that a pattern can name. -/
inductive CharKind where
  | word
  | decimal
  | blank
  /-- Blanks that stay on the line. -/
  | level
  | letter
  | number
  | mark
  /-- The ASCII characters of a kind. -/
  | ascii (kind : CharKind)
  deriving DecidableEq, Repr

namespace CharKind

/-- Whether a character is of a kind. -/
def admits (c : Char) : CharKind → Bool
  | word => isWord c
  | decimal => isDecimal c
  | blank => isBlank c
  | level => isBlank c && !isLineBreak c
  | letter => isLetter c
  | number => isLetterOrNumber c && !isLetter c
  | mark => decide (128 ≤ c.toNat) && Text.Table.marks.covers c.toNat
  | ascii kind => decide (c.toNat < 128) && admits c kind

end CharKind

/-- One entry of a set of characters. -/
inductive SetEntry where
  /-- The characters from one number to another. -/
  | range (first last : Nat)
  /-- The characters of a kind, or all others. -/
  | ofKind (kind : CharKind) (isNegated : Bool)
  deriving DecidableEq, Repr

namespace SetEntry

/-- Whether an entry holds a character. -/
def admits (c : Char) : SetEntry → Bool
  | range first last => decide (first ≤ c.toNat) && decide (c.toNat ≤ last)
  | ofKind kind isNegated => isNegated != kind.admits c

end SetEntry

/-- A set of characters: those that an entry holds, or all others. -/
structure CharSet where
  isNegated : Bool := false
  entries : List SetEntry
  /-- An entry holds a character with all that differ from it by their case only. -/
  ignoresCase : Bool := false
  deriving DecidableEq, Repr

namespace CharSet

/-- Whether a set holds a character. -/
def admits (set : CharSet) (c : Char) : Bool :=
  let variants := if set.ignoresCase then Text.caseVariants c else [c]
  set.isNegated != variants.any fun v => set.entries.any (·.admits v)

/-- The set of one character, by its number. -/
def single (number : Nat) : CharSet := { entries := [.range number number] }

/-- The set of the characters of a kind, or of all others. -/
def ofKind (kind : CharKind) (isNegated : Bool) : CharSet :=
  { entries := [.ofKind kind isNegated] }

/-- All characters that do not end a line. -/
def level : CharSet := { isNegated := true, entries := [.range 10 10] }

/-- All characters. -/
def all : CharSet := { isNegated := true, entries := [] }

end CharSet

/-- What can be asked of a place without reading on. -/
inductive Anchor where
  | textStart
  | textEnd
  /-- The end, or before a newline at the end. -/
  | lastLineEnd
  /-- The start of the text or of a line in it. -/
  | lineStart
  /-- The end of the text or of a line in it. -/
  | lineEnd
  /-- Between a word character and another one, or an end. -/
  | wordEdge
  | noWordEdge
  | wordStart
  | wordEnd
  /-- Where the match starts. -/
  | matchStart
  deriving DecidableEq, Repr

/-- In which order the numbers of rounds are tried. -/
inductive Greed where
  /-- More rounds before fewer. -/
  | more
  /-- Fewer rounds before more. -/
  | fewer
  /-- As many rounds as there can be, and no other number. -/
  | all
  deriving DecidableEq, Repr

/-- A pattern of text. -/
inductive Pattern where
  | empty
  | one (set : CharSet)
  /-- A character with the marks that stand on it. -/
  | cluster
  | stands (anchor : Anchor)
  | both (first second : Pattern)
  | either (first second : Pattern)
  | times (body : Pattern) (least : Nat) (most : Option Nat) (greed : Greed)
  /-- A part whose match is kept under a number. -/
  | group (number : Nat) (body : Pattern)
  /-- What was last kept under a number, once more. -/
  | again (number : Nat)
  /-- A part of which only the first way to match it counts. -/
  | whole (body : Pattern)
  /-- Whether a part matches from here on, or does not. -/
  | ahead (isNegated : Bool) (body : Pattern)
  /-- Whether a part matches up to here, or does not. -/
  | behind (isNegated : Bool) (body : Pattern)
  deriving DecidableEq, Repr

/-- A place in a text, and what a match has kept on the way to it. -/
structure Cursor where
  /-- What stands before, the nearest character first. -/
  behind : List Char
  ahead : List Char
  /-- How many characters stand before the start of the match. -/
  start : Nat
  /-- What was kept, the latest first. -/
  kept : List (Nat × List Char) := []
  deriving Repr

namespace Cursor

/-- The place after the next character. -/
def next? (place : Cursor) : Option (Char × Cursor) :=
  match place.ahead with
  | [] => none
  | c :: rest => some (c, { place with behind := c :: place.behind, ahead := rest })

/-- The place after a text that stands ahead. -/
def after? : List Char → Cursor → Option Cursor
  | [], place => some place
  | c :: text, place =>
    match place.next? with
    | some (d, place) => if c = d then after? text place else none
    | none => none

/-- The place after `count` characters. -/
def skip : Nat → Cursor → Cursor
  | 0, place => place
  | count + 1, place =>
    match place.next? with
    | some (_, place) => skip count place
    | none => place

/-- The place `count` characters before. -/
def back : Nat → Cursor → Cursor
  | 0, place => place
  | count + 1, place =>
    match place.behind with
    | c :: rest => back count { place with behind := rest, ahead := c :: place.ahead }
    | [] => place

/-- The place with what was read since an earlier one kept under a number. -/
def keep (number : Nat) (earlier place : Cursor) : Cursor :=
  let read := place.behind.take (place.behind.length - earlier.behind.length)
  { place with kept := (number, read.reverse) :: place.kept }

/-- Whether a word character stands before. -/
def isAfterWord (place : Cursor) : Bool := (place.behind.head?.map isWord).getD false

/-- Whether a word character stands ahead. -/
def isBeforeWord (place : Cursor) : Bool := (place.ahead.head?.map isWord).getD false

/-- Whether an anchor holds at a place. -/
def holds (place : Cursor) : Anchor → Bool
  | .textStart => place.behind.isEmpty
  | .textEnd => place.ahead.isEmpty
  | .lastLineEnd => place.ahead.isEmpty || place.ahead == ['\n']
  | .lineStart => place.behind.isEmpty || place.behind.head? == some '\n'
  | .lineEnd => place.ahead.isEmpty || place.ahead.head? == some '\n'
  | .wordEdge => place.isAfterWord != place.isBeforeWord
  | .noWordEdge => place.isAfterWord == place.isBeforeWord
  | .wordStart => !place.isAfterWord && place.isBeforeWord
  | .wordEnd => place.isAfterWord && !place.isBeforeWord
  | .matchStart => place.behind.length == place.start

/-- The place after a character and the marks and joiners on it. A carriage return and a newline
together are one. -/
def afterCluster? (place : Cursor) : Option Cursor :=
  match place.ahead with
  | [] => none
  | '\r' :: '\n' :: _ => some (place.skip 2)
  | c :: rest =>
    let standsOn (d : Char) : Bool :=
      CharKind.mark.admits d || (decide (128 ≤ d.toNat) && Text.Table.joiners.covers d.toNat)
    if isPrintable c then some (place.skip (1 + (rest.takeWhile standsOn).length))
    else some (place.skip 1)

end Cursor

namespace Pattern

/-- What is to come: the place where all of it ends, from the place where it starts. -/
abbrev Sequel := Cursor → Option Cursor

/-- Rounds of `round`, and then the sequel. A round that reads nothing is the last one. The fuel
bounds the rounds that read something. -/
def rounds (round : Sequel → Sequel) (greed : Greed) :
    (fuel least : Nat) → (most : Option Nat) → Sequel → Sequel
  | 0, _, _, sequel => sequel
  | fuel + 1, least, most, sequel => fun place =>
    let another (_ : Unit) : Option Cursor :=
      if most = some 0 then none
      else
        round (fun next =>
          if next.ahead.length < place.ahead.length then
            rounds round greed fuel (least - 1) (most.map (· - 1)) sequel next
          else sequel next) place
    if 0 < least then another ()
    else if greed = .fewer then (sequel place).orElse another
    else (another ()).orElse fun _ => sequel place

/-- Match a pattern from a place on, and then the sequel. -/
def run : Pattern → Sequel → Sequel
  | empty => fun sequel => sequel
  | one set => fun sequel place =>
    match place.next? with
    | some (c, next) => if set.admits c then sequel next else none
    | none => none
  | cluster => fun sequel place => place.afterCluster?.bind sequel
  | stands anchor => fun sequel place => if place.holds anchor then sequel place else none
  | both first second => fun sequel => run first (run second sequel)
  | either first second => fun sequel place =>
    (run first sequel place).orElse fun _ => run second sequel place
  | times body least most greed => fun sequel place =>
    let fuel := place.ahead.length + 1
    match greed with
    | .all => (rounds (run body) greed fuel least most some place).bind sequel
    | greed => rounds (run body) greed fuel least most sequel place
  | group number body => fun sequel place =>
    run body (fun next => sequel (Cursor.keep number place next)) place
  | again number => fun sequel place =>
    match place.kept.lookup number with
    | some text => (place.after? text).bind sequel
    | none => none
  | whole body => fun sequel place => (run body some place).bind sequel
  | ahead isNegated body => fun sequel place =>
    match run body some place with
    | some found => if isNegated then none else sequel { place with kept := found.kept }
    | none => if isNegated then sequel place else none
  | behind isNegated body => fun sequel place =>
    let upTo (next : Cursor) : Option Cursor :=
      if next.ahead.length = place.ahead.length then some next else none
    match (List.range (place.behind.length + 1)).findSome? fun count =>
        run body upTo (place.back count) with
    | some found => if isNegated then none else sequel { place with kept := found.kept }
    | none => if isNegated then sequel place else none

/-- What the match of a pattern at the start of `text` leaves; `before` stands before the text, the
nearest character first. -/
def rest? (pattern : Pattern) (before text : List Char) : Option (List Char) :=
  (pattern.run some ⟨before, text, before.length, []⟩).map (·.ahead)

/-- Patterns one after the other. -/
def sequence (patterns : List Pattern) : Pattern :=
  match patterns with
  | [] => empty
  | [pattern] => pattern
  | first :: rest => both first (sequence rest)

end Pattern

end Vetting

import Vetting.Header
import Vetting.Proofs.Text.Line

/-!
# Vetting.Proofs.Header.Scan

The scan of a header, line by line. Between two lines it knows no more than whether a block comment
is open, or that the header has ended; so what two texts import together is what the first one
imports, and what the second one does behind the place where the first one was left.

* `importsOf_append`: the lines of a text, and more lines behind them.
* `imports_append_newline`: a text, a line feed, and another text.
-/

namespace Vetting

namespace Header

open Text

/-- Where a scan is left: the header has ended, or it may go on, with a block comment open or
not. -/
inductive Ending where
  | stopped
  | reached (isOpen : Open)
  deriving DecidableEq, Repr

variable (dialect : Dialect)

/-- Where the scan is left by one line. -/
def endingOfLine (isOpen : Open) (raw : List Char) : Ending :=
  match uncomment isOpen (trim raw) with
  | (isOpen', none) => .reached isOpen'
  | (isOpen', some line) =>
    match readLine dialect line with
    | .ended => .stopped
    | _ => .reached isOpen'

/-- Where the scan is left by some lines: at the first of them that ends the header, or behind
all. -/
def endingOf : Open → List (List Char) → Ending
  | isOpen, [] => .reached isOpen
  | isOpen, raw :: more =>
    match endingOfLine dialect isOpen raw with
    | .stopped => .stopped
    | .reached isOpen' => endingOf isOpen' more

/-- Where the scan of a text is left. -/
def ending (text : String) : Ending := endingOf dialect false (lines text.toList)

/-- What the lines behind the place where a scan was left import. -/
def Ending.importsBehind (more : List (List Char)) : Ending → List Import
  | .stopped => []
  | .reached isOpen => importsOf dialect isOpen more

variable {dialect} {isOpen : Open}

@[simp] theorem Ending.importsBehind_stopped (more : List (List Char)) :
    Ending.stopped.importsBehind dialect more = [] := rfl

@[simp] theorem Ending.importsBehind_reached (more : List (List Char)) :
    (Ending.reached isOpen).importsBehind dialect more = importsOf dialect isOpen more := rfl

/-- One line: its own import, and those of what follows from where it leaves the scan. -/
theorem importsOf_cons (raw : List Char) (more : List (List Char)) :
    importsOf dialect isOpen (raw :: more) =
      importsOf dialect isOpen [raw] ++
        (endingOfLine dialect isOpen raw).importsBehind dialect more := by
  obtain ⟨isOpen', line?, hraw⟩ : ∃ isOpen' line?,
      uncomment isOpen (trim raw) = (isOpen', line?) := ⟨_, _, rfl⟩
  cases line? with
  | none => simp [importsOf, endingOfLine, hraw]
  | some line =>
    cases hread : readLine dialect line with
    | skipped => simp [importsOf, endingOfLine, hraw, hread]
    | ended => simp [importsOf, endingOfLine, hraw, hread]
    | imported path isPlain => simp [importsOf, endingOfLine, hraw, hread]

/-- Lines and more lines, by induction on the first ones. -/
theorem importsOf_append (front back : List (List Char)) :
    importsOf dialect isOpen (front ++ back) =
      importsOf dialect isOpen front ++
        (endingOf dialect isOpen front).importsBehind dialect back := by
  induction front generalizing isOpen with
  | nil => rfl
  | cons raw more ih =>
    rw [List.cons_append, importsOf_cons, importsOf_cons raw more, endingOf]
    cases endingOfLine dialect isOpen raw with
    | stopped => simp
    | reached isOpen' =>
      simp only [Ending.importsBehind_reached]
      rw [ih, List.append_assoc]

/-- A blank line says nothing, inside a block comment as outside. -/
theorem importsOf_blank {raw : List Char} (hraw : trim raw = []) (more : List (List Char)) :
    importsOf dialect isOpen (raw :: more) = importsOf dialect isOpen more := by
  rw [importsOf, hraw]
  cases isOpen with
  | false => rfl
  | true => rfl

theorem importsBehind_blank {blank : List (List Char)} (hblank : blank = [] ∨ blank = [[]])
    (more : List (List Char)) (ending : Ending) :
    ending.importsBehind dialect (blank ++ more) = ending.importsBehind dialect more := by
  rcases hblank with rfl | rfl
  · rfl
  · cases ending with
    | stopped => rfl
    | reached isOpen => exact importsOf_blank rfl more

/-- A line that opens a block comment leaves it open. -/
theorem importsOf_opening (more : List (List Char)) :
    importsOf dialect false (['/', '*'] :: more) = importsOf dialect true more := rfl

theorem imports_append_newline (front back : List Char) :
    imports dialect (front ++ '\n' :: back) =
      imports dialect front ++
        (endingOf dialect false (lines front)).importsBehind dialect (lines back) := by
  obtain ⟨blank, hblank, hlines⟩ := exists_lines_append front back
  rw [imports, hlines, importsOf_append, importsBehind_blank hblank]
  rfl

theorem imports_opening (back : List Char) :
    imports dialect ('/' :: '*' :: '\n' :: back) = importsOf dialect true (lines back) := by
  have hlines : lines (['/', '*'] ++ '\n' :: back) = ['/', '*'] :: lines back :=
    lines_append_newline (by decide) back
  rw [imports]
  exact (congrArg (importsOf dialect false) hlines).trans (importsOf_opening _)

end Header

end Vetting

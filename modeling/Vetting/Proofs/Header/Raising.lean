import Vetting.Proofs.Header.Scan
import Vetting.UnusedImport

/-!
# Vetting.Proofs.Header.Raising

What reading a header raises. The grammar of an extended dialect may call a rule that it does not
have. Reading any line by it raises the same fault, so what counts is whether a header has a line
that opens with an import keyword; before the first such line nothing is imported.

* `Dialect.grammarFault?_of_ordinary`: the grammar of an ordinary dialect calls no such rule.
* `Header.scan_eq`: what reading a header gives or raises.
* `Header.scanNames_append_newline`: a text, a line feed, and another text.
-/

namespace Vetting

variable {dialect : Dialect}

/-- Only an escape mark that closes the pattern of names can call a rule that is not there. -/
theorem Dialect.grammarFault?_of_ordinary (h : dialect.isExtended = false) :
    dialect.grammarFault? = none := by
  have htrouble : dialect.grammarTrouble? = none ∨ dialect.grammarTrouble? = some .incomplete ∨
      dialect.grammarTrouble? = some .unwritable := by
    rw [grammarTrouble?, if_neg (Bool.eq_false_iff.1 h)]
    split
    · exact .inr (.inl rfl)
    · split
      · exact .inl rfl
      · exact .inr (.inr rfl)
  rcases htrouble with htrouble | htrouble | htrouble <;> rw [grammarFault?, htrouble]

namespace Header

open Text

/-- Whether a header has a line that opens with an import keyword. -/
def asksOf (dialect : Dialect) : Open → List (List Char) → Bool
  | _, [] => false
  | isOpen, raw :: more =>
    match uncomment isOpen (trim raw) with
    | (isOpen, none) => asksOf dialect isOpen more
    | (isOpen, some line) =>
      if isPassedOver line then asksOf dialect isOpen more
      else (afterKeyword? dialect.importKeywords line).isSome

/-- Whether the header of a text has a line that opens with an import keyword. -/
def asks (dialect : Dialect) (text : List Char) : Bool := asksOf dialect false (lines text)

/-- What reading the header of a text raises: the fault of the grammar, if a line is read by it. -/
def raisedBy? (dialect : Dialect) (text : List Char) : Option Fault :=
  if asks dialect text then dialect.grammarFault? else none

variable {isOpen : Open} {line : List Char}

theorem read_of_sound (h : dialect.grammarFault? = none) (line : List Char) :
    read dialect line = .ok (readLine dialect line) := by
  rw [read, readLine]
  split
  · rfl
  · cases afterKeyword? dialect.importKeywords line with
    | none => rfl
    | some body =>
      simp only [Directive.parse, h]
      cases Directive.parse? dialect line <;> rfl

theorem scanLines_of_sound (h : dialect.grammarFault? = none) (isOpen : Open)
    (lines : List (List Char)) :
    scanLines dialect isOpen lines = .ok (importsOf dialect isOpen lines) := by
  induction lines generalizing isOpen with
  | nil => rfl
  | cons raw more ih =>
    rw [scanLines, importsOf]
    split
    · exact ih _
    · next line _ =>
      rw [read_of_sound h]
      cases hread : readLine dialect line with
      | skipped => exact ih _
      | ended => rfl
      | imported path isPlain =>
        simp only [ih]
        rfl

/-- The first line that opens with an import keyword raises, and without one nothing is
imported. -/
theorem scanLines_of_fault {fault : Fault} (h : dialect.grammarFault? = some fault)
    (isOpen : Open) (lines : List (List Char)) :
    scanLines dialect isOpen lines =
      if asksOf dialect isOpen lines then .error fault
      else .ok (importsOf dialect isOpen lines) := by
  induction lines generalizing isOpen with
  | nil => rfl
  | cons raw more ih =>
    obtain ⟨isOpen', line?, hraw⟩ : ∃ isOpen' line?,
        uncomment isOpen (trim raw) = (isOpen', line?) := ⟨_, _, rfl⟩
    simp only [scanLines, asksOf, importsOf, hraw]
    cases line? with
    | none => exact ih isOpen'
    | some line =>
      simp only [read, readLine]
      by_cases hpassed : isPassedOver line = true
      · simp only [hpassed, if_true]
        exact ih isOpen'
      · simp only [hpassed, Bool.false_eq_true, if_false]
        cases afterKeyword? dialect.importKeywords line with
        | none => rfl
        | some body =>
          simp only [Directive.parse, h]
          rfl

/-- Reading a header gives its imports, unless a line of it is read by a grammar that raises. -/
theorem scan_eq (dialect : Dialect) (text : List Char) :
    scan dialect text =
      match raisedBy? dialect text with
      | some fault => .error fault
      | none => .ok (imports dialect text) := by
  rw [scan, imports, raisedBy?, asks]
  cases h : dialect.grammarFault? with
  | none =>
    rw [scanLines_of_sound h, ite_self]
  | some fault =>
    rw [scanLines_of_fault h]
    cases asksOf dialect false (lines text) <;> rfl

theorem namesOf_imports (text : String) :
    namesOf (imports dialect text.toList) = importedNames dialect text := by
  simp only [namesOf, importedNames, namespaces, List.map_map, Function.comp_def]

theorem scanNames_eq (dialect : Dialect) (text : String) :
    scanNames dialect text =
      match raisedBy? dialect text.toList with
      | some fault => .error fault
      | none => .ok (importedNames dialect text) := by
  rw [scanNames, scan_eq]
  cases raisedBy? dialect text.toList with
  | some fault => rfl
  | none => exact congrArg Except.ok (namesOf_imports text)

theorem scanNames_of_sound (h : dialect.grammarFault? = none) (text : String) :
    scanNames dialect text = .ok (importedNames dialect text) := by
  rw [scanNames_eq, raisedBy?, h, ite_self]

/-! ## Texts behind one another -/

/-- Whether the lines behind the place where a scan was left have one that opens with an import
keyword. -/
def Ending.asksBehind (dialect : Dialect) (more : List (List Char)) : Ending → Bool
  | .stopped => false
  | .reached isOpen => asksOf dialect isOpen more

theorem asksOf_append (front back : List (List Char)) :
    asksOf dialect isOpen (front ++ back) =
      (asksOf dialect isOpen front ||
        (endingOf dialect isOpen front).asksBehind dialect back) := by
  induction front generalizing isOpen with
  | nil => rfl
  | cons raw more ih =>
    obtain ⟨isOpen', line?, hraw⟩ : ∃ isOpen' line?,
        uncomment isOpen (trim raw) = (isOpen', line?) := ⟨_, _, rfl⟩
    simp only [List.cons_append, asksOf, endingOf, endingOfLine, hraw]
    cases line? with
    | none => exact ih
    | some line =>
      by_cases hpassed : isPassedOver line = true
      · simp only [hpassed, if_true, readLine]
        exact ih
      · simp only [hpassed, Bool.false_eq_true, if_false, readLine]
        cases afterKeyword? dialect.importKeywords line with
        | none => rfl
        | some body => simp

theorem asksBehind_blank {blank : List (List Char)} (hblank : blank = [] ∨ blank = [[]])
    (more : List (List Char)) (ending : Ending) :
    ending.asksBehind dialect (blank ++ more) = ending.asksBehind dialect more := by
  rcases hblank with rfl | rfl
  · rfl
  · rcases ending with _ | _ | _ <;> rfl

theorem asks_append_newline (front back : List Char) :
    asks dialect (front ++ '\n' :: back) =
      (asks dialect front ||
        (endingOf dialect false (lines front)).asksBehind dialect (lines back)) := by
  obtain ⟨blank, hblank, hlines⟩ := exists_lines_append front back
  rw [asks, hlines, asksOf_append, asksBehind_blank hblank]
  rfl

theorem asks_opening (back : List Char) :
    asks dialect ('/' :: '*' :: '\n' :: back) = asksOf dialect true (lines back) := by
  have hlines : lines (['/', '*'] ++ '\n' :: back) = ['/', '*'] :: lines back :=
    lines_append_newline (by decide) back
  rw [asks]
  exact congrArg (asksOf dialect false) hlines

/-- What is read of a text behind one that leaves the scan at an ending: nothing where the header
has ended, the text by itself, or the text behind a line that opens a block comment. -/
def Ending.scanBehind (dialect : Dialect) (back : String) : Ending → Except Fault (List String)
  | .stopped => .ok []
  | .reached false => scanNames dialect back
  | .reached true => scanNames dialect ("/*\n" ++ back)

theorem scanBehind_eq (back : String) (ending : Ending) :
    ending.scanBehind dialect back =
      match (if ending.asksBehind dialect (lines back.toList) then dialect.grammarFault?
        else none) with
      | some fault => .error fault
      | none => .ok (namesOf (ending.importsBehind dialect (lines back.toList))) := by
  have hopening : ("/*\n" ++ back).toList = '/' :: '*' :: '\n' :: back.toList := by simp
  rcases ending with _ | _ | _
  · rfl
  · exact scanNames_eq dialect back |>.trans (by rw [← namesOf_imports]; rfl)
  · rw [Ending.scanBehind, scanNames_eq, ← namesOf_imports, raisedBy?, hopening, asks_opening,
      imports_opening]
    rfl

/-- Two texts with a line feed between them. What reading the first one raises is raised. Where the
first one ends the header, the second one adds nothing. Else it adds what it imports by itself, or,
where the first one leaves a block comment open, what it imports behind a line that opens one; and
what reading that raises is raised. -/
theorem scanNames_append_newline (dialect : Dialect) (front back : String) :
    scanNames dialect (front ++ "\n" ++ back) = do
      let first ← scanNames dialect front
      let more ← (ending dialect front).scanBehind dialect back
      return first ++ more := by
  have htext : (front ++ "\n" ++ back).toList = front.toList ++ '\n' :: back.toList := by simp
  rw [scanBehind_eq, scanNames_eq, scanNames_eq, ← namesOf_imports, ← namesOf_imports,
    raisedBy?, raisedBy?, htext, asks_append_newline, imports_append_newline, ending]
  cases dialect.grammarFault? with
  | none => simp [namesOf, bind, Except.bind, pure, Except.pure]
  | some fault =>
    cases asks dialect front.toList with
    | true => rfl
    | false =>
      cases (endingOf dialect false (lines front.toList)).asksBehind dialect
          (lines back.toList) with
      | true => rfl
      | false => simp [namesOf, bind, Except.bind, pure, Except.pure]

/-- A carriage return at the cut joins the line feed; it makes no line of its own. -/
example : endingOf .standard false (lines "/* a\r".toList) = .reached true := by decide +kernel

end Header

end Vetting

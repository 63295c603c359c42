import Vetting.Proofs.Sweep.Region
import Vetting.Proofs.Text.Line
import Vetting.UnusedImport

/-!
# Vetting.Proofs.UnusedImport.CarriageReturn

A carriage return before every line feed changes nothing: neither what a text imports, nor the
identifiers of its code, nor which of its imports are unused.

* `lines_withReturns`: the lines of the text are the same.
* `step_withReturns`: so is every step of the sweep, but for one that takes a line feed along
  behind a backslash. There the sweep over the other text takes the carriage return along instead,
  and passes over the line feed in a step of its own.
* `find_withReturns`: the imports, the identifiers and the unused imports, from the two runs.
-/

namespace Vetting

namespace Text

/-- The text with a carriage return before every line feed. -/
def withReturns (text : List Char) : List Char :=
  text.flatMap fun c => if c = '\n' then ['\r', '\n'] else [c]

@[simp] theorem withReturns_nil : withReturns [] = [] := rfl

@[simp] theorem withReturns_newline (text : List Char) :
    withReturns ('\n' :: text) = '\r' :: '\n' :: withReturns text := rfl

theorem withReturns_cons {c : Char} (h : c ≠ '\n') (text : List Char) :
    withReturns (c :: text) = c :: withReturns text := by
  simp [withReturns, h]

theorem lines_withReturns {text : List Char} (h : '\r' ∉ text) :
    lines (withReturns text) = lines text := by
  induction text with
  | nil => rfl
  | cons c text ih =>
    have hc : c ≠ '\r' := fun hc => h (hc ▸ List.mem_cons_self)
    have hlines := ih fun hmem => h (List.mem_cons_of_mem c hmem)
    by_cases hn : c = '\n'
    · subst hn
      rw [withReturns_newline, lines.eq_2, hlines,
        lines_cons_of_break (by decide) fun hr => absurd hr (by decide)]
    · rw [withReturns_cons hn]
      cases hbreak : isLineBreak c with
      | true =>
        rw [lines_cons_of_break hbreak fun hr => absurd hr hc, hlines,
          lines_cons_of_break hbreak fun hr => absurd hr hc]
      | false => rw [lines_cons_of_plain hbreak, hlines, lines_cons_of_plain hbreak]

theorem head?_withReturns (mark : Char) (hr : mark ≠ '\r') (hn : mark ≠ '\n') (text : List Char) :
    (withReturns text).head? = some mark ↔ text.head? = some mark := by
  cases text with
  | nil => rfl
  | cons c text =>
    by_cases hc : c = '\n'
    · subst hc
      simp [Ne.symm hr, Ne.symm hn]
    · rw [withReturns_cons hc]
      rfl

theorem tail_withReturns {text : List Char} (h : text.head? ≠ some '\n') :
    (withReturns text).tail = withReturns text.tail := by
  cases text with
  | nil => rfl
  | cons c text =>
    have hc : c ≠ '\n' := fun hc => h (by rw [hc]; rfl)
    rw [withReturns_cons hc]
    rfl

theorem takeWhile_withReturns {p : Char → Bool} (hr : p '\r' = false) (hn : p '\n' = false)
    (text : List Char) : (withReturns text).takeWhile p = text.takeWhile p := by
  induction text with
  | nil => rfl
  | cons c text ih =>
    by_cases hc : c = '\n'
    · subst hc
      simp [hr, hn]
    · rw [withReturns_cons hc, List.takeWhile_cons, List.takeWhile_cons, ih]

theorem dropWhile_withReturns {p : Char → Bool} (hr : p '\r' = false) (hn : p '\n' = false)
    (text : List Char) : (withReturns text).dropWhile p = withReturns (text.dropWhile p) := by
  induction text with
  | nil => rfl
  | cons c text ih =>
    by_cases hc : c = '\n'
    · subst hc
      simp [hr, hn]
    · rw [withReturns_cons hc, List.dropWhile_cons, List.dropWhile_cons, ih]
      split
      · rfl
      · rw [withReturns_cons hc]

end Text

namespace Sweep

open Text

variable {region : Region} {c : Char}

/-- What a step finds, with carriage returns in what it leaves. -/
def Step.withReturns (found : Step) : Step := { found with rest := Text.withReturns found.rest }

theorem identifierFrom_withReturns (c : Char) (rest : List Char) :
    identifierFrom c (withReturns rest) = (identifierFrom c rest).withReturns := by
  simp only [identifierFrom, Step.withReturns,
    takeWhile_withReturns (show isIdentifierPart '\r' = false by decide)
      (show isIdentifierPart '\n' = false by decide),
    dropWhile_withReturns (show isIdentifierPart '\r' = false by decide)
      (show isIdentifierPart '\n' = false by decide)]

theorem tail_withReturns_of_mark {mark : Char} (hn : mark ≠ '\n') {rest : List Char}
    (h : rest.head? = some mark) : (withReturns rest).tail = withReturns rest.tail :=
  tail_withReturns fun hnewline => hn (Option.some.inj (h.symm.trans hnewline))

theorem codeStep_withReturns (c : Char) (rest : List Char) :
    codeStep .standard c (withReturns rest) = (codeStep .standard c rest).withReturns := by
  have hslash := head?_withReturns '/' (by decide) (by decide) rest
  have hstar := head?_withReturns '*' (by decide) (by decide) rest
  have hquote := head?_withReturns '"' (by decide) (by decide) rest
  simp only [codeStep, hslash, hstar, hquote]
  by_cases hline : c = '/' ∧ rest.head? = some '/'
  · rw [if_pos hline, if_pos hline, tail_withReturns_of_mark (by decide) hline.2]
    rfl
  rw [if_neg hline, if_neg hline]
  by_cases hblock : c = '/' ∧ rest.head? = some '*'
  · rw [if_pos hblock, if_pos hblock, tail_withReturns_of_mark (by decide) hblock.2]
    rfl
  rw [if_neg hblock, if_neg hblock]
  by_cases hraw : isMark Dialect.standard.rawStringMark c = true ∧ rest.head? = some '"'
  · rw [if_pos hraw, if_pos hraw, tail_withReturns_of_mark (by decide) hraw.2]
    rfl
  rw [if_neg hraw, if_neg hraw]
  by_cases hstring : c = '"'
  · rw [if_pos hstring, if_pos hstring]
    rfl
  rw [if_neg hstring, if_neg hstring]
  by_cases hcharacter : c = '\''
  · rw [if_pos hcharacter, if_pos hcharacter]
    rfl
  rw [if_neg hcharacter, if_neg hcharacter]
  have plain : (if isIdentifierStart c = true then identifierFrom c (withReturns rest)
      else ⟨.code, none, withReturns rest⟩) =
        (if isIdentifierStart c = true then identifierFrom c rest
          else ⟨.code, none, rest⟩).withReturns := by
    split
    · exact identifierFrom_withReturns c rest
    · rfl
  -- Neither mark of a line end starts an identifier behind an escape mark.
  cases isMark Dialect.standard.escapeMark c with
  | false => exact plain
  | true =>
    cases rest with
    | nil => exact plain
    | cons next more =>
      by_cases hnext : next = '\n'
      · subst hnext
        rw [withReturns_newline] at plain ⊢
        simp only [show isIdentifierStart '\r' = false by decide,
          show isIdentifierStart '\n' = false by decide]
        exact plain
      · rw [withReturns_cons hnext] at plain ⊢
        simp only
        split
        · exact identifierFrom_withReturns next more
        · exact plain

theorem literalStep_withReturns (inside : Region) (quote c : Char) {rest : List Char}
    (h : c = '\\' → rest.head? ≠ some '\n') :
    literalStep inside quote c (withReturns rest) =
      (literalStep inside quote c rest).withReturns := by
  simp only [literalStep]
  split
  · next hc =>
    rw [tail_withReturns (h hc)]
    rfl
  · split <;> rfl

/-- In a literal a backslash takes the next character along. -/
def TakesNewline (region : Region) (c : Char) (rest : List Char) : Prop :=
  (region = .string ∨ region = .character) ∧ c = '\\' ∧ rest.head? = some '\n'

theorem step_withReturns {rest : List Char} (h : ¬ TakesNewline region c rest) :
    step .standard region c (withReturns rest) = (step .standard region c rest).withReturns := by
  cases region with
  | code => exact codeStep_withReturns c rest
  | lineComment => rfl
  | string => exact literalStep_withReturns _ _ _ fun hc hn => h ⟨.inl rfl, hc, hn⟩
  | character => exact literalStep_withReturns _ _ _ fun hc hn => h ⟨.inr rfl, hc, hn⟩
  | blockComment =>
    simp only [step, head?_withReturns '/' (by decide) (by decide)]
    split
    · next hc =>
      rw [tail_withReturns_of_mark (by decide) hc.2]
      rfl
    · rfl
  | rawString =>
    simp only [step, head?_withReturns '"' (by decide) (by decide)]
    split
    · next hc =>
      rw [tail_withReturns_of_mark (by decide) hc.2]
      rfl
    · split <;> rfl

/-- A carriage return is passed over in every region. -/
theorem step_return (region : Region) (rest : List Char) :
    step .standard region '\r' rest = ⟨region, none, rest⟩ := by
  have hstart : isIdentifierStart '\r' = false := by decide
  cases region <;>
    simp [step, codeStep, literalStep, isMark, Dialect.standard, hstart]

/-- So is a line feed, but for its ending a line comment. -/
theorem step_newline (region : Region) (rest : List Char) :
    step .standard region '\n' rest =
      ⟨if region = .lineComment then .code else region, none, rest⟩ := by
  have hstart : isIdentifierStart '\n' = false := by decide
  cases region <;>
    simp [step, codeStep, literalStep, isMark, Dialect.standard, hstart]

/-- The sweep over the text with carriage returns, by induction on how long the text is: it is
behind one step of the sweep over the text where a line feed is read. -/
theorem run_withReturns (region : Region) (text : List Char) :
    run .standard region (withReturns text) = run .standard region text := by
  induction hlen : text.length using Nat.strongRecOn generalizing region text with
  | ind n ih =>
    cases text with
    | nil => rfl
    | cons c rest =>
      rw [List.length_cons] at hlen
      by_cases hnewline : c = '\n'
      · subst hnewline
        rw [withReturns_newline, run_of_step (step_return region _),
          run_of_step (step_newline region _), run_of_step (step_newline region _)]
        exact ih rest.length (by omega) _ rest rfl
      rw [withReturns_cons hnewline]
      by_cases htakes : TakesNewline region c rest
      · obtain ⟨hliteral, rfl, hhead⟩ := htakes
        obtain ⟨more, rfl⟩ := List.head?_eq_some_iff.1 hhead
        have hline : ¬ region = .lineComment := by
          rcases hliteral with rfl | rfl <;> decide
        have htake : ∀ d text, step .standard region '\\' (d :: text) = ⟨region, none, text⟩ := by
          rcases hliteral with rfl | rfl <;> exact fun _ _ => rfl
        have hpass := step_newline region (withReturns more)
        rw [if_neg hline] at hpass
        rw [withReturns_newline, run_of_step (htake _ _), run_of_step hpass,
          run_of_step (htake _ _)]
        exact ih more.length (by rw [List.length_cons] at hlen; omega) region more rfl
      · have hle := length_step_le .standard region c rest
        rw [run_cons, run_cons, step_withReturns htakes]
        simp only [Step.withReturns]
        rw [ih _ (by omega) _ _ rfl]

end Sweep

namespace UnusedImport

open Text

/-- A carriage return before every line feed of a text that has none changes neither its imports
nor its identifiers, and so not what is reported of it. -/
theorem find_withReturns {text : String} (h : '\r' ∉ text.toList) :
    Header.importedNames .standard (String.ofList (withReturns text.toList)) =
        Header.importedNames .standard text ∧
      Identifier.names .standard (String.ofList (withReturns text.toList)) =
        Identifier.names .standard text ∧
      ∀ index, find .standard index (String.ofList (withReturns text.toList)) =
        find .standard index text := by
  have himports : Header.importedNames .standard (String.ofList (withReturns text.toList)) =
      Header.importedNames .standard text := by
    rw [Header.importedNames, Header.namespaces, Header.imports, String.toList_ofList,
      lines_withReturns h]
    rfl
  have hnames : Identifier.names .standard (String.ofList (withReturns text.toList)) =
      Identifier.names .standard text := by
    rw [Identifier.names, Identifier.all, String.toList_ofList, Sweep.run_withReturns]
    rfl
  refine ⟨himports, hnames, fun index => ?_⟩
  rw [find, find, himports, hnames]

/-- A text in which a string goes on behind a backslash at the end of its line, and a line comment
ends with its line. -/
theorem find_withReturns_in_literal :
    '\r' ∉ "using A;\nx = \"b\\\nc\" // d\ne".toList ∧
      Header.importedNames .standard "using A;\r\nx = \"b\\\r\nc\" // d\r\ne" =
        Header.importedNames .standard "using A;\nx = \"b\\\nc\" // d\ne" ∧
      Identifier.names .standard "using A;\r\nx = \"b\\\r\nc\" // d\r\ne" =
        Identifier.names .standard "using A;\nx = \"b\\\nc\" // d\ne" ∧
      ∀ index, find .standard index "using A;\r\nx = \"b\\\r\nc\" // d\r\ne" =
        find .standard index "using A;\nx = \"b\\\nc\" // d\ne" := by
  have hreturn : '\r' ∉ "using A;\nx = \"b\\\nc\" // d\ne".toList := by decide
  have htext : withReturns "using A;\nx = \"b\\\nc\" // d\ne".toList =
      "using A;\r\nx = \"b\\\r\nc\" // d\r\ne".toList := by decide
  have hsame := find_withReturns hreturn
  rw [htext, String.ofList_toList] at hsame
  exact ⟨hreturn, hsame⟩

end UnusedImport

end Vetting

import Vetting.Proofs.Header.RoundTrip

/-!
# Vetting.Proofs.Header.TrailingComment

A block comment that opens behind the semicolon of an import. Whether a comment is open is asked at
the start of a line only, and the import leaves the rest of its line unread, so the lines of such a
comment behind its first are read as lines of the header.

* `PassedOver`: lines that import nothing and do not end the header.
* `pathsFrom_withComment`: what a text with such a comment imports.
* `importedNames_withComment_iff`: the comment is as good as absent exactly when its lines
  behind the first are passed over.
-/

namespace Vetting

namespace Header

open Text

/-! ## Lines that are passed over -/

/-- A line that imports nothing and does not end the header, and whether a block comment is open
before it and behind it. -/
inductive LinePassedOver : Open → List Char → Open → Prop where
  | comment {isOpen isOpen' : Open} {raw : List Char} :
      uncomment isOpen (trim raw) = (isOpen', none) → LinePassedOver isOpen raw isOpen'
  | skipped {isOpen isOpen' : Open} {raw line : List Char} :
      uncomment isOpen (trim raw) = (isOpen', some line) → readLine .standard line = .skipped →
      LinePassedOver isOpen raw isOpen'

/-- Lines that import nothing and do not end the header, one after the other. -/
inductive PassedOver : Open → List (List Char) → Open → Prop where
  | nil {isOpen : Open} : PassedOver isOpen [] isOpen
  | cons {isOpen isOpen' last : Open} {raw : List Char} {more : List (List Char)} :
      LinePassedOver isOpen raw isOpen' → PassedOver isOpen' more last →
      PassedOver isOpen (raw :: more) last

theorem LinePassedOver.pathsOf_cons {isOpen isOpen' : Open} {raw : List Char}
    (h : LinePassedOver isOpen raw isOpen') (more : List (List Char)) :
    pathsOf isOpen (raw :: more) = pathsOf isOpen' more := by
  cases h with
  | comment hraw => exact pathsOf_comment hraw
  | skipped hraw hread => exact pathsOf_skipped hraw hread

theorem PassedOver.pathsOf_append {isOpen last : Open} {front : List (List Char)}
    (h : PassedOver isOpen front last) (back : List (List Char)) :
    pathsOf isOpen (front ++ back) = pathsOf last back := by
  induction h with
  | nil => rfl
  | cons hline _ ih => rw [List.cons_append, hline.pathsOf_cons, ih]

/-- A line that is not passed over ends the header or imports something, whatever follows it. -/
theorem linePassedOver_or (isOpen : Open) (raw : List Char) :
    (∃ isOpen', LinePassedOver isOpen raw isOpen') ∨
      (∀ more, pathsOf isOpen (raw :: more) = []) ∨
      ∀ more, pathsOf isOpen (raw :: more) ≠ [] := by
  obtain ⟨isOpen', line?, hraw⟩ : ∃ isOpen' line?,
      uncomment isOpen (trim raw) = (isOpen', line?) := ⟨_, _, rfl⟩
  cases line? with
  | none => exact .inl ⟨isOpen', .comment hraw⟩
  | some line =>
    cases hread : readLine .standard line with
    | skipped => exact .inl ⟨isOpen', .skipped hraw hread⟩
    | ended => exact .inr (.inl fun more => pathsOf_ended hraw hread)
    | imported path isPlain =>
      refine .inr (.inr fun more => ?_)
      rw [pathsOf_imported hraw hread]
      exact List.cons_ne_nil _ _

theorem passedOver_or (isOpen : Open) (front : List (List Char)) :
    (∃ last, PassedOver isOpen front last) ∨
      (∀ back, pathsOf isOpen (front ++ back) = []) ∨
      ∀ back, pathsOf isOpen (front ++ back) ≠ [] := by
  induction front generalizing isOpen with
  | nil => exact .inl ⟨isOpen, .nil⟩
  | cons raw more ih =>
    rcases linePassedOver_or isOpen raw with ⟨isOpen', hline⟩ | hended | himported
    · simp only [List.cons_append, hline.pathsOf_cons]
      exact (ih isOpen').imp_left fun ⟨last, hmore⟩ => ⟨last, .cons hline hmore⟩
    · exact .inr (.inl fun back => hended (more ++ back))
    · exact .inr (.inr fun back => himported (more ++ back))

/-- Some lines are as good as absent from a text exactly when they are passed over and leave no
comment open. Two texts tell: the empty one, and one that has an import. -/
theorem passedOver_iff {front : List (List Char)} :
    PassedOver false front false ↔
      ∀ rest : List Char, pathsOf false (front ++ lines rest) = pathsFrom false rest := by
  constructor
  · intro h rest
    exact h.pathsOf_append (lines rest)
  · intro h
    have hempty : pathsOf false (front ++ lines []) = [] := h []
    have hname : pathsOf false (front ++ lines "using A;\n".toList) = [['A']] := by
      rw [h]
      exact pathsFrom_ofName ⟨false, 'A', [], by decide, by decide⟩ []
    rcases passedOver_or false front with ⟨last, hfront⟩ | hended | himported
    · cases last with
      | false => exact hfront
      | true =>
        have hopen : pathsOf true (lines "using A;\n".toList) = [] := by decide +kernel
        rw [hfront.pathsOf_append, hopen] at hname
        cases hname
    · rw [hended] at hname
      cases hname
    · exact absurd hempty (himported _)

/-! ## The comment behind an import -/

/-- A text with an import and a block comment that opens on its line, behind the semicolon. -/
def withComment (indent : Indent) (found : PlainImport) (body rest : List Char) : List Char :=
  indent.text ++ (found.statement ++
    ' ' :: '/' :: '*' :: (body ++ '*' :: '/' :: '\n' :: rest))

/-- The same text without the comment. -/
def withoutComment (indent : Indent) (found : PlainImport) (rest : List Char) : List Char :=
  indent.text ++ (found.statement ++ '\n' :: rest)

variable (indent : Indent) (found : PlainImport) (body rest : List Char)

/-- The import and the first line of the comment are one line. The lines behind it stand before
those of the rest. -/
theorem pathsFrom_withComment :
    pathsFrom false (withComment indent found body rest) =
      (Item.plainImport found).imported?.toList ++
        pathsOf false ((lines (body ++ ['*', '/'])).tail ++ lines rest) := by
  have hbody : body ++ ['*', '/'] ≠ [] := by simp
  obtain ⟨line, more, hlines⟩ := List.exists_cons_of_ne_nil (lines_ne_nil hbody)
  have hline : OneLine line := oneLine_of_mem_lines (hlines ▸ List.mem_cons_self)
  have hall : lines (body ++ '*' :: '/' :: '\n' :: rest) = line :: (more ++ lines rest) := by
    have hsign := lines_append_line (body ++ ['*']) (show isLineBreak '/' = false by decide) rest
    simpa [hlines] using hsign
  have hopening : OneLine [' ', '/', '*'] := by decide
  have hfront : OneLine (indent.text ++ (found.statement ++ [' ', '/', '*'])) := by
    simp only [oneLine_append, indent.oneLine, found.oneLine_statement, hopening, true_and]
  have htext := lines_append hfront hall
  have htrailing : OneLine ([' ', '/', '*'] ++ line) := oneLine_append.2 ⟨hopening, hline⟩
  rw [hlines, List.tail_cons]
  exact pathsFrom_statement indent found htrailing (by simpa [withComment] using htext)

theorem pathsFrom_withoutComment :
    pathsFrom false (withoutComment indent found rest) =
      (Item.plainImport found).imported?.toList ++ pathsFrom false rest := by
  have hone : OneLine (indent.text ++ (found.statement ++ [])) := by
    simp [indent.oneLine, found.oneLine_statement]
  have hlines := lines_append_newline hone rest
  refine pathsFrom_statement indent found oneLine_nil ?_
  simpa [withoutComment] using hlines

/-- A comment that ends on the line of the import is as good as absent. -/
theorem importedNames_withComment_of_oneLine (h : OneLine body) :
    importedNames .standard (String.ofList (withComment indent found body rest)) =
      importedNames .standard (String.ofList (withoutComment indent found rest)) := by
  have hend : lines ['*', '/'] = [['*', '/']] := by decide
  have htail : (lines (body ++ ['*', '/'])).tail = [] := by
    rw [lines_append h hend]
    rfl
  rw [importedNames_ofList, importedNames_ofList, pathsFrom_withComment, pathsFrom_withoutComment,
    htail]
  rfl

/-- A block comment behind an import is as good as absent, whatever follows it, exactly when the
header passes over the lines of the comment behind the first. -/
theorem importedNames_withComment_iff :
    (∀ rest : List Char,
      importedNames .standard (String.ofList (withComment indent found body rest)) =
        importedNames .standard (String.ofList (withoutComment indent found rest))) ↔
      PassedOver false (lines (body ++ ['*', '/'])).tail false := by
  rw [passedOver_iff]
  refine forall_congr' fun rest => ?_
  rw [importedNames_ofList, importedNames_ofList, pathsFrom_withComment, pathsFrom_withoutComment,
    List.map_inj_right fun _ _ => String.ofList_injective, List.append_cancel_left_eq]

/-- The commented-out import in `using A; /*`, `using B;`, `*/` is read as an import. -/
theorem importedNames_withComment_of_lines :
    ¬ ∀ (indent : Indent) (found : PlainImport) (body : List Char), ¬ ['*', '/'] <:+: body →
      ∀ rest : List Char,
        importedNames .standard (String.ofList (withComment indent found body rest)) =
          importedNames .standard (String.ofList (withoutComment indent found rest)) := by
  intro h
  have hend : ¬ ['*', '/'] <:+: "\nusing B;\n".toList := by
    intro hin
    have hstar : '*' ∈ "\nusing B;\n".toList := hin.subset List.mem_cons_self
    revert hstar
    decide
  have hlines : (lines ("\nusing B;\n".toList ++ ['*', '/'])).tail ++ lines [] =
      lines "using B;\n*/".toList := by
    decide
  have hcomment : pathsFrom false "using B;\n*/".toList = ['B'] :: pathsFrom false ['*', '/'] :=
    pathsFrom_ofName ⟨false, 'B', [], by decide, by decide⟩ ['*', '/']
  have hequal := h ⟨[], by decide⟩ (.ofName ⟨false, 'A', [], by decide, by decide⟩)
    "\nusing B;\n".toList hend []
  rw [importedNames_ofList, importedNames_ofList, pathsFrom_withComment, pathsFrom_withoutComment,
    List.map_inj_right fun _ _ => String.ofList_injective, List.append_cancel_left_eq, hlines]
    at hequal
  have hfound : ['B'] :: pathsFrom false ['*', '/'] = [] := hcomment.symm.trans hequal
  cases hfound

end Header

end Vetting

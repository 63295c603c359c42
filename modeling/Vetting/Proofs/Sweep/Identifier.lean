import Vetting.Proofs.Directive.Reading
import Vetting.Proofs.Sweep.Append
import Vetting.Proofs.Sweep.Token

/-!
# Vetting.Proofs.Sweep.Identifier

The names of the directive grammar in the sweep. The grammar takes words, with their combining
marks, connectors and joiners; the identifiers of the sweep are letters, numbers and low lines. So
the sweep finds such a name in code where it is spelled with these alone, and pieces of it, or
nothing, where it is not.

* `Sweep.isIdentifier_of_mem_run`: what the sweep finds is spelled with letters, numbers and low
  lines, and starts with no number.
* `Identifier.names_of_name_iff`: for a name of the grammar, the sweep finds the name alone, without
  its escape mark, exactly where the name is spelled like that.
-/

namespace Vetting

theorem IsIdentifier.alone {name rest : List Char} (h : IsIdentifier name rest) :
    IsIdentifier name [] :=
  ⟨h.start, h.part, nofun⟩

namespace Sweep

variable {dialect : Dialect} {region : Region} {c : Char} {rest name : List Char}

theorem isIdentifier_of_codeStep (h : (codeStep dialect c rest).identifier? = some name) :
    IsIdentifier name (codeStep dialect c rest).rest := by
  have hfrom : ∀ d more, isIdentifierStart d = true →
      (identifierFrom d more).identifier? = some name →
        IsIdentifier name (identifierFrom d more).rest := by
    rintro d more hd h
    cases h
    exact isIdentifier_takeWhile hd more
  revert h
  simp only [codeStep]
  repeat' split
  all_goals
    intro h
    first
      | exact hfrom _ _ ‹_› h
      | cases h

theorem literalStep_identifier? (inside : Region) (quote c : Char) (rest : List Char) :
    (literalStep inside quote c rest).identifier? = none := by
  simp only [literalStep]
  split
  · rfl
  · split <;> rfl

/-- Only a step in code finds an identifier. -/
theorem isIdentifier_of_step (h : (step dialect region c rest).identifier? = some name) :
    IsIdentifier name (step dialect region c rest).rest := by
  cases region with
  | code => exact isIdentifier_of_codeStep h
  | lineComment => cases h
  | string => rw [step, literalStep_identifier?] at h; cases h
  | character => rw [step, literalStep_identifier?] at h; cases h
  | blockComment =>
    simp only [step] at h
    split at h <;> cases h
  | rawString =>
    simp only [step] at h
    split at h
    · cases h
    · split at h <;> cases h

theorem isIdentifier_of_mem_run (dialect : Dialect) (region : Region) (text : List Char) :
    ∀ name ∈ (run dialect region text).2, IsIdentifier name [] := by
  fun_induction run dialect region text with
  | case1 region => simp
  | case2 region c rest found last more hrun ih =>
    intro name hname
    rcases List.mem_append.1 hname with hfound | hmore
    · exact (isIdentifier_of_step (Option.mem_toList.1 hfound)).alone
    · exact ih name (by rw [hrun]; exact hmore)

end Sweep

/-- A name without the escape mark at its start. -/
def Dialect.unescaped (dialect : Dialect) (name : List Char) : List Char :=
  (Text.after? dialect.escapeMark.toList name).getD name

namespace Name

/-- A name without its escape mark. -/
def word (name : Name) : List Char := name.first :: name.more

theorem unescaped_text (name : Name) : Dialect.standard.unescaped name.text = name.word := by
  cases hmark : name.isEscaped with
  | true =>
    have htext : name.text = Dialect.standard.escapeMark.toList ++ name.word := by
      rw [text, hmark]
      rfl
    rw [Dialect.unescaped, htext, Text.after?_eq_some_iff.2 rfl]
    rfl
  | false =>
    have hnone : Text.after? Dialect.standard.escapeMark.toList name.word = none := by
      rw [Option.eq_none_iff_forall_ne_some]
      intro rest hrest
      rw [Text.after?_eq_some_iff] at hrest
      exact name.first_ne_mark (List.cons.inj hrest).1
    have htext : name.text = name.word := by
      rw [text, hmark]
      rfl
    rw [Dialect.unescaped, htext, hnone]
    rfl

/-- The rule for names of the grammar takes a text as a whole exactly where the text is a name. -/
theorem run_name_iff {text : List Char} :
    DirectiveRule.name.run .standard text = some [] ↔ ∃ name : Name, name.text = text := by
  rw [DirectiveRule.run, Dialect.name_standard]
  constructor
  · intro h
    obtain ⟨name, hname⟩ := Grammar.exists_name h
    exact ⟨name, by rw [hname, List.append_nil]⟩
  · rintro ⟨name, rfl⟩
    have hend : EndsWord [] := nofun
    have hread := name.maybeMarkedName_append hend
    rwa [List.append_nil] at hread

end Name

namespace Identifier

/-- The sweep takes a name that is an identifier as a whole, with its escape mark before it. -/
theorem all_name (name : Name) (h : IsIdentifier name.word []) :
    all .standard name.text = [name.word] := by
  obtain ⟨c, more, hword, hc, hmore, hrest⟩ := h.split
  obtain ⟨rfl, rfl⟩ := List.cons.inj hword
  have hquote : name.first ≠ '"' := by
    rintro hquote
    rw [hquote] at hc
    exact absurd hc (by decide)
  have hmark : Sweep.isMark "@" name.first = false := by
    simpa [Sweep.isMark] using name.first_ne_mark.symm
  have hcode : Sweep.codeStep .standard name.first (name.more ++ []) =
      Sweep.identifierFrom name.first (name.more ++ []) :=
    Sweep.codeStep_of_isIdentifierStart hc (by simp [Dialect.standard, hmark]) hmark
  have hrun : ∀ d text, Sweep.codeStep .standard d text =
      Sweep.identifierFrom name.first (name.more ++ []) →
        all .standard (d :: text) = [name.word] := by
    intro d text hstep
    rw [all, Sweep.run_of_identifierFrom hstep hmore hrest, Sweep.run_nil]
    rfl
  cases hescaped : name.isEscaped with
  | false =>
    rw [List.append_nil] at hcode
    rw [Name.text, hescaped]
    exact hrun _ _ (by rw [hcode, List.append_nil])
  | true =>
    rw [Name.text, hescaped]
    refine hrun '@' (name.first :: name.more) ?_
    simp [Sweep.codeStep, Sweep.isMark, Dialect.standard, hquote, hc]

/-- The sweep and the grammar agree on a name exactly where the name, without its escape mark, is a
letter or a low line, and then letters, numbers and low lines. -/
theorem names_of_name_iff {text : String}
    (h : DirectiveRule.name.run .standard text.toList = some []) :
    (∀ found, found ∈ names .standard text ↔
        found.toList = Dialect.standard.unescaped text.toList) ↔
      IsIdentifier (Dialect.standard.unescaped text.toList) [] := by
  obtain ⟨name, hname⟩ := Name.run_name_iff.1 h
  simp only [mem_names, ← hname, name.unescaped_text]
  constructor
  · intro hsame
    have hmem : name.word ∈ all .standard name.text := by
      have hword := (hsame (String.ofList name.word)).2 (String.toList_ofList)
      rwa [String.toList_ofList] at hword
    exact Sweep.isIdentifier_of_mem_run _ _ _ _ hmem
  · intro hword found
    rw [all_name name hword, List.mem_singleton]

/-- Of a name with a combining mark the sweep finds what stands before the mark. -/
theorem names_of_name_with_mark :
    ¬ ∀ text : String, DirectiveRule.name.run .standard text.toList = some [] →
      ∀ found, found ∈ names .standard text ↔
        found.toList = Dialect.standard.unescaped text.toList := by
  intro h
  have hrule : DirectiveRule.name.run .standard "e\u0301".toList = some [] := by decide +kernel
  have hnames : names .standard "e\u0301" = ["e"] := by decide +kernel
  have hfound := (h "e\u0301" hrule "e").1 (by simp [hnames])
  exact absurd hfound (by decide +kernel)

/-- An escaped name of letters, a low line and a number, of several scripts. -/
theorem names_of_name_escaped :
    DirectiveRule.name.run .standard "@naïve_名Ⅷ".toList = some [] ∧
      ∀ found, found ∈ names .standard "@naïve_名Ⅷ" ↔
        found.toList = Dialect.standard.unescaped "@naïve_名Ⅷ".toList := by
  have hrule : DirectiveRule.name.run .standard "@naïve_名Ⅷ".toList = some [] := by decide +kernel
  have hword : IsIdentifier (Dialect.standard.unescaped "@naïve_名Ⅷ".toList) [] :=
    ⟨⟨'n', "aïve_名Ⅷ".toList, by decide +kernel, by decide⟩,
      List.all_eq_true.1 (by decide +kernel), nofun⟩
  exact ⟨hrule, (names_of_name_iff hrule).2 hword⟩

end Identifier

end Vetting

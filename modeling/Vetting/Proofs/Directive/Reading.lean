import Vetting.Proofs.Directive.Target

/-!
# Vetting.Proofs.Directive.Reading

What the rules of the grammar take where they match: blanks, names, and what is joined from them.

* `Grammar.exists_written`: a text that the rule for qualified names reads opens with a path.
* `Directive.exists_of_readTail?`: a text that is read to its end behind the keyword is a target.
-/

namespace Vetting

open Grammar Text

namespace Grammar

variable {text rest : List Char}

theorem exists_gap (text : List Char) : ∃ blanks : Blanks, text = blanks.text ++ gap text :=
  ⟨⟨text.takeWhile isBlank, List.all_takeWhile⟩, List.takeWhile_append_dropWhile.symm⟩

theorem exists_of_blanks (h : blanks text = some rest) :
    ∃ blanks : Blanks, blanks.text ≠ [] ∧ text = blanks.text ++ rest := by
  cases text with
  | nil => cases h
  | cons c text =>
    rw [blanks] at h
    split at h
    · next hc =>
      obtain rfl := Option.some.inj h
      obtain ⟨more, htext⟩ := exists_gap text
      have hall : (c :: more.text).all isBlank = true := by simp [hc, more.all_text]
      refine ⟨⟨c :: more.text, hall⟩, List.cons_ne_nil _ _, ?_⟩
      rw [List.cons_append, ← htext]
    · cases h

theorem exists_of_bareName (h : bareName text = some rest) :
    ∃ c more, isNameStart c = true ∧ more.all isWord = true ∧ text = c :: (more ++ rest) := by
  cases text with
  | nil => cases h
  | cons c text =>
    rw [bareName] at h
    split at h
    · next hc =>
      obtain rfl := Option.some.inj h
      refine ⟨c, text.takeWhile isWord, hc, List.all_takeWhile, ?_⟩
      rw [List.takeWhile_append_dropWhile]
    · cases h

theorem exists_name (h : maybeMarkedName '@' text = some rest) :
    ∃ name : Name, text = name.text ++ rest := by
  have bare : ∀ text, bareName text = some rest → ∃ name : Name,
      name.isEscaped = false ∧ text = name.first :: (name.more ++ rest) := by
    intro text h
    obtain ⟨c, more, hc, hmore, htext⟩ := exists_of_bareName h
    exact ⟨⟨false, c, more, hc, hmore⟩, rfl, htext⟩
  cases text with
  | nil => cases h
  | cons c text =>
    rw [maybeMarkedName] at h
    split at h
    · next hc =>
      rcases Option.or_eq_some_iff.1 h with h | ⟨-, h⟩
      · obtain ⟨name, -, rfl⟩ := bare _ h
        exact ⟨{ name with isEscaped := true }, by rw [hc]; rfl⟩
      · obtain ⟨name, hbare, htext⟩ := bare _ h
        exact ⟨name, by rw [htext, Name.text, hbare]; rfl⟩
    · obtain ⟨name, hbare, htext⟩ := bare _ h
      exact ⟨name, by rw [htext, Name.text, hbare]; rfl⟩

theorem exists_of_dotName (h : dotName (maybeMarkedName '@') text = some rest) :
    ∃ before after : Blanks, ∃ name : Name,
      text = before.text ++ '.' :: (after.text ++ (name.text ++ rest)) := by
  obtain ⟨before, htext⟩ := exists_gap text
  rw [dotName] at h
  split at h
  · next behind hdot =>
    obtain ⟨after, hbehind⟩ := exists_gap behind
    obtain ⟨name, hname⟩ := exists_name h
    refine ⟨before, after, name, ?_⟩
    rw [← hname, ← hbehind, ← hdot, ← htext]
  · cases h

/-- By induction on the length of the text: a dot and a name make it shorter. -/
theorem exists_writtenMore (text : List Char) :
    ∃ more, text = SpacedPath.writtenMore more ++ many (dotName (maybeMarkedName '@')) text := by
  induction hlen : text.length using Nat.strongRecOn generalizing text with
  | ind n ih =>
    rw [many_of_shrinking SpacedPath.dotName_shrinks]
    split
    · exact ⟨[], rfl⟩
    · next rest hdot =>
      have hlt : rest.length < text.length := SpacedPath.dotName_shrinks hdot
      obtain ⟨before, after, name, htext⟩ := exists_of_dotName hdot
      obtain ⟨more, hrest⟩ := ih _ (hlen ▸ hlt) rest rfl
      refine ⟨(before, after, name) :: more, ?_⟩
      rw [SpacedPath.writtenMore_cons, ← hrest, htext]

theorem exists_written (h : qualified (maybeMarkedName '@') text = some rest) :
    ∃ path : SpacedPath, text = path.written ++ rest := by
  obtain ⟨behind, hname, rfl⟩ := Option.map_eq_some_iff.1 h
  obtain ⟨name, rfl⟩ := exists_name hname
  obtain ⟨more, hbehind⟩ := exists_writtenMore behind
  refine ⟨⟨name, more⟩, ?_⟩
  rw [SpacedPath.written, List.append_assoc, ← hbehind]

theorem exists_of_namespacePath
    (h : Dialect.standard.namespacePath (maybeMarkedName '@') text = some rest) :
    ∃ isQualified, ∃ path : SpacedPath,
      text = DottedPath.qualifierText isQualified ++ (path.written ++ rest) := by
  rw [Dialect.namespacePath] at h
  obtain ⟨path, htext⟩ := exists_written h
  cases hqualifier : Dialect.standard.qualifier text with
  | none =>
    rw [hqualifier] at htext
    exact ⟨false, path, htext⟩
  | some behind =>
    rw [hqualifier] at htext
    refine ⟨true, path, ?_⟩
    rw [← htext]
    exact after?_eq_some_iff.1 hqualifier

theorem exists_of_aliasClause (h : aliasClause (maybeMarkedName '@') text = some rest) :
    ∃ clause : AliasClause, text = clause.text ++ rest := by
  simp only [aliasClause, Option.bind_eq_bind, Option.bind_eq_some_iff] at h
  obtain ⟨behind, hname, h⟩ := h
  obtain ⟨name, rfl⟩ := exists_name hname
  obtain ⟨before, hbehind⟩ := exists_gap behind
  split at h
  · next tail hsign =>
    obtain rfl := Option.some.inj h
    obtain ⟨after, htail⟩ := exists_gap tail
    refine ⟨⟨name, before, after⟩, ?_⟩
    rw [hsign] at hbehind
    rw [hbehind, AliasClause.text]
    simp only [List.append_assoc, List.cons_append]
    rw [← htail]
  · cases h

theorem exists_of_closing (h : Directive.closing text = some []) :
    ∃ blanks : Blanks, ∃ rest : TextOf (· != '\n'), text = blanks.text ++ ';' :: rest.text := by
  obtain ⟨blanks, htext⟩ := exists_gap text
  rw [Directive.closing] at h
  split at h
  · next more hsign =>
    have hline : more.all (· != '\n') = true :=
      List.all_eq_true.2 (List.dropWhile_eq_nil_iff.1 (Option.some.inj h))
    refine ⟨blanks, ⟨more, hline⟩, ?_⟩
    rw [← hsign, ← htext]
  · cases h

end Grammar

namespace Directive

theorem exists_of_readTail? {keyword text : List Char} {isStatic : Bool} {directive : Directive}
    (h : readTail? .standard (maybeMarkedName '@') keyword isStatic text = some (directive, [])) :
    ∃ target : ImportTarget,
      target.text = text ∧ target.directive keyword isStatic = directive := by
  -- The text decides the directive, so it is enough to find the target that is written there.
  suffices hwritten : ∃ target : ImportTarget, target.text = text by
    obtain ⟨target, rfl⟩ := hwritten
    rw [target.readTail?_text] at h
    exact ⟨target, rfl, (Prod.mk.inj (Option.some.inj h)).1⟩
  simp only [readTail?, Option.bind_eq_bind, Option.bind_eq_some_iff] at h
  obtain ⟨afterPath, hpath, rest, hclosing, hdirective⟩ := h
  obtain ⟨-, rfl⟩ := Prod.mk.inj (Option.some.inj hdirective)
  obtain ⟨isQualified, path, htext⟩ := exists_of_namespacePath hpath
  obtain ⟨blanks, rest, rfl⟩ := exists_of_closing hclosing
  cases halias : aliasClause (maybeMarkedName '@') text with
  | some afterAlias =>
    obtain ⟨clause, rfl⟩ := exists_of_aliasClause halias
    rw [halias, Option.getD_some] at htext
    exact ⟨⟨some clause, isQualified, path, blanks, rest⟩, by rw [htext]; rfl⟩
  | none =>
    rw [halias, Option.getD_none] at htext
    exact ⟨⟨none, isQualified, path, blanks, rest⟩, htext.symm⟩

end Directive

end Vetting

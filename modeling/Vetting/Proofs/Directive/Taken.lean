import Vetting.Proofs.Directive.Line

/-!
# Vetting.Proofs.Directive.Taken

What the signs of a directive tell of it: which stand in a path, which behind a name. The gaps are
of any blanks, those that end a line included.

* `IsDotted`: names, joined by dots in gaps.
* `Statement`: what stands behind the keyword of a directive.
* `Directive.exists_of_read?`: a directive that is read is a keyword, a gap and a statement.
-/

namespace Vetting

open Grammar Text

/-- A gap of blanks of any kind. -/
def AllBlank (text : List Char) : Prop := ∀ c ∈ text, isBlank c = true

theorem AllBlank.isSpace_of_mem {text : List Char} (h : AllBlank text) :
    ∀ c ∈ text, isSpace c = true :=
  fun c hc => isSpace_of_isBlank (h c hc)

theorem AllBlank.not_mem {text : List Char} (h : AllBlank text) {c : Char}
    (hc : isBlank c = false) : c ∉ text := by
  intro hmem
  rw [h c hmem] at hc
  cases hc

theorem Blanks.allBlank (blanks : Blanks) : AllBlank blanks.text := fun _ h => blanks.of_mem h

/-! ## Dotted names -/

/-- Names joined by dots, with gaps around the dots. -/
inductive IsDotted : List Char → Prop where
  | name (name : Name) : IsDotted name.text
  | dot {path before after : List Char} (name : Name) : IsDotted path → AllBlank before →
      AllBlank after → IsDotted (path ++ (before ++ '.' :: (after ++ name.text)))

/-- What may follow a name: a gap, and a sign. -/
def BehindName (text : List Char) : Prop :=
  ∃ blank sign rest, AllBlank blank ∧ (isSpace sign = false ∧ isWord sign = false) ∧
    text = blank ++ sign :: rest

namespace IsDotted

variable {path : List Char}

theorem append_writtenMore (h : IsDotted path) (more : List (Blanks × Blanks × Name)) :
    IsDotted (path ++ SpacedPath.writtenMore more) := by
  induction more generalizing path with
  | nil => rwa [SpacedPath.writtenMore, List.flatMap_nil, List.append_nil]
  | cons part more ih =>
    obtain ⟨before, after, name⟩ := part
    have hmore := ih (h.dot name before.allBlank after.allBlank)
    simpa [SpacedPath.writtenMore] using hmore

theorem written (path : SpacedPath) : IsDotted path.written :=
  (IsDotted.name path.first).append_writtenMore path.more

theorem of_mem (h : IsDotted path) {c : Char} (hc : c ∈ path) :
    c = '@' ∨ c = '.' ∨ isBlank c = true ∨ isWord c = true := by
  have hname : ∀ name : Name, c ∈ name.text →
      c = '@' ∨ c = '.' ∨ isBlank c = true ∨ isWord c = true := by
    intro name hc
    rcases Name.eq_or_isWord_of_mem hc with h | h
    · exact .inl h
    · exact .inr (.inr (.inr h))
  induction h with
  | name name => exact hname name hc
  | dot name _ hbefore hafter ih =>
    simp only [List.mem_append, List.mem_cons] at hc
    rcases hc with hc | hc | rfl | hc | hc
    · exact ih hc
    · exact .inr (.inr (.inl (hbefore c hc)))
    · exact .inr (.inl rfl)
    · exact .inr (.inr (.inl (hafter c hc)))
    · exact hname name hc

/-- The signs of a directive do not stand in a path. -/
theorem sign_not_mem (h : IsDotted path) {c : Char} (hc : c ∈ [';', '=', ':']) : c ∉ path := by
  intro hmem
  obtain ⟨hmark, hdot, hblank, hword⟩ :
      c ≠ '@' ∧ c ≠ '.' ∧ isBlank c = false ∧ isWord c = false := by
    simp only [List.mem_cons, List.not_mem_nil, or_false] at hc
    rcases hc with rfl | rfl | rfl <;> decide
  rcases h.of_mem hmem with h | h | h | h
  · exact hmark h
  · exact hdot h
  · rw [hblank] at h
    cases h
  · rw [hword] at h
    cases h

/-- A path ends as a name does. -/
theorem exists_concat (h : IsDotted path) :
    ∃ front c, path = front ++ [c] ∧ isSpace c = false := by
  have hname : ∀ name : Name, ∃ front c, name.text = front ++ [c] ∧ isSpace c = false := by
    intro name
    have hne : name.text ≠ [] := by simp [Name.text]
    have hlast := List.dropLast_concat_getLast hne
    exact ⟨_, _, hlast.symm, Name.isSpace_of_mem (List.getLast_mem hne)⟩
  cases h with
  | name name => exact hname name
  | @dot path before after name _ _ _ =>
    obtain ⟨front, c, hcons, hc⟩ := hname name
    exact ⟨path ++ (before ++ '.' :: (after ++ front)), c, by simp [hcons], hc⟩

/-- A path starts with a name; what follows it may follow a name. -/
theorem exists_name_append (h : IsDotted path) {text : List Char} (htext : BehindName text) :
    ∃ name : Name, ∃ tail, path ++ text = name.text ++ tail ∧ BehindName tail := by
  induction h generalizing text with
  | name name => exact ⟨name, text, rfl, htext⟩
  | @dot path before after name _ hbefore _ ih =>
    have hdot : BehindName (before ++ '.' :: (after ++ (name.text ++ text))) :=
      ⟨before, '.', _, hbefore, by decide, rfl⟩
    obtain ⟨first, tail, heq, htail⟩ := ih hdot
    refine ⟨first, tail, ?_, htail⟩
    rw [← heq]
    simp only [List.append_assoc, List.cons_append]

end IsDotted

/-! ## Directives -/

/-- What stands behind the keyword of a directive and the gap there. -/
inductive Statement (directive : Directive) : List Char → Prop where
  | ofMembers {c : Char} {rest : List Char} : directive.isStatic = true → isBlank c = true →
      Statement directive ("static".toList ++ c :: rest)
  | ofAlias (name : Name) {gap rest : List Char} : directive.isStatic = false →
      directive.alias?.isSome = true → AllBlank gap → ';' ∈ rest →
      Statement directive (name.text ++ (gap ++ '=' :: rest))
  | ofNamespace (isQualified : Bool) {path gap rest : List Char} : directive.isStatic = false →
      directive.alias? = none → directive.path = (path.filter fun c => !isSpace c) →
      IsDotted path → AllBlank gap →
      Dialect.standard.staticClause
        (DottedPath.qualifierText isQualified ++ (path ++ (gap ++ ';' :: rest))) = none →
      Statement directive (DottedPath.qualifierText isQualified ++ (path ++ (gap ++ ';' :: rest)))

theorem ImportTarget.statement (target : ImportTarget) (keyword : List Char)
    (h : Dialect.standard.staticClause target.text = none) :
    Statement (target.directive keyword false) target.text := by
  cases halias : target.alias? with
  | some clause =>
    rw [target.text_of_some halias]
    refine .ofAlias clause.name rfl (by simp [directive, halias]) clause.before.allBlank ?_
    simp [plain]
  | none =>
    rw [target.text_of_none halias] at h ⊢
    refine .ofNamespace target.isQualified rfl (by simp [directive, halias]) ?_
      (.written target.path) target.closing.allBlank h
    exact target.path.filter_written.symm

/-- A directive that is read is a keyword, a gap and a statement. -/
theorem Directive.exists_of_read? {words : List String} {line : List Char} {directive : Directive}
    (h : read? (.withKeywords words) line = some (directive, [])) :
    ∃ word ∈ words, ∃ blank text, AllBlank blank ∧ blank ≠ [] ∧
      line = word.toList ++ (blank ++ text) ∧ Statement directive text := by
  obtain ⟨written, rfl, rfl⟩ := WrittenDirective.exists_of_read? h
  refine ⟨written.keyword, written.keyword_mem, written.spacing.1.text, written.behind,
    written.spacing.1.allBlank, written.spacing.2, rfl, ?_⟩
  have hclause := written.staticClause_behind
  cases hstatic : written.static? with
  | some spacing =>
    obtain ⟨c, more, hcons, hc⟩ := spacing.1.exists_cons spacing.2
    rw [written.behind_of_some hstatic, hcons]
    exact .ofMembers (by simp [WrittenDirective.directive, ImportTarget.directive, hstatic]) hc
  | none =>
    rw [hstatic, Option.map_none] at hclause
    rw [written.behind_of_none hstatic] at hclause ⊢
    rw [WrittenDirective.directive, hstatic]
    exact written.target.statement _ hclause

end Vetting

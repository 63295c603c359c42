import Vetting.Proofs.Directive.Path

/-!
# Vetting.Proofs.Directive.Target

What stands in a directive behind its keyword, and behind the word `static` where that stands: a
clause that introduces a name, the qualifier of the root namespace, a path, and a semicolon. The
rules of the grammar take the optional parts where they are written, and only there, so a text says
one such thing at most.

* `ImportTarget.readTail?_text`: the grammar reads a target to its end.
* `ImportTarget.text_injective`: no text is written for two targets.
-/

namespace Vetting

open Grammar Text

@[ext] structure AliasClause where
  name : Name
  before : Blanks
  after : Blanks

def AliasClause.text (clause : AliasClause) : List Char :=
  clause.name.text ++ (clause.before.text ++ '=' :: clause.after.text)

/-- What is imported, as it is written. -/
@[ext] structure ImportTarget where
  alias? : Option AliasClause
  isQualified : Bool
  path : SpacedPath
  closing : Blanks
  /-- The rest of the line. -/
  rest : TextOf (· != '\n')

namespace ImportTarget

variable (target : ImportTarget)

/-- A target without the clause that introduces a name. -/
def plain : List Char :=
  DottedPath.qualifierText target.isQualified ++
    (target.path.written ++ (target.closing.text ++ ';' :: target.rest.text))

def text : List Char := target.alias?.elim [] AliasClause.text ++ target.plain

def directive (keyword : List Char) (isStatic : Bool) : Directive :=
  ⟨keyword, target.path.dotted, isStatic, target.alias?.map fun clause => clause.name.text⟩

theorem text_of_none (h : target.alias? = none) : target.text = target.plain := by
  rw [text, h]
  rfl

theorem text_of_some {clause : AliasClause} (h : target.alias? = some clause) :
    target.text = clause.name.text ++
      (clause.before.text ++ '=' :: (clause.after.text ++ target.plain)) := by
  rw [text, h]
  simp [AliasClause.text]

theorem isBlank_plain_head : ∀ c ∈ target.plain.head?, isBlank c = false := by
  cases hqualified : target.isQualified with
  | true =>
    rw [plain, hqualified]
    exact DottedPath.globalName.isBlank_head _
  | false =>
    rw [plain, hqualified, SpacedPath.written, List.append_assoc]
    exact target.path.first.isBlank_head _

theorem isBlank_head : ∀ c ∈ target.text.head?, isBlank c = false := by
  cases halias : target.alias? with
  | none =>
    rw [target.text_of_none halias]
    exact target.isBlank_plain_head
  | some clause =>
    rw [target.text_of_some halias]
    exact clause.name.isBlank_head _

/-! ### The clause -/

theorem aliasClause_plain : aliasClause (maybeMarkedName '@') target.plain = none := by
  cases hqualified : target.isQualified with
  | true =>
    rw [plain, hqualified]
    exact DottedPath.globalName.aliasClause_of_ne ⟨[], rfl⟩ (c := ':') (by decide) (by decide)
      (by decide) _
  | false =>
    rw [plain, hqualified]
    exact target.path.aliasClause_written _ _

theorem aliasClause_of_some {clause : AliasClause} (h : target.alias? = some clause) :
    aliasClause (maybeMarkedName '@') target.text = some target.plain := by
  rw [target.text_of_some h, clause.name.aliasClause_equals,
    clause.after.gap_append_of_head target.isBlank_plain_head]

theorem name_of_some {clause : AliasClause} (h : target.alias? = some clause) :
    maybeMarkedName '@' target.text =
      some (clause.before.text ++ '=' :: (clause.after.text ++ target.plain)) := by
  rw [target.text_of_some h]
  exact clause.name.maybeMarkedName_append (endsWord_blanks clause.before (by decide) _)

/-! ### The path and the semicolon -/

theorem namespacePath_plain :
    Dialect.standard.namespacePath (maybeMarkedName '@') target.plain =
      some (target.closing.text ++ ';' :: target.rest.text) := by
  have hread := target.path.qualified_written target.closing target.rest.text
  cases hqualified : target.isQualified with
  | true =>
    rw [plain, hqualified]
    exact hread
  | false =>
    rw [plain, hqualified]
    have hnone := target.path.qualifier_written target.closing target.rest.text
    rw [DottedPath.qualifierText, if_neg Bool.false_ne_true, List.nil_append,
      Dialect.namespacePath, hnone]
    exact hread

theorem closing_written :
    Directive.closing (target.closing.text ++ ';' :: target.rest.text) = some [] := by
  have hsign : gap (target.closing.text ++ ';' :: target.rest.text) = ';' :: target.rest.text :=
    target.closing.gap_append (by decide) target.rest.text
  have hline : target.rest.text.dropWhile (· != '\n') = [] :=
    List.dropWhile_eq_nil_iff.2 fun c hc => target.rest.of_mem hc
  simp [Directive.closing, hsign, hline]

theorem canonical_plain :
    Directive.canonical .standard
      (consumed target.plain (target.closing.text ++ ';' :: target.rest.text)) =
        target.path.dotted := by
  have hcolon : ':' ∉ target.path.written.filter fun c => !isSpace c := by
    rw [SpacedPath.filter_written]
    exact target.path.colon_not_mem_dotted
  rw [plain, ← List.append_assoc, consumed_append, DottedPath.canonical_qualifierText _ hcolon,
    SpacedPath.filter_written]

theorem readTail?_text (keyword : List Char) (isStatic : Bool) :
    Directive.readTail? .standard (maybeMarkedName '@') keyword isStatic target.text =
      some (target.directive keyword isStatic, []) := by
  cases halias : target.alias? with
  | none =>
    simp only [Directive.readTail?, target.text_of_none halias, aliasClause_plain,
      Option.getD_none, namespacePath_plain, closing_written, canonical_plain, directive, halias,
      Option.bind_eq_bind, Option.bind_some, Option.bind_none, Option.map_none]
  | some clause =>
    have hname : consumed target.text
        (clause.before.text ++ '=' :: (clause.after.text ++ target.plain)) = clause.name.text := by
      rw [target.text_of_some halias, consumed_append]
    simp only [Directive.readTail?, target.aliasClause_of_some halias, Option.getD_some,
      target.name_of_some halias, Option.map_some, hname, namespacePath_plain, closing_written,
      canonical_plain, directive, halias, Option.bind_eq_bind, Option.bind_some]

/-! ### One target for a text -/

/-- The clause is written where the rule for it matches. -/
theorem alias?_isSome_iff :
    target.alias?.isSome = true ↔
      (aliasClause (maybeMarkedName '@') target.text).isSome = true := by
  cases halias : target.alias? with
  | none => simp [target.text_of_none halias, aliasClause_plain]
  | some clause => simp [target.aliasClause_of_some halias]

theorem alias?_eq_of_text_eq {a b : ImportTarget} (h : a.text = b.text) :
    a.alias? = b.alias? ∧ a.plain = b.plain := by
  have hsome : a.alias?.isSome = b.alias?.isSome := by
    rw [Bool.eq_iff_iff, alias?_isSome_iff, alias?_isSome_iff, h]
  cases ha : a.alias? with
  | none =>
    cases hb : b.alias? with
    | none =>
      rw [a.text_of_none ha, b.text_of_none hb] at h
      exact ⟨rfl, h⟩
    | some clause => simp [ha, hb] at hsome
  | some clause =>
    cases hb : b.alias? with
    | none => simp [ha, hb] at hsome
    | some clause' =>
      obtain ⟨name, before, after⟩ := clause
      obtain ⟨name', before', after'⟩ := clause'
      rw [a.text_of_some ha, b.text_of_some hb] at h
      obtain ⟨rfl, hbehind⟩ := Name.append_inj (endsWord_blanks before (by decide) _)
        (endsWord_blanks before' (by decide) _) h
      obtain ⟨rfl, -, hafter⟩ := Blanks.append_cons_inj (by decide) (by decide) hbehind
      obtain ⟨rfl, hplain⟩ := Blanks.append_inj a.isBlank_plain_head b.isBlank_plain_head hafter
      exact ⟨rfl, hplain⟩

/-- The qualifier is written where the rule for it matches. -/
theorem isQualified_iff :
    target.isQualified = true ↔ (Dialect.standard.qualifier target.plain).isSome = true := by
  cases hqualified : target.isQualified with
  | true =>
    rw [plain, hqualified]
    exact ⟨fun _ => rfl, fun _ => rfl⟩
  | false =>
    have hnone := target.path.qualifier_written target.closing target.rest.text
    rw [plain, hqualified, DottedPath.qualifierText, if_neg Bool.false_ne_true, List.nil_append,
      hnone]
    simp

theorem text_injective {a b : ImportTarget} (h : a.text = b.text) : a = b := by
  obtain ⟨halias, hplain⟩ := alias?_eq_of_text_eq h
  have hqualified : a.isQualified = b.isQualified := by
    rw [Bool.eq_iff_iff, isQualified_iff, isQualified_iff, hplain]
  rw [plain, plain, hqualified] at hplain
  obtain ⟨hpath, hclosing, hrest⟩ := SpacedPath.append_inj (List.append_cancel_left hplain)
  exact ImportTarget.ext halias hqualified hpath hclosing (TextOf.ext hrest)

end ImportTarget

end Vetting

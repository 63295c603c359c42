import Vetting.UnusedImport
import Vetting.Proofs.Sweep.Identifier

/-!
# Vetting.Proofs.UnusedImport

The rule for unused imports said of the type records themselves, without the index.

* `SymbolIndex.mem_homes_ofRecords` and the lemmas beside it: what an index of records holds.
* `Identifier.ne_nil_of_mem_all`: no identifier is empty, so a type without a name is never named.
* `UnusedImport.check_ofRecords`: the reported imports are the imports of the text that are unused
  by it, in order, each as often as it is imported.
-/

namespace Vetting

namespace TypeRecord

/-- A record puts its type into a namespace; records of the root namespace put it into none. -/
def Declares (dialect : Dialect) (record : TypeRecord) (home : String) : Prop :=
  record.home ≠ "" ∧ dialect.unqualifiedName record.home = home

/-- The names that stand for a record's type in source text. -/
inductive NamedBy (record : TypeRecord) : List Char → Prop where
  | short : NamedBy record record.shortName
  | tag {front : List Char} : record.isTag = true → front ≠ [] →
      record.shortName = front ++ tagEnding → NamedBy record front

theorem tagName?_eq_some_iff {record : TypeRecord} {front : List Char} :
    record.tagName? = some front ↔
      record.isTag = true ∧ front ≠ [] ∧ record.shortName = front ++ tagEnding := by
  rw [← tagShort?_eq_some_iff, tagName?]
  split
  · next h => simp [h]
  · next h => simp [h]

theorem namedBy_iff {record : TypeRecord} {name : List Char} :
    record.NamedBy name ↔ name = record.shortName ∨ record.tagName? = some name := by
  rw [tagName?_eq_some_iff]
  constructor
  · intro h
    cases h with
    | short => exact .inl rfl
    | tag htag hne hname => exact .inr ⟨htag, hne, hname⟩
  · rintro (rfl | ⟨htag, hne, hname⟩)
    · exact .short
    · exact .tag htag hne hname

end TypeRecord

namespace SymbolIndex

variable {dialect : Dialect} {records : List (Option TypeRecord)} {errors : List String}

theorem homeOf_eq_some_iff {record : TypeRecord} {home : String} :
    homeOf dialect record = some home ↔ record.Declares dialect home := by
  rw [homeOf, TypeRecord.Declares]
  split
  · next h =>
    have hempty : record.home = "" := String.isEmpty_iff.1 h
    simp [hempty]
  · next h =>
    have hne : record.home ≠ "" := fun hempty => h (String.isEmpty_iff.2 hempty)
    simp [hne]

theorem mem_present {α : Type} {contribution : TypeRecord → Option α} {found : α} :
    found ∈ (records.filterMap id).filterMap contribution ↔
      ∃ record, some record ∈ records ∧ contribution record = some found := by
  simp [List.mem_filterMap]

theorem mem_homes_ofRecords {home : String} :
    home ∈ (ofRecords dialect records errors).homes ↔
      ∃ record, some record ∈ records ∧ record.Declares dialect home := by
  simp only [ofRecords, mem_present, homeOf_eq_some_iff]

theorem mem_extensions_ofRecords {home : String} :
    home ∈ (ofRecords dialect records errors).extensions ↔
      ∃ record, some record ∈ records ∧ record.Declares dialect home ∧
        record.isExtensionContainer = true := by
  simp only [ofRecords, mem_present, extensionOf]
  refine exists_congr fun record => and_congr_right fun _ => ?_
  split
  · next h => simp [homeOf_eq_some_iff, h]
  · next h => simp [h]

theorem mem_typePairs_ofRecords {home name : String} :
    (home, name) ∈ (ofRecords dialect records errors).typePairs ↔
      ∃ record, some record ∈ records ∧ record.Declares dialect home ∧
        record.shortName ≠ [] ∧ String.ofList record.shortName = name := by
  simp only [ofRecords, mem_present, typePairOf, Option.bind_eq_some_iff, homeOf_eq_some_iff]
  refine exists_congr fun record => and_congr_right fun _ => ?_
  constructor
  · rintro ⟨found, hhome, h⟩
    split at h
    · cases h
    · next hempty =>
      cases h
      exact ⟨hhome, fun hnil => hempty (List.isEmpty_iff.2 hnil), rfl⟩
  · rintro ⟨hhome, hne, rfl⟩
    exact ⟨home, hhome, if_neg fun h => hne (List.isEmpty_iff.1 h)⟩

theorem mem_tagPairs_ofRecords {home name : String} :
    (home, name) ∈ (ofRecords dialect records errors).tagPairs ↔
      ∃ record, some record ∈ records ∧ record.Declares dialect home ∧
        ∃ front, record.tagName? = some front ∧ String.ofList front = name := by
  simp only [ofRecords, mem_present, tagPairOf, Option.bind_eq_some_iff, homeOf_eq_some_iff,
    Option.map_eq_some_iff, Prod.mk.injEq]
  refine exists_congr fun record => and_congr_right fun _ => ?_
  constructor
  · rintro ⟨found, hhome, front, hfront, rfl, hname⟩
    exact ⟨hhome, front, hfront, hname⟩
  · rintro ⟨hhome, front, hfront, hname⟩
    exact ⟨home, hhome, front, hfront, rfl, hname⟩

end SymbolIndex

theorem Identifier.ne_nil_of_mem_all {dialect : Dialect} {text name : List Char}
    (h : name ∈ all dialect text) : name ≠ [] := by
  obtain ⟨c, more, rfl, -⟩ := (Sweep.isIdentifier_of_mem_run dialect .code text name h).start
  exact List.cons_ne_nil c more

namespace UnusedImport

/-- A namespace is unused by a text, said of the records: some record declares it, and no record
that declares it holds extension methods or has a type that the code of the text names. -/
structure UnusedBy (dialect : Dialect) (records : List (Option TypeRecord)) (text home : String) :
    Prop where
  declared : ∃ record, some record ∈ records ∧ record.Declares dialect home
  no_extension : ∀ record, some record ∈ records → record.Declares dialect home →
    record.isExtensionContainer = false
  unnamed : ∀ record, some record ∈ records → record.Declares dialect home →
    ∀ name, record.NamedBy name → String.ofList name ∉ Identifier.names dialect text

variable {dialect : Dialect} {records : List (Option TypeRecord)} {errors : List String}
  {text home : String}

/-- A type without a name is left out of the index; no identifier is empty either. -/
theorem nil_not_mem_names : String.ofList [] ∉ Identifier.names dialect text := by
  intro hmem
  obtain ⟨found, hfound, heq⟩ := List.mem_map.1 hmem
  exact Identifier.ne_nil_of_mem_all hfound (String.ofList_injective heq)

/-- The rule, read off an index of records, is what it says of the records. -/
theorem isUnused_ofRecords_iff :
    isUnused (SymbolIndex.ofRecords dialect records errors) (Identifier.names dialect text) home =
        true ↔
      UnusedBy dialect records text home := by
  simp only [isUnused, SymbolIndex.contains, SymbolIndex.isExtension, SymbolIndex.typeNames,
    SymbolIndex.tagNames, Bool.and_eq_true, Bool.not_eq_true', List.any_eq_false,
    List.contains_eq_mem, decide_eq_true_eq, decide_eq_false_iff_not, SymbolIndex.mem_valuesOf,
    SymbolIndex.mem_homes_ofRecords, SymbolIndex.mem_extensions_ofRecords,
    SymbolIndex.mem_typePairs_ofRecords, SymbolIndex.mem_tagPairs_ofRecords]
  constructor
  · rintro ⟨⟨⟨hdeclared, hextension⟩, htypes⟩, htags⟩
    refine ⟨hdeclared, fun record hmem hhome => ?_, fun record hmem hhome name hname => ?_⟩
    · exact Bool.eq_false_iff.2 fun h => hextension ⟨record, hmem, hhome, h⟩
    · rcases TypeRecord.namedBy_iff.1 hname with rfl | htag
      · by_cases hempty : record.shortName = []
        · rw [hempty]
          exact nil_not_mem_names
        · exact htypes _ ⟨record, hmem, hhome, hempty, rfl⟩
      · exact htags _ ⟨record, hmem, hhome, name, htag, rfl⟩
  · rintro ⟨hdeclared, hextension, hunnamed⟩
    refine ⟨⟨⟨hdeclared, ?_⟩, ?_⟩, ?_⟩
    · rintro ⟨record, hmem, hhome, h⟩
      rw [hextension record hmem hhome] at h
      cases h
    · rintro name ⟨record, hmem, hhome, -, rfl⟩
      exact hunnamed record hmem hhome _ .short
    · rintro name ⟨record, hmem, hhome, front, htag, rfl⟩
      exact hunnamed record hmem hhome front (TypeRecord.namedBy_iff.2 (.inr htag))

instance : Decidable (UnusedBy dialect records text home) :=
  decidable_of_iff _ (@isUnused_ofRecords_iff dialect records [] text home)

/-- What is reported of a text are its imports that are unused by it, each as often as it is
imported and in order. Where reading its header raises, the same is raised. -/
theorem check_ofRecords (dialect : Dialect) (records : List (Option TypeRecord))
    (errors : List String) (text : String) :
    check dialect (SymbolIndex.ofRecords dialect records errors) text =
        (Header.scanNames dialect text).map (List.filter fun home =>
          decide (UnusedBy dialect records text home)) ∧
      ∀ home,
        (∃ found, check dialect (SymbolIndex.ofRecords dialect records errors) text = .ok found ∧
            home ∈ found) ↔
          (∃ imported, Header.scanNames dialect text = .ok imported ∧ home ∈ imported) ∧
            UnusedBy dialect records text home := by
  have hselect : ∀ homes, select (SymbolIndex.ofRecords dialect records errors)
      (Identifier.names dialect text) homes =
        homes.filter fun home => decide (UnusedBy dialect records text home) := by
    intro homes
    rw [select]
    refine List.filter_congr fun home _ => ?_
    rw [Bool.eq_iff_iff, isUnused_ofRecords_iff, decide_eq_true_iff]
  rw [check, funext hselect]
  refine ⟨rfl, fun home => ?_⟩
  cases Header.scanNames dialect text with
  | error fault => simp [Except.map]
  | ok imported => simp [Except.map]

end UnusedImport

end Vetting

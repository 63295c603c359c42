import Vetting.Proofs.Header.Canonical
import Vetting.Proofs.SymbolIndex.Holdings

/-!
# Vetting.Proofs.SymbolIndex.Key

The keys of an index. A record of the root namespace is left out by its own text, and the qualifier
of the root namespace is dropped after that and once. So a namespace that is the qualifier and
nothing else becomes an empty key, and one that has the qualifier twice keeps one of them.

* `Dialect.isKey_unqualifiedName_iff`: which namespaces become proper keys.
* `SymbolIndex.ignores_iff`: which records an index passes over.
* `SymbolIndex.isKey_namespaces_iff`: the records whose index has proper keys only.
-/

namespace Vetting

namespace Dialect

variable {dialect : Dialect}

theorem unqualified_eq_nil_iff {name : List Char} :
    dialect.unqualified name = [] ↔ name = [] ∨ name = dialect.rootQualifier.toList := by
  constructor
  · intro h
    rcases dialect.unqualified_cases name with hsame | hcut
    · exact .inl (hsame.symm.trans h)
    · rw [h, List.append_nil] at hcut
      exact .inr hcut
  · rintro (rfl | rfl)
    · exact List.suffix_nil.1 (dialect.unqualified_suffix [])
    · have hcut := dialect.unqualified_qualifier_append []
      rwa [List.append_nil] at hcut

theorem prefix_unqualified_iff (hne : dialect.rootQualifier.toList ≠ []) (name : List Char) :
    dialect.rootQualifier.toList <+: dialect.unqualified name ↔
      dialect.rootQualifier.toList ++ dialect.rootQualifier.toList <+: name := by
  constructor
  · intro h
    rcases dialect.unqualified_cases name with hsame | hcut
    · -- a name that still has the qualifier would have lost it
      obtain ⟨rest, hrest⟩ := hsame ▸ h
      have hlost : dialect.unqualified name = rest := by
        rw [← hrest, unqualified_qualifier_append]
      rw [hsame, ← hrest] at hlost
      exact absurd (List.append_left_eq_self.1 hlost) hne
    · rw [hcut]
      exact (List.prefix_append_right_inj _).2 h
  · rintro ⟨rest, rfl⟩
    rw [List.append_assoc, unqualified_qualifier_append]
    exact List.prefix_append _ _

/-- A namespace as an index is to hold it. -/
structure IsKey (dialect : Dialect) (home : String) : Prop where
  ne_empty : home ≠ ""
  not_qualified : dialect.rootQualifier ≠ "" → ¬ dialect.rootQualifier.toList <+: home.toList

/-- A namespace that is the qualifier of the root namespace and nothing else, or has it twice. -/
def IsOverqualified (dialect : Dialect) (home : String) : Prop :=
  dialect.rootQualifier ≠ "" ∧
    (home = dialect.rootQualifier ∨
      dialect.rootQualifier.toList ++ dialect.rootQualifier.toList <+: home.toList)

theorem unqualifiedName_eq_empty_iff {home : String} :
    dialect.unqualifiedName home = "" ↔ home = "" ∨ home = dialect.rootQualifier := by
  rw [unqualifiedName, ← String.toList_eq_nil_iff, String.toList_ofList, unqualified_eq_nil_iff,
    String.toList_eq_nil_iff, String.toList_inj]

theorem isKey_unqualifiedName_iff {home : String} (hne : home ≠ "") :
    dialect.IsKey (dialect.unqualifiedName home) ↔ ¬ dialect.IsOverqualified home := by
  have hempty : dialect.unqualifiedName home = "" ↔ home = dialect.rootQualifier := by
    simp [unqualifiedName_eq_empty_iff, hne]
  by_cases hroot : dialect.rootQualifier = ""
  · -- without a qualifier nothing is dropped and nothing can be left over
    have hkey : dialect.unqualifiedName home ≠ "" := fun h => hne ((hempty.1 h).trans hroot)
    exact ⟨fun _ hover => hover.1 hroot, fun _ => ⟨hkey, fun h => absurd hroot h⟩⟩
  · have hne' : dialect.rootQualifier.toList ≠ [] :=
      fun hnil => hroot (String.toList_eq_nil_iff.1 hnil)
    have hstarts := prefix_unqualified_iff hne' home.toList
    have htext : (dialect.unqualifiedName home).toList = dialect.unqualified home.toList :=
      String.toList_ofList
    constructor
    · rintro hkey ⟨-, hsame | htwice⟩
      · exact hkey.ne_empty (hempty.2 hsame)
      · exact hkey.not_qualified hroot (htext ▸ hstarts.2 htwice)
    · intro hover
      constructor
      · exact fun h => hover ⟨hroot, .inl (hempty.1 h)⟩
      · exact fun _ h => hover ⟨hroot, .inr (hstarts.1 (htext ▸ h))⟩

theorem IsOverqualified.ne_empty {home : String} (h : dialect.IsOverqualified home) :
    home ≠ "" := by
  rintro rfl
  obtain ⟨hroot, hsame | htwice⟩ := h
  · exact hroot hsame.symm
  · have hnil := List.prefix_nil.1 htwice
    exact hroot (String.toList_eq_nil_iff.1 (List.append_eq_nil_iff.1 hnil).1)

end Dialect

namespace SymbolIndex

variable {dialect : Dialect} {records : List (Option TypeRecord)} {errors : List String}

/-- A record that makes no difference to an index, wherever it stands. -/
def Ignores (dialect : Dialect) (record : TypeRecord) : Prop :=
  ∀ front back errors, ofRecords dialect (front ++ some record :: back) errors =
    ofRecords dialect (front ++ back) errors

theorem ignores_iff {record : TypeRecord} : Ignores dialect record ↔ record.home = "" := by
  constructor
  · intro h
    by_contra hhome
    have hmem : dialect.unqualifiedName record.home ∈ (ofRecords dialect [some record]).homes :=
      mem_homes_ofRecords.2 ⟨record, List.mem_singleton_self _, hhome, rfl⟩
    have halone := h [] [] []
    rw [List.nil_append, List.nil_append] at halone
    rw [halone] at hmem
    exact absurd hmem List.not_mem_nil
  · intro hhome front back errors
    have hnone : homeOf dialect record = none := by simp [homeOf, hhome]
    simp [ofRecords, typePairOf, tagPairOf, extensionOf, hnone]

theorem mem_namespaces_ofRecords {home : String} :
    home ∈ (ofRecords dialect records errors).namespaces ↔
      ∃ record, some record ∈ records ∧ record.Declares dialect home := by
  rw [namespaces, List.mem_eraseDups, mem_homes_ofRecords]

/-- The keys of an index are proper and the records of the root namespace make no difference,
exactly where no record gives as its namespace the qualifier alone or the qualifier twice. -/
theorem isKey_namespaces_iff (dialect : Dialect) (records : List (Option TypeRecord))
    (errors : List String) :
    ((∀ home ∈ (ofRecords dialect records errors).namespaces, dialect.IsKey home) ∧
        ∀ record, some record ∈ records → dialect.unqualifiedName record.home = "" →
          Ignores dialect record) ↔
      ∀ record, some record ∈ records → ¬ dialect.IsOverqualified record.home := by
  constructor
  · rintro ⟨hkeys, -⟩ record hrecord hover
    have hkey := hkeys (dialect.unqualifiedName record.home)
      (mem_namespaces_ofRecords.2 ⟨record, hrecord, hover.ne_empty, rfl⟩)
    exact (Dialect.isKey_unqualifiedName_iff hover.ne_empty).1 hkey hover
  · intro hproper
    constructor
    · intro home hhome
      obtain ⟨record, hrecord, hne, rfl⟩ := mem_namespaces_ofRecords.1 hhome
      exact (Dialect.isKey_unqualifiedName_iff hne).2 (hproper record hrecord)
    · intro record hrecord hroot
      rw [ignores_iff]
      rcases Dialect.unqualifiedName_eq_empty_iff.1 hroot with hempty | hsame
      · exact hempty
      · by_contra hne
        exact hproper record hrecord ⟨hsame ▸ hne, .inl hsame⟩

/-- A qualifier that stands twice is dropped once. -/
example : (ofRecords .standard [some { home := "global::global::A", name := "B" }]).namespaces =
    ["global::A"] := by decide

/-- The root namespace by its qualifier: the record is not left out, and its key is empty. -/
theorem not_isKey_of_bare_qualifier :
    ¬ ∀ (dialect : Dialect) (records : List (Option TypeRecord)) (errors : List String),
      (∀ home ∈ (ofRecords dialect records errors).namespaces, dialect.IsKey home) ∧
        ∀ record, some record ∈ records → dialect.unqualifiedName record.home = "" →
          Ignores dialect record := by
  intro h
  obtain ⟨hkeys, -⟩ := h .standard [some { home := "global::", name := "A" }] []
  have hempty : "" ∈
      (ofRecords .standard [some { home := "global::", name := "A" }]).namespaces := by decide
  exact (hkeys "" hempty).ne_empty rfl

end SymbolIndex

end Vetting

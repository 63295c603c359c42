import Mathlib.Data.Finset.Insert
import Mathlib.Data.Finset.Lattice.Basic
import Mathlib.Data.Finset.Dedup
import Mathlib.Data.List.Induction
import Vetting.Proofs.UnusedImport

/-!
# Vetting.Proofs.SymbolIndex.Holdings

What an index holds, as maps and sets, and how the records build it up. `Holdings.note` takes one
record in: it makes the entry of a namespace where there is none yet, and adds to the entries what
the record has. Taking a record in is joining what it holds alone, so the order does not matter.

* `SymbolIndex.holdings_ofRecords`: the index of records holds what they leave when they are taken
  in one after the other.
* `SymbolIndex.holdings_merge`: the index of two lists of records holds, namespace by namespace,
  what either index holds, and an index is settled by the set of its records.
-/

namespace Vetting

namespace TypeRecord

variable {dialect : Dialect} {record : TypeRecord} {home : String}

theorem not_declares (h : record.home = "") : ¬ record.Declares dialect home :=
  fun hdeclares => hdeclares.1 h

theorem declares_iff (h : record.home ≠ "") :
    record.Declares dialect home ↔ home = dialect.unqualifiedName record.home :=
  ⟨fun hdeclares => hdeclares.2.symm, fun hhome => ⟨h, hhome.symm⟩⟩

end TypeRecord

/-- What an index holds, apart from its errors. -/
@[ext] structure Holdings where
  namespaces : Finset String
  /-- Under each namespace the names of its types. -/
  typeNames : String → Finset String
  /-- The namespaces with an entry of their own for tags. -/
  tagNamespaces : Finset String
  /-- Under each namespace the short names of its tags. -/
  tagNames : String → Finset String
  extensions : Finset String

/-- What an index holds, read off its lists. -/
def SymbolIndex.holdings (index : SymbolIndex) : Holdings where
  namespaces := index.namespaces.toFinset
  typeNames home := (index.typeNames home).toFinset
  tagNamespaces := index.tagNamespaces.toFinset
  tagNames home := (index.tagNames home).toFinset
  extensions := index.extensions.toFinset

namespace Holdings

/-! ## Joining, namespace by namespace -/

/-- All that is held by the first is held by the second, under the same namespaces. -/
structure Within (few many : Holdings) : Prop where
  namespaces : few.namespaces ⊆ many.namespaces
  typeNames : ∀ home, few.typeNames home ⊆ many.typeNames home
  tagNamespaces : few.tagNamespaces ⊆ many.tagNamespaces
  tagNames : ∀ home, few.tagNames home ⊆ many.tagNames home
  extensions : few.extensions ⊆ many.extensions

instance : PartialOrder Holdings where
  le := Within
  le_refl _ :=
    { namespaces := Finset.Subset.refl _
      typeNames := fun _ => Finset.Subset.refl _
      tagNamespaces := Finset.Subset.refl _
      tagNames := fun _ => Finset.Subset.refl _
      extensions := Finset.Subset.refl _ }
  le_trans _ _ _ h k :=
    { namespaces := h.namespaces.trans k.namespaces
      typeNames := fun home => (h.typeNames home).trans (k.typeNames home)
      tagNamespaces := h.tagNamespaces.trans k.tagNamespaces
      tagNames := fun home => (h.tagNames home).trans (k.tagNames home)
      extensions := h.extensions.trans k.extensions }
  le_antisymm _ _ h k := by
    ext1
    · exact h.namespaces.antisymm k.namespaces
    · exact funext fun home => (h.typeNames home).antisymm (k.typeNames home)
    · exact h.tagNamespaces.antisymm k.tagNamespaces
    · exact funext fun home => (h.tagNames home).antisymm (k.tagNames home)
    · exact h.extensions.antisymm k.extensions

instance : SemilatticeSup Holdings where
  sup held more :=
    { namespaces := held.namespaces ∪ more.namespaces
      typeNames := fun home => held.typeNames home ∪ more.typeNames home
      tagNamespaces := held.tagNamespaces ∪ more.tagNamespaces
      tagNames := fun home => held.tagNames home ∪ more.tagNames home
      extensions := held.extensions ∪ more.extensions }
  le_sup_left _ _ :=
    { namespaces := Finset.subset_union_left
      typeNames := fun _ => Finset.subset_union_left
      tagNamespaces := Finset.subset_union_left
      tagNames := fun _ => Finset.subset_union_left
      extensions := Finset.subset_union_left }
  le_sup_right _ _ :=
    { namespaces := Finset.subset_union_right
      typeNames := fun _ => Finset.subset_union_right
      tagNamespaces := Finset.subset_union_right
      tagNames := fun _ => Finset.subset_union_right
      extensions := Finset.subset_union_right }
  sup_le _ _ _ h k :=
    { namespaces := Finset.union_subset h.namespaces k.namespaces
      typeNames := fun home => Finset.union_subset (h.typeNames home) (k.typeNames home)
      tagNamespaces := Finset.union_subset h.tagNamespaces k.tagNamespaces
      tagNames := fun home => Finset.union_subset (h.tagNames home) (k.tagNames home)
      extensions := Finset.union_subset h.extensions k.extensions }

instance : OrderBot Holdings where
  bot := ⟨∅, fun _ => ∅, ∅, fun _ => ∅, ∅⟩
  bot_le _ :=
    { namespaces := Finset.empty_subset _
      typeNames := fun _ => Finset.empty_subset _
      tagNamespaces := Finset.empty_subset _
      tagNames := fun _ => Finset.empty_subset _
      extensions := Finset.empty_subset _ }

section Fields

variable (held more : Holdings) (home : String)

@[simp] theorem sup_namespaces : (held ⊔ more).namespaces = held.namespaces ∪ more.namespaces := rfl

@[simp] theorem sup_typeNames :
    (held ⊔ more).typeNames home = held.typeNames home ∪ more.typeNames home := rfl

@[simp] theorem sup_tagNamespaces :
    (held ⊔ more).tagNamespaces = held.tagNamespaces ∪ more.tagNamespaces := rfl

@[simp] theorem sup_tagNames :
    (held ⊔ more).tagNames home = held.tagNames home ∪ more.tagNames home := rfl

@[simp] theorem sup_extensions : (held ⊔ more).extensions = held.extensions ∪ more.extensions := rfl

@[simp] theorem bot_namespaces : (⊥ : Holdings).namespaces = ∅ := rfl

@[simp] theorem bot_typeNames : (⊥ : Holdings).typeNames home = ∅ := rfl

@[simp] theorem bot_tagNamespaces : (⊥ : Holdings).tagNamespaces = ∅ := rfl

@[simp] theorem bot_tagNames : (⊥ : Holdings).tagNames home = ∅ := rfl

@[simp] theorem bot_extensions : (⊥ : Holdings).extensions = ∅ := rfl

end Fields

/-! ## Taking records in -/

/-- One more value under a key; a key without an entry gets one. -/
def putUnder (key value : String) (values : String → Finset String) : String → Finset String :=
  Function.update values key (insert value (values key))

@[simp] theorem mem_putUnder {key value found home : String} {values : String → Finset String} :
    found ∈ putUnder key value values home ↔
      home = key ∧ value = found ∨ found ∈ values home := by
  by_cases h : home = key
  · subst h
    simp [putUnder, eq_comm]
  · simp [putUnder, h]

/-- Take one record in: each of the five is extended under a condition of its own. A record without
a namespace leaves everything as it is, and so does a record that is missing. -/
def note (dialect : Dialect) (held : Holdings) : Option TypeRecord → Holdings
  | none => held
  | some record =>
    if record.home = "" then held
    else
      let home := dialect.unqualifiedName record.home
      { namespaces := insert home held.namespaces
        typeNames :=
          if record.shortName = [] then held.typeNames
          else putUnder home (String.ofList record.shortName) held.typeNames
        tagNamespaces :=
          if record.tagName?.isSome then insert home held.tagNamespaces else held.tagNamespaces
        tagNames :=
          match record.tagName? with
          | none => held.tagNames
          | some short => putUnder home (String.ofList short) held.tagNames
        extensions :=
          if record.isExtensionContainer then insert home held.extensions else held.extensions }

section Note

open TypeRecord

variable {dialect : Dialect} {held : Holdings} {record : TypeRecord} {home name : String}

@[simp] theorem mem_namespaces_note :
    home ∈ (held.note dialect (some record)).namespaces ↔
      record.Declares dialect home ∨ home ∈ held.namespaces := by
  by_cases h : record.home = ""
  · simp [note, h, not_declares]
  · simp [note, h, declares_iff]

@[simp] theorem mem_typeNames_note :
    name ∈ (held.note dialect (some record)).typeNames home ↔
      (record.Declares dialect home ∧ record.shortName ≠ [] ∧
        String.ofList record.shortName = name) ∨ name ∈ held.typeNames home := by
  by_cases h : record.home = ""
  · simp [note, h, not_declares]
  · by_cases hname : record.shortName = []
    · simp [note, h, hname]
    · simp [note, h, hname, declares_iff]

@[simp] theorem mem_tagNamespaces_note :
    home ∈ (held.note dialect (some record)).tagNamespaces ↔
      (record.Declares dialect home ∧ ∃ short, record.tagName? = some short) ∨
        home ∈ held.tagNamespaces := by
  by_cases h : record.home = ""
  · simp [note, h, not_declares]
  · cases htag : record.tagName? with
    | none => simp [note, h, htag]
    | some short => simp [note, h, htag, declares_iff]

@[simp] theorem mem_tagNames_note :
    name ∈ (held.note dialect (some record)).tagNames home ↔
      (record.Declares dialect home ∧
        ∃ short, record.tagName? = some short ∧ String.ofList short = name) ∨
        name ∈ held.tagNames home := by
  by_cases h : record.home = ""
  · simp [note, h, not_declares]
  · cases htag : record.tagName? with
    | none => simp [note, h, htag]
    | some short => simp [note, h, htag, declares_iff]

@[simp] theorem mem_extensions_note :
    home ∈ (held.note dialect (some record)).extensions ↔
      (record.Declares dialect home ∧ record.isExtensionContainer = true) ∨
        home ∈ held.extensions := by
  by_cases h : record.home = ""
  · simp [note, h, not_declares]
  · by_cases hcontainer : record.isExtensionContainer = true
    · simp [note, h, hcontainer, declares_iff]
    · simp [note, h, hcontainer]

end Note

variable (dialect : Dialect) (held more : Holdings)

theorem note_sup (record : Option TypeRecord) :
    (held ⊔ more).note dialect record = held ⊔ more.note dialect record := by
  cases record with
  | none => rfl
  | some record => ext <;> simp [or_left_comm]

/-- Taking a record in is joining what it holds alone. -/
theorem note_eq_sup (record : Option TypeRecord) :
    held.note dialect record = held ⊔ (⊥ : Holdings).note dialect record := by
  rw [← note_sup, sup_bot_eq]

theorem foldl_note_eq_sup (records : List (Option TypeRecord)) :
    records.foldl (note dialect) held = held ⊔ records.foldl (note dialect) ⊥ := by
  induction records generalizing held with
  | nil => simp
  | cons record records ih =>
    rw [List.foldl_cons, List.foldl_cons, ih, ih ((⊥ : Holdings).note dialect record),
      note_eq_sup, sup_assoc]

/-- What records leave is the least that holds what each of them holds. -/
theorem foldl_note_le_iff (records : List (Option TypeRecord)) :
    records.foldl (note dialect) ⊥ ≤ held ↔
      ∀ record ∈ records, (⊥ : Holdings).note dialect record ≤ held := by
  induction records with
  | nil => simp
  | cons record records ih =>
    rw [List.foldl_cons, foldl_note_eq_sup, sup_le_iff, ih, List.forall_mem_cons]

end Holdings

namespace SymbolIndex

open Holdings

variable {index : SymbolIndex} {home name : String}

@[simp] theorem mem_namespaces_holdings :
    home ∈ index.holdings.namespaces ↔ home ∈ index.homes := by
  simp [holdings, namespaces]

@[simp] theorem mem_typeNames_holdings :
    name ∈ index.holdings.typeNames home ↔ (home, name) ∈ index.typePairs := by
  simp [holdings, typeNames]

@[simp] theorem mem_tagNamespaces_holdings :
    home ∈ index.holdings.tagNamespaces ↔ ∃ short, (home, short) ∈ index.tagPairs := by
  simp [holdings, tagNamespaces]

@[simp] theorem mem_tagNames_holdings :
    name ∈ index.holdings.tagNames home ↔ (home, name) ∈ index.tagPairs := by
  simp [holdings, tagNames]

@[simp] theorem mem_extensions_holdings :
    home ∈ index.holdings.extensions ↔ home ∈ index.extensions := by
  simp [holdings]

theorem contains_iff : index.contains home = true ↔ home ∈ index.holdings.namespaces := by
  simp [contains]

variable {dialect : Dialect} {records first second : List (Option TypeRecord)}
  {errors firstErrors secondErrors : List String}

/-- One record more in an index is one record more taken in. -/
theorem holdings_note (record : Option TypeRecord) :
    (ofRecords dialect (records ++ [record]) errors).holdings =
      (ofRecords dialect records errors).holdings.note dialect record := by
  cases record with
  | none => simp [ofRecords, note]
  | some record =>
    ext
    · simp [mem_homes_ofRecords, or_and_right, exists_or, or_comm]
    · simp [mem_typePairs_ofRecords, or_and_right, exists_or, or_comm]
    · simp [mem_tagPairs_ofRecords, or_and_right, exists_or, or_comm]
    · simp [mem_tagPairs_ofRecords, or_and_right, exists_or, or_comm]
    · simp [mem_extensions_ofRecords, or_and_right, exists_or, or_comm]

/-- The index of records is what they leave, taken in one after the other. -/
theorem holdings_ofRecords :
    (ofRecords dialect records errors).holdings = records.foldl (note dialect) ⊥ := by
  induction records using List.reverseRecOn with
  | nil => rfl
  | append_singleton records record ih => rw [holdings_note, ih, List.foldl_concat]

theorem holdings_append :
    (ofRecords dialect (first ++ second) errors).holdings =
      (ofRecords dialect first firstErrors).holdings ⊔
        (ofRecords dialect second secondErrors).holdings := by
  simp only [holdings_ofRecords]
  rw [List.foldl_append, foldl_note_eq_sup]

theorem holdings_mono (h : ∀ record, some record ∈ first → some record ∈ second) :
    (ofRecords dialect first firstErrors).holdings ≤
      (ofRecords dialect second secondErrors).holdings := by
  simp only [holdings_ofRecords]
  rw [foldl_note_le_iff]
  intro record hrecord
  cases record with
  | none => exact bot_le
  | some record => exact (foldl_note_le_iff dialect _ second).1 le_rfl _ (h record hrecord)

theorem holdings_congr (h : ∀ record, some record ∈ first ↔ some record ∈ second) :
    (ofRecords dialect first firstErrors).holdings =
      (ofRecords dialect second secondErrors).holdings :=
  le_antisymm (holdings_mono fun record => (h record).1) (holdings_mono fun record => (h record).2)

/-- The index of two lists of records holds what the two indices hold, joined under each namespace;
and whatever list holds the same records, in any order and any number, has an index that holds the
same. -/
theorem holdings_merge (dialect : Dialect) (first second : List (Option TypeRecord))
    (errors firstErrors secondErrors : List String) :
    (ofRecords dialect (first ++ second) errors).holdings =
        (ofRecords dialect first firstErrors).holdings ⊔
          (ofRecords dialect second secondErrors).holdings ∧
      ∀ others otherErrors, (∀ record, some record ∈ others ↔ some record ∈ first) →
        (ofRecords dialect others otherErrors).holdings =
          (ofRecords dialect first firstErrors).holdings := by
  constructor
  · exact holdings_append
  · intro others otherErrors hsame
    exact holdings_congr hsame

/-- A tag and a container of extension methods, taken in again in another order. -/
theorem holdings_merge_reordered :
    let tag : TypeRecord := { home := "global::A", name := "BAttribute`1", isTag := true }
    let container : TypeRecord :=
      { home := "A", name := "C", isSealed := true, isAbstract := true, extensionMethods := 1 }
    (∀ record, some record ∈ [some container, none, some tag, some container] ↔
        some record ∈ [some tag, some container]) ∧
      (ofRecords .standard [some container, none, some tag, some container]).holdings =
        (ofRecords .standard [some tag, some container]).holdings := by
  intro tag container
  have hsame : ∀ record, some record ∈ [some container, none, some tag, some container] ↔
      some record ∈ [some tag, some container] := by
    intro record
    simp [or_comm]
  exact ⟨hsame, (holdings_merge .standard [some tag, some container] [] [] [] []).2 _ [] hsame⟩

end SymbolIndex

end Vetting

import Vetting.Proofs.SymbolIndex.Holdings

/-!
# Vetting.Proofs.SymbolIndex.WellFormed

How the parts of an index hang together. Taking a record in may extend five collections, each under
a condition of its own; a short name of a tag is only ever stored beside the full name it comes
from, and a tag or a container of extension methods only in a namespace that is stored too.

* `WellFormed.note`: a record that is taken in keeps what is held well formed.
* `SymbolIndex.wellFormed_ofRecords`: so the index of any records is well formed.
-/

namespace Vetting

namespace TypeRecord

theorem arityMark_not_mem_shortName (record : TypeRecord) : arityMark ∉ record.shortName := by
  intro hmem
  have hne := List.mem_takeWhile_imp hmem
  simp at hne

/-- The full name of a tag is stored with its short one. -/
theorem shortName_of_tagName? {record : TypeRecord} {short : List Char}
    (h : record.tagName? = some short) :
    short ≠ [] ∧ record.shortName ≠ [] ∧
      String.ofList record.shortName = String.ofList short ++ "Attribute" := by
  obtain ⟨-, hne, hname⟩ := tagName?_eq_some_iff.1 h
  refine ⟨hne, ?_, ?_⟩
  · rw [hname]
    exact List.append_ne_nil_of_left_ne_nil hne _
  · rw [hname, String.ofList_append]
    rfl

end TypeRecord

namespace Holdings

/-- What ties the parts of an index together. -/
structure WellFormed (held : Holdings) : Prop where
  named_known : ∀ home, ∀ name ∈ held.typeNames home, home ∈ held.namespaces
  tagged_known : ∀ home ∈ held.tagNamespaces, home ∈ held.namespaces
  extension_known : ∀ home ∈ held.extensions, home ∈ held.namespaces
  typeName_ne_empty : ∀ home, ∀ name ∈ held.typeNames home, name ≠ ""
  typeName_no_arity : ∀ home, ∀ name ∈ held.typeNames home, TypeRecord.arityMark ∉ name.toList
  /-- A namespace has an entry for tags exactly when there is something in it. -/
  tagged_iff : ∀ home, home ∈ held.tagNamespaces ↔ (held.tagNames home).Nonempty
  tagName_ne_empty : ∀ home, ∀ short ∈ held.tagNames home, short ≠ ""
  fullName_stored : ∀ home, ∀ short ∈ held.tagNames home,
    short ++ "Attribute" ∈ held.typeNames home

theorem wellFormed_bot : WellFormed ⊥ := by
  constructor <;> simp

variable {dialect : Dialect} {held : Holdings}

/-- One record keeps what is held well formed: what it adds to a part is covered by what it adds to
the others, and the old stays covered as no part ever loses anything. -/
theorem WellFormed.note (h : WellFormed held) (record : Option TypeRecord) :
    WellFormed (held.note dialect record) := by
  cases record with
  | none => exact h
  | some record =>
    constructor
    case named_known =>
      intro home name hname
      rw [mem_typeNames_note] at hname
      rw [mem_namespaces_note]
      rcases hname with ⟨hdeclares, -⟩ | hold
      · exact .inl hdeclares
      · exact .inr (h.named_known home name hold)
    case tagged_known =>
      intro home htagged
      rw [mem_tagNamespaces_note] at htagged
      rw [mem_namespaces_note]
      rcases htagged with ⟨hdeclares, -⟩ | hold
      · exact .inl hdeclares
      · exact .inr (h.tagged_known home hold)
    case extension_known =>
      intro home hextension
      rw [mem_extensions_note] at hextension
      rw [mem_namespaces_note]
      rcases hextension with ⟨hdeclares, -⟩ | hold
      · exact .inl hdeclares
      · exact .inr (h.extension_known home hold)
    case typeName_ne_empty =>
      intro home name hname
      rw [mem_typeNames_note] at hname
      rcases hname with ⟨-, hne, rfl⟩ | hold
      · simpa using hne
      · exact h.typeName_ne_empty home name hold
    case typeName_no_arity =>
      intro home name hname
      rw [mem_typeNames_note] at hname
      rcases hname with ⟨-, -, rfl⟩ | hold
      · rw [String.toList_ofList]
        exact record.arityMark_not_mem_shortName
      · exact h.typeName_no_arity home name hold
    case tagged_iff =>
      intro home
      rw [mem_tagNamespaces_note, h.tagged_iff]
      constructor
      · rintro (⟨hdeclares, short, hshort⟩ | ⟨short, hold⟩)
        · exact ⟨_, mem_tagNames_note.2 (.inl ⟨hdeclares, short, hshort, rfl⟩)⟩
        · exact ⟨short, mem_tagNames_note.2 (.inr hold)⟩
      · rintro ⟨name, hname⟩
        rcases mem_tagNames_note.1 hname with ⟨hdeclares, short, hshort, -⟩ | hold
        · exact .inl ⟨hdeclares, short, hshort⟩
        · exact .inr ⟨name, hold⟩
    case tagName_ne_empty =>
      intro home short hshort
      rw [mem_tagNames_note] at hshort
      rcases hshort with ⟨-, front, hfront, rfl⟩ | hold
      · simpa using (TypeRecord.shortName_of_tagName? hfront).1
      · exact h.tagName_ne_empty home short hold
    case fullName_stored =>
      intro home short hshort
      rw [mem_tagNames_note] at hshort
      rw [mem_typeNames_note]
      rcases hshort with ⟨hdeclares, front, hfront, rfl⟩ | hold
      · -- the name is stored before it is asked for its short form
        obtain ⟨-, hne, hname⟩ := TypeRecord.shortName_of_tagName? hfront
        exact .inl ⟨hdeclares, hne, hname⟩
      · exact .inr (h.fullName_stored home short hold)

theorem WellFormed.foldl_note (h : WellFormed held) (records : List (Option TypeRecord)) :
    WellFormed (records.foldl (Holdings.note dialect) held) := by
  induction records generalizing held with
  | nil => exact h
  | cons record records ih => exact ih (h.note record)

end Holdings

namespace SymbolIndex

theorem wellFormed_ofRecords (dialect : Dialect) (records : List (Option TypeRecord))
    (errors : List String) : (ofRecords dialect records errors).holdings.WellFormed := by
  rw [holdings_ofRecords]
  exact Holdings.wellFormed_bot.foldl_note records

end SymbolIndex

end Vetting

import Vetting.Proofs.Header.Raising
import Vetting.Proofs.Header.RoundTrip
import Vetting.Proofs.SymbolIndex.WellFormed

/-!
# Vetting.Proofs.UnusedImport.Merged

Reports before and after more records are loaded. What an index holds of a namespace can only speak
for an import of it, never against. So a namespace that was known and not reported is not reported
over any larger index; what is reported for the first time was unknown before.

* `isUnused_iff_of_sup`: the rule over what two indices hold together, said of the two.
* `accepted_merged`: an accepted import of a known namespace stays accepted.
-/

namespace Vetting

/-- A list made of two others, each in its own order. -/
inductive Interleaved {α : Type} : List α → List α → List α → Prop where
  | nil : Interleaved [] [] []
  | left {a : α} {first second merged : List α} :
      Interleaved first second merged → Interleaved (a :: first) second (a :: merged)
  | right {a : α} {first second merged : List α} :
      Interleaved first second merged → Interleaved first (a :: second) (a :: merged)

theorem Interleaved.mem_iff {α : Type} {first second merged : List α}
    (h : Interleaved first second merged) {a : α} : a ∈ merged ↔ a ∈ first ∨ a ∈ second := by
  induction h with
  | nil => simp
  | left _ ih => rw [List.mem_cons, List.mem_cons, ih, or_assoc]
  | right _ ih => rw [List.mem_cons, List.mem_cons, ih, or_left_comm]

namespace SymbolIndex

theorem holdings_merged {dialect : Dialect} {first second merged : List (Option TypeRecord)}
    {errors firstErrors secondErrors : List String} (h : Interleaved first second merged) :
    (ofRecords dialect merged errors).holdings =
      (ofRecords dialect first firstErrors).holdings ⊔
        (ofRecords dialect second secondErrors).holdings := by
  have hsame : (ofRecords dialect merged errors).holdings =
      (ofRecords dialect (first ++ second) errors).holdings := by
    refine holdings_congr fun record => ?_
    rw [h.mem_iff, List.mem_append]
  rw [hsame, holdings_append]

end SymbolIndex

namespace Holdings

variable {held more : Holdings} {identifiers : List String} {home : String}

/-- Nothing that is held of a namespace speaks for an import of it. -/
structure IsUnnamed (held : Holdings) (identifiers : List String) (home : String) : Prop where
  no_extension : home ∉ held.extensions
  types_unnamed : ∀ name ∈ held.typeNames home, name ∉ identifiers
  tags_unnamed : ∀ short ∈ held.tagNames home, short ∉ identifiers

/-- The less is held, the less speaks for an import. -/
theorem IsUnnamed.of_le (hle : held ≤ more) (h : more.IsUnnamed identifiers home) :
    held.IsUnnamed identifiers home := by
  have hwithin : Within held more := hle
  constructor
  · exact fun hextension => h.no_extension (hwithin.extensions hextension)
  · exact fun name hname => h.types_unnamed name (hwithin.typeNames home hname)
  · exact fun short hshort => h.tags_unnamed short (hwithin.tagNames home hshort)

theorem isUnnamed_sup_iff :
    (held ⊔ more).IsUnnamed identifiers home ↔
      held.IsUnnamed identifiers home ∧ more.IsUnnamed identifiers home := by
  constructor
  · intro h
    exact ⟨h.of_le le_sup_left, h.of_le le_sup_right⟩
  · rintro ⟨h, k⟩
    constructor
    · simp [h.no_extension, k.no_extension]
    · intro name hname
      rcases Finset.mem_union.1 hname with hname | hname
      · exact h.types_unnamed name hname
      · exact k.types_unnamed name hname
    · intro short hshort
      rcases Finset.mem_union.1 hshort with hshort | hshort
      · exact h.tags_unnamed short hshort
      · exact k.tags_unnamed short hshort

/-- Nothing is held of a namespace that is not. -/
theorem WellFormed.isUnnamed (h : held.WellFormed) (hunknown : home ∉ held.namespaces) :
    held.IsUnnamed identifiers home := by
  constructor
  · exact fun hextension => hunknown (h.extension_known home hextension)
  · exact fun name hname => absurd (h.named_known home name hname) hunknown
  · intro short hshort
    have htagged := (h.tagged_iff home).2 ⟨short, hshort⟩
    exact absurd (h.tagged_known home htagged) hunknown

end Holdings

namespace UnusedImport

variable {dialect : Dialect} {index first second : SymbolIndex} {identifiers : List String}
  {text home : String}

theorem isUnused_iff :
    isUnused index identifiers home = true ↔
      home ∈ index.holdings.namespaces ∧ index.holdings.IsUnnamed identifiers home := by
  simp only [isUnused, Bool.and_eq_true, Bool.not_eq_true', SymbolIndex.contains_iff,
    List.any_eq_false, List.contains_eq_mem, decide_eq_true_eq, SymbolIndex.isExtension,
    decide_eq_false_iff_not]
  constructor
  · rintro ⟨⟨⟨hknown, hextension⟩, htypes⟩, htags⟩
    refine ⟨hknown, ?_, ?_, ?_⟩
    · simpa using hextension
    · exact fun name hname => htypes name (List.mem_toFinset.1 hname)
    · exact fun short hshort => htags short (List.mem_toFinset.1 hshort)
  · rintro ⟨hknown, hunnamed⟩
    refine ⟨⟨⟨hknown, ?_⟩, ?_⟩, ?_⟩
    · simpa using hunnamed.no_extension
    · exact fun name hname => hunnamed.types_unnamed name (List.mem_toFinset.2 hname)
    · exact fun short hshort => hunnamed.tags_unnamed short (List.mem_toFinset.2 hshort)

theorem isUnnamed_iff (h : index.holdings.WellFormed) :
    index.holdings.IsUnnamed identifiers home ↔
      (index.contains home = true → isUnused index identifiers home = true) := by
  rw [SymbolIndex.contains_iff, isUnused_iff]
  constructor
  · exact fun hunnamed hknown => ⟨hknown, hunnamed⟩
  · intro hunused
    by_cases hknown : home ∈ index.holdings.namespaces
    · exact (hunused hknown).2
    · exact h.isUnnamed hknown

/-- Over an index that holds what two indices hold, a namespace is unused exactly when it is so over
one of the two, and over either of them that holds it. -/
theorem isUnused_iff_of_sup (h : index.holdings = first.holdings ⊔ second.holdings)
    (hfirst : first.holdings.WellFormed) (hsecond : second.holdings.WellFormed) :
    isUnused index identifiers home = true ↔
      (isUnused first identifiers home = true ∨ isUnused second identifiers home = true) ∧
        (first.contains home = true → isUnused first identifiers home = true) ∧
        (second.contains home = true → isUnused second identifiers home = true) := by
  rw [← isUnnamed_iff hfirst, ← isUnnamed_iff hsecond, isUnused_iff, isUnused_iff, isUnused_iff, h,
    Holdings.isUnnamed_sup_iff, Holdings.sup_namespaces, Finset.mem_union]
  constructor
  · rintro ⟨hknown | hknown, hunnamed⟩
    · exact ⟨.inl ⟨hknown, hunnamed.1⟩, hunnamed⟩
    · exact ⟨.inr ⟨hknown, hunnamed.2⟩, hunnamed⟩
  · rintro ⟨⟨hknown, -⟩ | ⟨hknown, -⟩, hunnamed⟩
    · exact ⟨.inl hknown, hunnamed⟩
    · exact ⟨.inr hknown, hunnamed⟩

theorem mem_select_iff_of_sup (h : index.holdings = first.holdings ⊔ second.holdings)
    (hfirst : first.holdings.WellFormed) (hsecond : second.holdings.WellFormed)
    {homes : List String} :
    home ∈ select index identifiers homes ↔
      (home ∈ select first identifiers homes ∨ home ∈ select second identifiers homes) ∧
        (home ∈ homes → first.contains home = true → home ∈ select first identifiers homes) ∧
        (home ∈ homes → second.contains home = true →
          home ∈ select second identifiers homes) := by
  by_cases himported : home ∈ homes
  · simp only [mem_select, himported, true_and, true_implies]
    exact isUnused_iff_of_sup h hfirst hsecond
  · simp [mem_select, himported]

theorem exists_of_check {found : List String} (h : check dialect index text = .ok found) :
    ∃ homes, Header.scanNames dialect text = .ok homes ∧
      select index (Identifier.names dialect text) homes = found := by
  rw [check] at h
  cases hhomes : Header.scanNames dialect text with
  | error fault =>
    rw [hhomes] at h
    cases h
  | ok homes =>
    rw [hhomes] at h
    exact ⟨homes, rfl, Except.ok.inj h⟩

theorem wellFormed_holdings (dialect : Dialect) (records : List (Option TypeRecord))
    (errors : List String) : (SymbolIndex.ofRecords dialect records errors).holdings.WellFormed := by
  rw [SymbolIndex.holdings_ofRecords]
  exact Holdings.wellFormed_bot.foldl_note records

/-- However more records come between those that are known: an import of a namespace that they make
known, and that is not reported over their index, is not reported over the index of all. -/
theorem accepted_merged (dialect indexDialect : Dialect)
    {known more merged : List (Option TypeRecord)} (hmerged : Interleaved known more merged)
    (errors mergedErrors : List String) {text home : String} {found : List String}
    (hknown : (SymbolIndex.ofRecords indexDialect known errors).contains home = true)
    (hfound : check dialect (SymbolIndex.ofRecords indexDialect known errors) text = .ok found)
    (haccepted : home ∉ found) :
    ∃ foundMerged,
      check dialect (SymbolIndex.ofRecords indexDialect merged mergedErrors) text =
          .ok foundMerged ∧
        home ∉ foundMerged := by
  obtain ⟨homes, hhomes, rfl⟩ := exists_of_check hfound
  refine ⟨_, by rw [check, hhomes]; rfl, fun hmem => haccepted ?_⟩
  have hboth := (mem_select_iff_of_sup (SymbolIndex.holdings_merged hmerged)
    (wellFormed_holdings indexDialect known errors)
    (wellFormed_holdings indexDialect more errors)).1 hmem
  exact hboth.2.1 (mem_select.1 hmem).1 hknown

/-- A tag that the text does not use, and a record that is missing, around a type that it uses. -/
theorem accepted_merged_tag :
    let type : TypeRecord := { home := "A", name := "B" }
    let tag : TypeRecord := { home := "global::A", name := "CAttribute", isTag := true }
    Interleaved [some type] [some tag, none] [some tag, some type, none] ∧
      (SymbolIndex.ofRecords .standard [some type]).contains "A" = true ∧
      Header.scanNames .standard "using A;\nB x;" = .ok ["A"] ∧
      check .standard (.ofRecords .standard [some type]) "using A;\nB x;" = .ok [] ∧
      ∃ found,
        check .standard (.ofRecords .standard [some tag, some type, none]) "using A;\nB x;" =
            .ok found ∧
          "A" ∉ found := by
  intro type tag
  have hmerged : Interleaved [some type] [some tag, none] [some tag, some type, none] :=
    .right (.left (.right .nil))
  have hknown : (SymbolIndex.ofRecords .standard [some type]).contains "A" = true := by decide
  have himported : Header.scanNames .standard "using A;\nB x;" = .ok ["A"] := by
    rw [Header.scanNames_of_sound (Dialect.grammarFault?_of_ordinary (by decide))]
    exact congrArg (Except.ok ∘ List.map String.ofList)
      (Header.pathsFrom_ofName ⟨false, 'A', [], by decide, by decide⟩ "B x;".toList)
  have hnames : Identifier.names .standard "using A;\nB x;" = ["using", "A", "B", "x"] := by
    decide +kernel
  have hnone : select (.ofRecords .standard [some type]) ["using", "A", "B", "x"] ["A"] = [] := by
    decide
  have haccepted : check .standard (.ofRecords .standard [some type]) "using A;\nB x;" =
      .ok [] := by
    rw [check, himported, hnames]
    exact congrArg Except.ok hnone
  exact ⟨hmerged, hknown, himported, haccepted,
    accepted_merged .standard .standard hmerged [] [] hknown haccepted (by simp)⟩

end UnusedImport

end Vetting

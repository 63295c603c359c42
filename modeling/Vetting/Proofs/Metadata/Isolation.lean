import Vetting.Proofs.Metadata.Loading

/-!
# Vetting.Proofs.Metadata.Isolation

Modules that fail do not touch the others. Loading a list of modules gives the records of each,
in their order, and for each the errors of what it could not give; the index built from them is the
one of those records. A module without records can be left out: only its errors go with it.

* `MetadataModule.loadResult_eq_ok_iff`: what one module gives, and when it gives anything.
* `Universe.loadAll_eq_ok_iff`: the same of a list of modules, by induction on the list.
* `Universe.loadAll_isolated_iff`: loading isolates the modules that fail exactly when each of them
  fails with an error whose text can be made.
-/

namespace Vetting

theorem map_eq_ok_iff {ε α β : Type} {result : Except ε α} {f : α → β} {b : β} :
    result.map f = .ok b ↔ ∃ a, result = .ok a ∧ f a = b := by
  cases result <;> simp [Except.map]

namespace Loading

/-- The records that were loaded: all, those that could be, or none. -/
def records : Loading → List (Option TypeRecord)
  | whole records => records
  | partly _ records _ => records
  | failed _ => []

/-- The errors for what was not loaded of the module `name`: none, those that are given, or one. -/
def errors (name : String) : Loading → List String
  | whole _ => []
  | partly _ _ errors => errors
  | failed fault => [name ++ ": " ++ fault.message]

end Loading

namespace MetadataModule

variable {tree : FileTree} {m : MetadataModule} {found : LoadResult}

/-- What a module gives: its records, and the errors for the rest under the name that it has once
it is loaded. -/
def given (tree : FileTree) (m : MetadataModule) : LoadResult :=
  ⟨(m.load tree).1.records, (m.load tree).1.errors (m.load tree).2.name⟩

/-- A module is told exactly when loading it fails, if it does, with a fault that is told. -/
theorem isTold_iff (tree : FileTree) :
    m.IsTold ↔ ∀ fault, (m.load tree).1 = .failed fault → fault.IsTold := by
  constructor
  · exact fun hm fault h => fault_isTold_of_load hm h
  · rintro h name fault rfl
    exact h fault rfl

theorem loadResult_eq_ok_iff :
    (loadResult tree m).result = .ok found ↔ m.IsTold ∧ found = m.given tree := by
  rw [isTold_iff tree]
  simp only [loadResult, given]
  cases hload : (m.load tree).1 with
  | whole records => simp [Loading.records, Loading.errors, eq_comm]
  | partly name records errors => simp [Loading.records, Loading.errors, eq_comm]
  | failed fault =>
    simp only [Loading.records, Loading.errors, Loading.failed.injEq, forall_eq', Fault.IsTold]
    cases herror : fault.isError with
    | false => simp
    | true =>
      cases hsaid : fault.said with
      | error other => simp
      | ok message => simp [Fault.eq_message_of_said hsaid, eq_comm]

end MetadataModule

namespace Universe

variable {tree : FileTree} {modules : Universe} {found : LoadResult}

/-- What some modules give: the records of each, and the errors of each, in the order of the
modules. -/
def given (tree : FileTree) (modules : Universe) : LoadResult where
  records := modules.flatMap fun m => (m.given tree).records
  errors := modules.flatMap fun m => (m.given tree).errors

theorem given_cons (m : MetadataModule) (rest : Universe) :
    given tree (m :: rest) = m.given tree ++ given tree rest := rfl

theorem loadAll_cons_eq_ok_iff {m : MetadataModule} {rest : Universe} :
    (loadAll tree (m :: rest)).result = .ok found ↔
      ∃ first, (MetadataModule.loadResult tree m).result = .ok first ∧
        ∃ more, (loadAll tree rest).result = .ok more ∧ first ++ more = found := by
  simp only [loadAll]
  cases (MetadataModule.loadResult tree m).result with
  | error fault => simp
  | ok first => simp [map_eq_ok_iff]

/-- Loading some modules ends well exactly when each of them is told, and then it gives what they
give one by one. -/
theorem loadAll_eq_ok_iff :
    (loadAll tree modules).result = .ok found ↔
      (∀ m ∈ modules, m.IsTold) ∧ found = given tree modules := by
  induction modules generalizing found with
  | nil => simp [loadAll, given, eq_comm]
  | cons m rest ih =>
    simp only [loadAll_cons_eq_ok_iff, MetadataModule.loadResult_eq_ok_iff, ih,
      List.forall_mem_cons, given_cons]
    constructor
    · rintro ⟨_, ⟨hm, rfl⟩, _, ⟨hrest, rfl⟩, rfl⟩
      exact ⟨⟨hm, hrest⟩, rfl⟩
    · rintro ⟨⟨hm, hrest⟩, rfl⟩
      exact ⟨_, ⟨hm, rfl⟩, _, ⟨hrest, rfl⟩, rfl⟩

/-- The modules that give records. -/
def contributing (tree : FileTree) (modules : Universe) : Universe :=
  modules.filter fun m => !(m.given tree).records.isEmpty

theorem records_contributing (tree : FileTree) (modules : Universe) :
    (given tree (contributing tree modules)).records = (given tree modules).records := by
  simp only [given, contributing]
  induction modules with
  | nil => rfl
  | cons m rest ih =>
    cases hrecords : (m.given tree).records with
    | nil => simp [hrecords, ih]
    | cons record more => simp [hrecords, ih]

end Universe

namespace SymbolIndex

variable {tree : FileTree} {dialect : Dialect} {modules : Universe} {index : SymbolIndex}

theorem build_eq_ok_iff :
    (build tree dialect modules).result = .ok index ↔
      (∀ m ∈ modules, m.IsTold) ∧
        index = ofRecords dialect (Universe.given tree modules).records
          (Universe.given tree modules).errors := by
  rw [(build_eq tree dialect modules).1, map_eq_ok_iff]
  constructor
  · rintro ⟨loaded, hloaded, rfl⟩
    obtain ⟨htold, rfl⟩ := Universe.loadAll_eq_ok_iff.1 hloaded
    exact ⟨htold, rfl⟩
  · rintro ⟨htold, rfl⟩
    exact ⟨_, Universe.loadAll_eq_ok_iff.2 ⟨htold, rfl⟩, rfl⟩

/-- An index of modules that are told is built. -/
theorem exists_build (dialect : Dialect) {modules : Universe} (h : ∀ m ∈ modules, m.IsTold) :
    ∃ index, (build tree dialect modules).result = .ok index :=
  ⟨_, build_eq_ok_iff.2 ⟨h, rfl⟩⟩

end SymbolIndex

namespace Universe

/-- Loading isolates the modules that fail exactly when each of them fails with an error whose text
can be made. What is loaded are then the records of each module (all, those that could be loaded, or
none) and its errors (none, those that it gives, or one), in the order of the modules; the index is
the one of these records and carries these errors; and without the modules that give no record the
index is the same, but for the errors. -/
theorem loadAll_isolated_iff (tree : FileTree) (dialect : Dialect) (modules : Universe) :
    ((loadAll tree modules).result = .ok (given tree modules) ∧
        ∃ index, (SymbolIndex.build tree dialect modules).result = .ok index ∧
          index = SymbolIndex.ofRecords dialect (given tree modules).records
            (given tree modules).errors ∧
          (SymbolIndex.build tree dialect (contributing tree modules)).result =
            .ok { index with errors := (given tree (contributing tree modules)).errors }) ↔
      ∀ m ∈ modules, m.IsTold := by
  constructor
  · rintro ⟨hloaded, -⟩
    exact (loadAll_eq_ok_iff.1 hloaded).1
  · intro htold
    refine ⟨loadAll_eq_ok_iff.2 ⟨htold, rfl⟩, _, SymbolIndex.build_eq_ok_iff.2 ⟨htold, rfl⟩, rfl,
      ?_⟩
    rw [SymbolIndex.build_eq_ok_iff, records_contributing]
    exact ⟨fun m hm => htold m (List.mem_filter.1 hm).1, rfl⟩

/-- A module that fails with a number for its message. -/
theorem loadAll_speechless :
    ¬ ∀ (tree : FileTree) (modules : Universe),
      (∀ name fault, .failing name fault ∈ modules → fault.isError = true) →
      ∃ found, (loadAll tree modules).result = .ok found := by
  intro hall
  obtain ⟨found, hfound⟩ :=
    hall ⟨[], []⟩ [.failing "m" (.speechless .validation (.int 5)), .table "n" []] (by
      rintro name fault h
      simp only [List.mem_cons, MetadataModule.failing.injEq, List.not_mem_nil, or_false,
        reduceCtorEq] at h
      rw [h.2]
      rfl)
  cases hfound

end Universe

end Vetting

import Vetting.SymbolIndex.Cache

/-!
# Vetting.Proofs.Metadata.Loading

What loading does to the modules it loads. A catalog that was read goes on under the name that it
gives itself, and nothing else changes: modules that were loaded before give the same again.

* `MetadataModule.load_load`: loading is idempotent.
* `Universe.loadAll_congr`, `SymbolIndex.build_congr`: what modules give depends on their loadings.
* `MetadataModule.fault_isTold_of_load`: whatever a catalog holds, loading it fails, if it does,
  with a fault that is told.
-/

namespace Vetting

variable {tree : FileTree}

/-! ## Loading again -/

namespace MetadataModule

/-- A module that was loaded is loaded as it was before. -/
theorem load_load (tree : FileTree) (m : MetadataModule) :
    (m.load tree).2.load tree = m.load tree := by
  cases m with
  | table name records => rfl
  | failing name fault => rfl
  | partly name records errors => rfl
  | catalog path encoding name =>
    simp only [load]
    cases hread : Catalog.read tree path encoding with
    | error trouble => cases trouble <;> simp only [hread]
    | ok found =>
      cases hname : found.name? <;> simp [hread, hname]

/-- A module, but for the name under which a catalog stands. -/
def unnamed : MetadataModule → MetadataModule
  | catalog path encoding _ => .catalog path encoding ""
  | m => m

theorem unnamed_load (tree : FileTree) (m : MetadataModule) :
    (m.load tree).2.unnamed = m.unnamed := by
  cases m with
  | catalog path encoding name =>
    simp only [load]
    cases Catalog.read tree path encoding with
    | error trouble => cases trouble <;> rfl
    | ok found => rfl
  | _ => rfl

theorem loadResult_state (m : MetadataModule) : (loadResult tree m).state = (m.load tree).2 := by
  simp only [loadResult]
  cases (m.load tree).1 with
  | whole records => rfl
  | partly name records errors => rfl
  | failed fault =>
    cases hfault : fault.isError with
    | false => simp [hfault]
    | true => cases hsaid : fault.said <;> simp [hfault, hsaid]

theorem loadResult_congr {m m' : MetadataModule} (h : m.load tree = m'.load tree) :
    loadResult tree m = loadResult tree m' := by
  simp only [loadResult, h]

end MetadataModule

namespace Universe

/-- What loading each of some modules gives. -/
def loadings (tree : FileTree) (modules : Universe) : List (Loading × MetadataModule) :=
  modules.map (·.load tree)

@[simp] theorem loadings_append (a b : Universe) :
    loadings tree (a ++ b) = loadings tree a ++ loadings tree b :=
  List.map_append

theorem length_eq_of_loadings {a b : Universe} (h : loadings tree a = loadings tree b) :
    a.length = b.length := by
  simpa [loadings] using congrArg List.length h

theorem loadings_loadAll (modules : Universe) :
    loadings tree (loadAll tree modules).state = loadings tree modules := by
  induction modules with
  | nil => rfl
  | cons m rest ih =>
    have hm : (MetadataModule.loadResult tree m).state.load tree = m.load tree := by
      rw [MetadataModule.loadResult_state, MetadataModule.load_load]
    simp only [loadAll]
    cases (MetadataModule.loadResult tree m).result with
    | error fault => simp [loadings, hm]
    | ok found =>
      simp only [loadings, List.map_cons, hm] at ih ⊢
      rw [ih]

/-- Modules of the same loadings give the same, and the same is written of them. -/
theorem loadAll_congr {a b : Universe} (h : loadings tree a = loadings tree b) :
    (loadAll tree a).result = (loadAll tree b).result ∧
      (loadAll tree a).journal = (loadAll tree b).journal := by
  induction a generalizing b with
  | nil =>
    cases b with
    | nil => exact ⟨rfl, rfl⟩
    | cons m' rest' => simp [loadings] at h
  | cons m rest ih =>
    cases b with
    | nil => simp [loadings] at h
    | cons m' rest' =>
      simp only [loadings, List.map_cons, List.cons.injEq] at h
      obtain ⟨hm, hrest⟩ := h
      obtain ⟨hresult, hjournal⟩ := ih hrest
      simp only [loadAll, MetadataModule.loadResult_congr hm]
      cases (MetadataModule.loadResult tree m').result with
      | error fault => exact ⟨rfl, rfl⟩
      | ok found => simp only [hresult, hjournal, and_self]

end Universe

namespace SymbolIndex

theorem build_eq (tree : FileTree) (dialect : Dialect) (modules : Universe) :
    (build tree dialect modules).result = (Universe.loadAll tree modules).result.map (fun loaded =>
      ofRecords dialect loaded.records loaded.errors) ∧
    (build tree dialect modules).state = (Universe.loadAll tree modules).state := by
  have hbuild : build tree dialect modules = Session.run (build tree dialect) modules := rfl
  cases hloaded : (Universe.loadAll tree modules).result with
  | error fault =>
    rw [hbuild, build, Session.run_bind_of_error hloaded]
    exact ⟨rfl, rfl⟩
  | ok loaded =>
    rw [hbuild, build, Session.run_bind_of_ok hloaded]
    exact ⟨rfl, rfl⟩

theorem build_congr {a b : Universe} (dialect : Dialect)
    (h : Universe.loadings tree a = Universe.loadings tree b) :
    (build tree dialect a).result = (build tree dialect b).result := by
  rw [(build_eq tree dialect a).1, (build_eq tree dialect b).1, (Universe.loadAll_congr h).1]

theorem loadings_build (tree : FileTree) (dialect : Dialect) (modules : Universe) :
    Universe.loadings tree (build tree dialect modules).state = Universe.loadings tree modules := by
  rw [(build_eq tree dialect modules).2, Universe.loadings_loadAll]

end SymbolIndex

/-! ## Faults that are told -/

/-- A fault that loading turns into an error: one of the general kind, with something to say. -/
def Fault.IsTold (fault : Fault) : Prop :=
  fault.isError = true ∧ ∃ message, fault.said = .ok message

theorem PathTrouble.fault_isTold (path : Path) (trouble : PathTrouble) :
    (trouble.fault path).IsTold := by
  cases trouble <;> exact ⟨rfl, _, rfl⟩

theorem EntryTrouble.fault_isTold (trouble : EntryTrouble) : trouble.fault.IsTold := by
  cases trouble <;> exact ⟨rfl, _, rfl⟩

theorem FileTree.fault_isTold_of_readBytes {path : Path} {fault : Fault}
    (h : tree.readBytes path = .error fault) : fault.IsTold := by
  cases hplace : tree.locate path with
  | error trouble =>
    simp only [FileTree.readBytes, hplace, Except.error.injEq] at h
    exact h ▸ PathTrouble.fault_isTold path trouble
  | ok location =>
    simp only [FileTree.readBytes, hplace] at h
    split at h
    · cases h
    · cases h
      exact ⟨rfl, _, rfl⟩
    · cases h
      exact PathTrouble.fault_isTold path .missing

theorem FileTree.fault_isTold_of_readText {path : Path} {encoding : String} {fault : Fault}
    (h : tree.readText path encoding = .error fault) : fault.IsTold := by
  cases hbytes : tree.readBytes path with
  | error other =>
    simp only [FileTree.readText, hbytes, Except.error.injEq] at h
    exact h ▸ FileTree.fault_isTold_of_readBytes hbytes
  | ok bytes =>
    simp only [FileTree.readText, hbytes] at h
    split at h
    · cases h
      exact ⟨rfl, _, rfl⟩
    · split at h
      · cases h
      · cases h
        exact ⟨rfl, _, rfl⟩

namespace MetadataModule

/-- A module that can be loaded, or fails with a fault that is told. All but failing modules are. -/
def IsTold (m : MetadataModule) : Prop :=
  ∀ name fault, m = .failing name fault → fault.IsTold

theorem isTold_ofPath (path : Path) (encoding : String) : (ofPath path encoding).IsTold := by
  intro name fault h
  cases h

theorem fault_isTold_of_loadEntries {title : String} {entries : List Value} {fault : Fault}
    (h : loadEntries title entries = .failed fault) : fault.IsTold := by
  simp only [loadEntries] at h
  split at h
  · cases h
    exact EntryTrouble.fault_isTold _
  · split at h <;> cases h

theorem fault_isTold_of_read {path : Path} {encoding : String} {fault : Fault}
    (h : Catalog.read tree path encoding = .error (.fault fault)) : fault.IsTold := by
  cases htext : tree.readText path encoding with
  | error other =>
    simp only [Catalog.read, htext, Except.error.injEq] at h
    split at h
    · cases h
    · cases h
      exact FileTree.fault_isTold_of_readText htext
  | ok text =>
    simp only [Catalog.read, htext] at h
    split at h
    · cases h
    · cases h
      exact ⟨rfl, _, rfl⟩
    · split at h <;> cases h

/-- Loading a module fails, if it does, with a fault that is told, whatever the files hold. -/
theorem fault_isTold_of_load {m : MetadataModule} {fault : Fault} (hm : m.IsTold)
    (h : (m.load tree).1 = .failed fault) : fault.IsTold := by
  cases m with
  | table name records => cases h
  | failing name other =>
    cases h
    exact hm name fault rfl
  | partly name records errors => cases h
  | catalog path encoding name =>
    simp only [load] at h
    cases hread : Catalog.read tree path encoding with
    | ok found =>
      rw [hread] at h
      exact fault_isTold_of_loadEntries h
    | error trouble =>
      rw [hread] at h
      cases trouble with
      | unreadable =>
        cases h
        exact ⟨rfl, _, rfl⟩
      | noTypes =>
        cases h
        exact ⟨rfl, _, rfl⟩
      | fault other =>
        cases h
        exact fault_isTold_of_read hread

end MetadataModule

end Vetting

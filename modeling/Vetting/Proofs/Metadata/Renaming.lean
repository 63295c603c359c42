import Mathlib
import Vetting.Proofs.Metadata.Isolation

/-!
# Vetting.Proofs.Metadata.Renaming

What loading does to the names of modules, and with it to what unregistering a name takes away. A
catalog that is read goes on under the name that it gives itself, whatever it was called before;
loading it again changes nothing more.

* `MetadataModule.name_load`: the name of a module that was loaded.
* `Universe.afterLoads_succ`: loading once or more often leaves the same modules.
* `Universe.unregister_afterLoads`: loading makes a difference to what unregistering leaves exactly
  when the name is one that some catalog takes or gives up.
-/

namespace Vetting

variable {tree : FileTree}

namespace MetadataModule

/-- The name that a module gives itself: that of a catalog, if it can be read and has one. -/
def ownName? (tree : FileTree) : MetadataModule → Option String
  | catalog path encoding _ =>
    match Catalog.read tree path encoding with
    | .ok found => found.name?
    | .error _ => none
  | _ => none

theorem name_load (tree : FileTree) (m : MetadataModule) :
    (m.load tree).2.name = (m.ownName? tree).getD m.name := by
  cases m with
  | catalog path encoding name =>
    simp only [load, ownName?]
    cases Catalog.read tree path encoding with
    | error trouble => cases trouble <;> rfl
    | ok found => rfl
  | _ => rfl

theorem IsTold.load {m : MetadataModule} (h : m.IsTold) : (m.load tree).2.IsTold := by
  rw [isTold_iff tree] at h ⊢
  rwa [load_load]

end MetadataModule

namespace Universe

variable {modules : Universe}

/-- Loading modules that are told loads each of them. -/
theorem loadAll_state (h : ∀ m ∈ modules, m.IsTold) :
    (loadAll tree modules).state = modules.map fun m => (m.load tree).2 := by
  induction modules with
  | nil => rfl
  | cons m rest ih =>
    obtain ⟨hm, hrest⟩ := List.forall_mem_cons.1 h
    have hfirst : (MetadataModule.loadResult tree m).result = .ok (m.given tree) :=
      MetadataModule.loadResult_eq_ok_iff.2 ⟨hm, rfl⟩
    simp only [loadAll, hfirst, List.map_cons, ih hrest, MetadataModule.loadResult_state]

/-- The modules after they were loaded a number of times. -/
def afterLoads (tree : FileTree) : Nat → Universe → Universe
  | 0, modules => modules
  | times + 1, modules => (loadAll tree (afterLoads tree times modules)).state

theorem afterLoads_succ (tree : FileTree) (h : ∀ m ∈ modules, m.IsTold) (times : Nat) :
    afterLoads tree (times + 1) modules = modules.map fun m => (m.load tree).2 := by
  induction times with
  | zero => exact loadAll_state h
  | succ times ih =>
    have htold : ∀ m ∈ modules.map fun m => (m.load tree).2, m.IsTold := by
      intro loaded hloaded
      obtain ⟨m, hm, rfl⟩ := List.mem_map.1 hloaded
      exact (h m hm).load
    rw [afterLoads, ih, loadAll_state htold, List.map_map]
    simp only [Function.comp_def, MetadataModule.load_load]

/-- Where the modules stand that unregistering a name leaves. -/
def placesLeft (name : String) (modules : Universe) : List Nat := modules.findIdxs (·.name != name)

theorem unregister_eq_filterMap (name : String) (modules : Universe) :
    unregister name modules = (placesLeft name modules).filterMap fun place => modules[place]? := by
  rw [placesLeft, List.findIdxs_eq_filterMap_zipIdx, List.filterMap_filterMap, unregister,
    ← List.filterMap_eq_filter]
  conv_lhs => rw [← List.zipIdx_map_fst 0 modules, List.filterMap_map]
  refine List.filterMap_congr fun entry hentry => ?_
  have hplace : modules[entry.2]? = some entry.1 := List.mem_zipIdx_iff_getElem?.1 hentry
  by_cases hname : entry.1.name = name <;>
    simp [Option.guard, Bool.cond_eq_ite, hname, hplace]

/-- Unregistering a name leaves the same of either list of modules: modules in the same places, and
the same ones but for the names of catalogs. -/
structure LeavesSame (name : String) (a b : Universe) : Prop where
  places : placesLeft name a = placesLeft name b
  modules : (unregister name a).map (·.unnamed) = (unregister name b).map (·.unnamed)

theorem LeavesSame.refl (name : String) (modules : Universe) : LeavesSame name modules modules :=
  ⟨rfl, rfl⟩

/-- Two conditions hold in the same places of a list exactly when they agree on its members. -/
theorem findIdxs_eq_iff {α : Type} {p q : α → Bool} {l : List α} :
    l.findIdxs p = l.findIdxs q ↔ ∀ a ∈ l, p a = q a := by
  constructor
  · intro h a ha
    obtain ⟨i, hi, rfl⟩ := List.getElem_of_mem ha
    rw [Bool.eq_iff_iff, ← List.mem_findIdxs_iff_pos_getElem hi, h,
      List.mem_findIdxs_iff_pos_getElem hi]
  · intro h
    simp only [List.findIdxs_eq_filterMap_zipIdx]
    refine List.filterMap_congr fun entry hentry => ?_
    rw [h entry.1 (List.fst_mem_of_mem_zipIdx hentry)]

theorem leavesSame_load_iff {name : String} :
    LeavesSame name (modules.map fun m => (m.load tree).2) modules ↔
      ∀ m ∈ modules, ((m.load tree).2.name != name) = (m.name != name) := by
  constructor
  · rintro ⟨hplaces, -⟩
    rw [placesLeft, List.findIdxs_map] at hplaces
    exact findIdxs_eq_iff.1 hplaces
  · intro h
    have hplaces : placesLeft name (modules.map fun m => (m.load tree).2) =
        placesLeft name modules := by
      rw [placesLeft, List.findIdxs_map]
      exact findIdxs_eq_iff.2 h
    refine ⟨hplaces, ?_⟩
    rw [unregister_eq_filterMap, hplaces, unregister_eq_filterMap]
    simp only [List.map_filterMap, List.getElem?_map, Option.map_map, Function.comp_def,
      MetadataModule.unnamed_load]

/-- What unregistering a name leaves is the same however often modules were loaded, once they were
loaded at all; and it is the same as without loading exactly when no catalog that is read changes
over between that name and another one. -/
theorem unregister_afterLoads (h : ∀ m ∈ modules, m.IsTold) (name : String) :
    (∀ times, unregister name (afterLoads tree (times + 1) modules) =
        unregister name (loadAll tree modules).state) ∧
      ((∀ times, LeavesSame name (afterLoads tree times modules) modules) ↔
        ∀ m ∈ modules, ∀ own, m.ownName? tree = some own → (m.name = name ↔ own = name)) := by
  have hkept : (∀ m ∈ modules, ((m.load tree).2.name != name) = (m.name != name)) ↔
      ∀ m ∈ modules, ∀ own, m.ownName? tree = some own → (m.name = name ↔ own = name) := by
    refine forall₂_congr fun m _ => ?_
    rw [MetadataModule.name_load, Bool.eq_iff_iff, bne_iff_ne, bne_iff_ne, not_iff_not]
    cases m.ownName? tree with
    | none => simp
    | some own => simp [iff_comm]
  refine ⟨fun times => ?_, ?_⟩
  · rw [afterLoads_succ tree h, loadAll_state h]
  · rw [← hkept, ← leavesSame_load_iff]
    constructor
    · exact fun hsame => afterLoads_succ tree h 0 ▸ hsame 1
    · intro hsame times
      cases times with
      | zero => exact .refl name modules
      | succ times => exact (afterLoads_succ tree h times).symm ▸ hsame

/-- A file `t` with a catalog that calls itself `u` and holds nothing. -/
def selfNamed : FileTree :=
  ⟨[], [(["t"], .file (Encoding.utf8Bytes "\x7b\"module\":\"u\",\"types\":[]\x7d"))]⟩

theorem ownName?_selfNamed :
    (MetadataModule.ofPath (Path.ofText "t") "utf-8").ownName? selfNamed = some "u" := by
  cbv

theorem unregister_afterLoads_other_name :
    (∀ m ∈ [MetadataModule.ofPath (Path.ofText "t") "utf-8", .table "v" []], m.IsTold) ∧
      ∀ times, LeavesSame "v"
        (afterLoads selfNamed times [.ofPath (Path.ofText "t") "utf-8", .table "v" []])
        [.ofPath (Path.ofText "t") "utf-8", .table "v" []] := by
  have htold : ∀ m ∈ [MetadataModule.ofPath (Path.ofText "t") "utf-8", .table "v" []],
      m.IsTold := by
    simp [MetadataModule.ofPath, MetadataModule.IsTold]
  refine ⟨htold, (unregister_afterLoads htold "v").2.2 ?_⟩
  intro m hm own hown
  simp only [List.mem_cons, List.not_mem_nil, or_false] at hm
  rcases hm with rfl | rfl
  · obtain rfl := Option.some.inj (ownName?_selfNamed.symm.trans hown)
    decide +kernel
  · cases hown

/-- A catalog is called by its path until it is read, and by its own name from then on. -/
theorem unregister_afterLoads_own_path :
    ¬ LeavesSame "t" (afterLoads selfNamed 1 [.ofPath (Path.ofText "t") "utf-8"])
      [.ofPath (Path.ofText "t") "utf-8"] := by
  have htold : ∀ m ∈ [MetadataModule.ofPath (Path.ofText "t") "utf-8"], m.IsTold := by
    simp [MetadataModule.ofPath, MetadataModule.IsTold]
  intro hsame
  rw [afterLoads_succ selfNamed htold 0, leavesSame_load_iff] at hsame
  have hname := hsame _ List.mem_cons_self
  rw [MetadataModule.name_load, ownName?_selfNamed] at hname
  exact absurd hname (by decide +kernel)

end Universe

end Vetting

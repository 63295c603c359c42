import Mathlib.Data.List.Forall2
import Mathlib.Data.List.Induction
import Vetting.Proofs.SymbolIndex.Cache
import Vetting.Workspace

/-!
# Vetting.Proofs.Workspace

The shared index is never stale. Whatever was done to a workspace, its index is the one of the
settings that are active and of the modules that were registered since they were last cleared, as
if it were built anew.

* `IndexCache.IsOf`: a cache belongs to a workspace; building its index keeps that.
* `Workspace.IsFresh`: the shared cache, if there is one, belongs to the workspace.
* `Workspace.tracks_after`: what a workspace holds after a history, by induction on the history.
* `Settings.CallsFor`: the catalogs that settings call for, by what they name.
* `Workspace.isCurrent_iff`: the index is the one of what a history leaves active, each time it is
  asked for, exactly when the modules beside the catalogs can be told.
-/

namespace Vetting

variable {tree : FileTree}

/-! ## Histories -/

/-- Something that is done to a workspace. -/
inductive WorkspaceStep where
  | configure (settings : Settings)
  | register (extra : MetadataModule)
  | clearExtras
  | reset
  | index
  deriving Repr

namespace WorkspaceStep

/-- The workspace after a step, whether it fails or not. -/
def run : WorkspaceStep → Workspace → Workspace
  | configure settings, ws => (Workspace.configure settings ws).state
  | register extra, ws => ws.register extra
  | clearExtras, ws => ws.clearExtras
  | reset, ws => ws.reset
  | index, ws => (Workspace.index ws).state

/-- The settings that a step makes active. Settings that cannot be looked at never are. -/
def settings? (tree : FileTree) : WorkspaceStep → Option Settings
  | configure settings => if (settings.warnings tree).isOk then some settings else none
  | reset => some {}
  | _ => none

/-- Whether a step takes away all modules beside the catalogs. -/
def clears : WorkspaceStep → Bool
  | clearExtras | reset => true
  | _ => false

/-- The module that a step registers. -/
def extra? : WorkspaceStep → Option MetadataModule
  | register extra => some extra
  | _ => none

end WorkspaceStep

namespace Workspace

open WorkspaceStep

/-- The settings that are active after a history: the last that a step made so. -/
def active (tree : FileTree) (history : List WorkspaceStep) : Settings :=
  (history.reverse.findSome? (settings? tree)).getD {}

/-- The modules that a history registered after the last step that clears, in order. -/
def registered (history : List WorkspaceStep) : List MetadataModule :=
  (history.reverse.takeWhile fun step => !step.clears).reverse.filterMap extra?

/-- The workspace after a history. -/
def after (tree : FileTree) (history : List WorkspaceStep) : Workspace :=
  history.foldl (fun ws step => step.run ws) { tree }

variable {tree : FileTree} {history : List WorkspaceStep} {step : WorkspaceStep}

theorem active_concat :
    active tree (history ++ [step]) = (step.settings? tree).getD (active tree history) := by
  simp only [active, List.reverse_append, List.reverse_singleton, List.singleton_append,
    List.findSome?_cons]
  cases step.settings? tree <;> rfl

theorem registered_concat :
    registered (history ++ [step]) =
      if step.clears then [] else registered history ++ step.extra?.toList := by
  simp only [registered, List.reverse_append, List.reverse_singleton, List.singleton_append,
    List.takeWhile_cons]
  cases hclears : step.clears with
  | true => rfl
  | false =>
    cases hextra : step.extra? <;> simp [List.filterMap_append, hextra]

theorem after_concat : after tree (history ++ [step]) = step.run (after tree history) := by
  simp only [after, List.foldl_append, List.foldl_cons, List.foldl_nil]

end Workspace

/-! ## Caches that belong to a workspace -/

theorem Settings.loadings_universeWith (settings : Settings) {a b : List MetadataModule}
    (h : Universe.loadings tree a = Universe.loadings tree b) :
    Universe.loadings tree (settings.universeWith tree a) =
      Universe.loadings tree (settings.universeWith tree b) := by
  simp only [Settings.universeWith, Universe.loadings_append, h]

theorem Universe.loadings_drop {a b c : Universe} (hsuffix : c <:+ b)
    (h : Universe.loadings tree a = Universe.loadings tree b) :
    Universe.loadings tree (a.drop (a.length - c.length)) = Universe.loadings tree c := by
  obtain ⟨front, rfl⟩ := hsuffix
  have hlength : a.length - c.length = (Universe.loadings tree front).length := by
    simp [Universe.length_eq_of_loadings h, Universe.loadings]
  rw [Universe.loadings, List.map_drop, ← Universe.loadings, h, Universe.loadings_append, hlength,
    List.drop_left]

/-- A cache belongs to a workspace: it has the dialect of the settings, its modules are the catalogs
of the settings and then those beside them, and its index, if it has one, is theirs. -/
structure IndexCache.IsOf (cache : IndexCache) (ws : Workspace) : Prop where
  dialect : cache.dialect = ws.settings.dialect
  loadings : Universe.loadings ws.tree cache.modules =
    Universe.loadings ws.tree (ws.settings.universeWith ws.tree ws.extras)
  extras : ws.extras <:+ cache.modules
  index : ∀ index, cache.index? = some index →
    (SymbolIndex.build ws.tree ws.settings.dialect
      (ws.settings.universeWith ws.tree ws.extras)).result = .ok index

namespace IndexCache

variable {ws : Workspace} {cache : IndexCache}

theorem freshCache_isOf (ws : Workspace) : ws.freshCache.IsOf ws where
  dialect := rfl
  loadings := rfl
  extras := List.suffix_append _ _
  index := nofun

/-- The index of a cache that belongs to a workspace, whether it is there or is built now. -/
theorem IsOf.get_result (h : cache.IsOf ws) :
    (cache.get ws.tree).result =
      (SymbolIndex.build ws.tree ws.settings.dialect
        (ws.settings.universeWith ws.tree ws.extras)).result := by
  cases hindex : cache.index? with
  | some index =>
    rw [get_of_built hindex]
    exact (h.index index hindex).symm
  | none =>
    rw [get_result_of_unbuilt hindex, h.dialect]
    exact SymbolIndex.build_congr _ h.loadings

end IndexCache

namespace Workspace

open WorkspaceStep

variable {tree : FileTree} {ws : Workspace} {cache : IndexCache}

/-- The shared cache, if there is one, belongs to the workspace. -/
def IsFresh (ws : Workspace) : Prop := ∀ found, ws.shared? = some found → found.cache.IsOf ws

theorem loadings_putShared (h : cache.IsOf ws) (generation : Nat) :
    Universe.loadings ws.tree (ws.putShared ⟨generation, (cache.get ws.tree).state⟩).extras =
      Universe.loadings ws.tree ws.extras :=
  Universe.loadings_drop h.extras (cache.get_state ws.tree).2.1

/-- A cache that was asked for its index belongs to the workspace into which it is put back. -/
theorem isOf_putShared (h : cache.IsOf ws) (generation : Nat) :
    (cache.get ws.tree).state.IsOf
      (ws.putShared ⟨generation, (cache.get ws.tree).state⟩) := by
  obtain ⟨hdialect, hmodules, hindex⟩ := cache.get_state ws.tree
  have huniverse := ws.settings.loadings_universeWith (loadings_putShared h generation)
  -- loading may have renamed catalogs, but modules that load alike give the same index
  refine ⟨?_, ?_, ?_, ?_⟩
  · exact hdialect.trans h.dialect
  · exact (hmodules.trans h.loadings).trans huniverse.symm
  · exact List.drop_suffix _ _
  · intro index hfound
    have hbuild := SymbolIndex.build_congr ws.settings.dialect huniverse
    exact (hbuild.trans h.get_result.symm).trans (hindex index hfound)

/-- The workspace with its shared cache, made if it is not there. -/
def sharing (ws : Workspace) : Workspace := (shared ws).state

theorem exists_shared (hfresh : ws.IsFresh) :
    ∃ found, shared ws = ⟨.ok found, ws.sharing, []⟩ ∧ found.cache.IsOf ws.sharing := by
  cases hshared : ws.shared? with
  | some found =>
    refine ⟨found, by simp [sharing, shared, hshared], ?_⟩
    simpa [sharing, shared, hshared] using hfresh found hshared
  | none =>
    have h := IndexCache.freshCache_isOf ws
    refine ⟨⟨ws.generations, ws.freshCache⟩, by simp [sharing, shared, hshared], ?_⟩
    simp only [sharing, shared, hshared]
    exact ⟨h.dialect, h.loadings, h.extras, h.index⟩

theorem index_eq {found : SharedCache} (h : shared ws = ⟨.ok found, ws.sharing, []⟩) :
    (index ws).result = (found.cache.get ws.tree).result ∧
      (index ws).state =
        ws.sharing.putShared ⟨found.generation, (found.cache.get ws.tree).state⟩ := by
  simp only [index, onCache, bind, Session.andThen, Session.get, h, Session.zoom, and_self]

theorem sharing_eq (ws : Workspace) :
    ws.sharing.tree = ws.tree ∧ ws.sharing.settings = ws.settings ∧
      ws.sharing.extras = ws.extras := by
  simp only [sharing, shared]
  cases ws.shared? <;> simp

/-! ## What a history leaves -/

/-- A workspace holds the given files, settings and modules, and its shared cache, if there is one,
belongs to it. -/
structure Tracks (tree : FileTree) (settings : Settings) (extras : List MetadataModule)
    (ws : Workspace) : Prop where
  files : ws.tree = tree
  active : ws.settings = settings
  loadings : Universe.loadings tree ws.extras = Universe.loadings tree extras
  fresh : ws.IsFresh

variable {settings : Settings} {extras : List MetadataModule}

theorem Tracks.index_result (h : Tracks tree settings extras ws) :
    (index ws).result =
      (SymbolIndex.build tree settings.dialect (settings.universeWith tree extras)).result := by
  obtain ⟨found, hshared, hcache⟩ := exists_shared h.fresh
  obtain ⟨htree, hsettings, hextras⟩ := ws.sharing_eq
  have hget := hcache.get_result
  rw [htree, hsettings, hextras, h.files, h.active] at hget
  rw [(index_eq hshared).1, h.files, hget]
  exact SymbolIndex.build_congr settings.dialect (settings.loadings_universeWith h.loadings)

theorem Tracks.run_index (h : Tracks tree settings extras ws) :
    Tracks tree settings extras (WorkspaceStep.index.run ws) := by
  obtain ⟨found, hshared, hcache⟩ := exists_shared h.fresh
  obtain ⟨htree, hsettings, hextras⟩ := ws.sharing_eq
  have hput := isOf_putShared hcache found.generation
  have hloadings := loadings_putShared hcache found.generation
  rw [htree] at hput hloadings
  rw [WorkspaceStep.run, (index_eq hshared).2]
  refine ⟨htree.trans h.files, hsettings.trans h.active, ?_, ?_⟩
  · rw [← h.loadings, ← h.files, ← hextras]
    exact hloadings
  · intro other hother
    cases hother
    exact hput

theorem configure_state (settings : Settings) (ws : Workspace) :
    (configure settings ws).state =
      match settings.warnings ws.tree with
      | .ok _ => { ws.drop with settings }
      | .error _ => ws := by
  simp only [configure, bind, Session.andThen, Session.get]
  cases settings.warnings ws.tree <;> rfl

/-- What one step leaves. Every step that changes the settings or the modules drops the cache, and
asking for the index leaves the cache where it belongs. -/
theorem Tracks.run (h : Tracks tree settings extras ws) (step : WorkspaceStep) :
    Tracks tree ((step.settings? tree).getD settings)
      (if step.clears then [] else extras ++ step.extra?.toList) (step.run ws) := by
  cases step with
  | configure chosen =>
    have hstate := configure_state chosen ws
    rw [h.files] at hstate
    cases hwarnings : chosen.warnings tree with
    | error fault =>
      -- the step ends in a fault before anything is changed
      rw [hwarnings] at hstate
      simpa [WorkspaceStep.run, hstate, settings?, hwarnings, Except.isOk, Except.toBool, clears,
        extra?] using h
    | ok warnings =>
      rw [hwarnings] at hstate
      simp only [WorkspaceStep.run, hstate, settings?, hwarnings, clears, extra?]
      exact ⟨h.files, rfl, by simpa [drop] using h.loadings, nofun⟩
  | register extra =>
    refine ⟨h.files, h.active, ?_, nofun⟩
    simp [WorkspaceStep.run, register, clears, extra?, h.loadings]
  | clearExtras => exact ⟨h.files, h.active, rfl, nofun⟩
  | reset => exact ⟨h.files, rfl, rfl, nofun⟩
  -- the one step that leaves a cache behind
  | index => simpa [settings?, clears, extra?] using h.run_index

/-- What a workspace holds after a history. -/
theorem tracks_after (tree : FileTree) (history : List WorkspaceStep) :
    Tracks tree (active tree history) (registered history) (after tree history) := by
  induction history using List.reverseRecOn with
  | nil => exact ⟨rfl, rfl, rfl, nofun⟩
  | append_singleton history step ih =>
    rw [active_concat, registered_concat, after_concat]
    exact ih.run step

/-! ## What the settings call for -/

end Workspace

/-- Where the settings find a catalog that they name `written`: a path from the root is taken as it
is, and any other leads on from the base directory, or else from where the session stands. -/
inductive Settings.Finds (tree : FileTree) (settings : Settings) (written : String) :
    Path → Prop where
  | absolute : (Path.ofText written).isAbsolute = true →
      Finds tree settings written (Path.ofText written)
  | below (base : String) : (Path.ofText written).isAbsolute = false →
      settings.baseDir = some base →
      Finds tree settings written
        ⟨(Path.ofText base).start, (Path.ofText base).parts ++ (Path.ofText written).parts⟩
  | here : (Path.ofText written).isAbsolute = false → settings.baseDir = none →
      Finds tree settings written ⟨.root, tree.home ++ (Path.ofText written).parts⟩

/-- The catalogs that the settings call for: one for each that they name, in their order, at the
path where it is found, in their encoding, and under its path for a name. -/
def Settings.CallsFor (tree : FileTree) (settings : Settings) (catalogs : Universe) : Prop :=
  List.Forall₂ (fun written m => ∃ path, settings.Finds tree written path ∧
    m = .catalog path settings.encoding path.text) settings.catalogs catalogs

theorem Settings.finds_under (tree : FileTree) (settings : Settings) (written : String) :
    settings.Finds tree written
      ((Sources.baseOf tree settings.baseDir).under (Path.ofText written)) := by
  cases habsolute : (Path.ofText written).isAbsolute with
  | true =>
    rw [Path.under, if_pos habsolute]
    exact .absolute habsolute
  | false =>
    rw [Path.under, habsolute, if_neg Bool.false_ne_true]
    cases hbase : settings.baseDir with
    | some base => exact .below base habsolute hbase
    | none => exact .here habsolute hbase

theorem Settings.callsFor_universeWith (tree : FileTree) (settings : Settings) :
    settings.CallsFor tree (settings.universeWith tree []) := by
  rw [CallsFor, universeWith, List.append_nil, catalogPaths, List.map_map,
    List.forall₂_map_right_iff, List.forall₂_same]
  exact fun written _ => ⟨_, settings.finds_under tree written, rfl⟩

namespace Workspace

open WorkspaceStep

variable {tree : FileTree} {history past : List WorkspaceStep}

/-- The promises of the shared index, kept all along a history. -/
structure IsCurrent (tree : FileTree) (history : List WorkspaceStep) : Prop where
  /-- Each time the index is asked for, it is the one that is built anew, in the dialect of the
  active settings, from the catalogs that they call for and then the modules registered since they
  were last cleared. -/
  given : ∀ past, past ++ [.index] <+: history →
    ∃ catalogs found, (active tree past).CallsFor tree catalogs ∧
      (SymbolIndex.build tree (active tree past).dialect
        (catalogs ++ registered past)).result = .ok found ∧
      (index (after tree past)).result = .ok found
  /-- The modules beside the catalogs are those registered since they were last cleared. -/
  beside : ∀ past, past <+: history →
    Universe.loadings tree (after tree past).extras = Universe.loadings tree (registered past)
  /-- The shared cache, while there is one, has the dialect of the active settings, and its modules
  are the catalogs that they call for and then the very modules beside them. -/
  shared : ∀ past found, past <+: history → (after tree past).shared? = some found →
    found.cache.dialect = (active tree past).dialect ∧
      ∃ catalogs held, (active tree past).CallsFor tree catalogs ∧
        Universe.loadings tree held = Universe.loadings tree catalogs ∧
        found.cache.modules = held ++ (after tree past).extras

theorem universeWith_eq_append (settings : Settings) (extras : List MetadataModule) :
    settings.universeWith tree extras = settings.universeWith tree [] ++ extras := by
  simp only [Settings.universeWith, List.append_nil]

theorem index_after (tree : FileTree) (past : List WorkspaceStep) :
    (index (after tree past)).result =
      (SymbolIndex.build tree (active tree past).dialect
        ((active tree past).universeWith tree [] ++ registered past)).result := by
  rw [(tracks_after tree past).index_result, universeWith_eq_append]

/-- An index is given exactly when the modules beside the catalogs can be told: a catalog always
can, whatever its file holds. -/
theorem exists_index_after_iff :
    (∃ found, (index (after tree past)).result = .ok found) ↔
      ∀ extra ∈ registered past, extra.IsTold := by
  simp only [index_after, SymbolIndex.build_eq_ok_iff, exists_and_left, exists_eq, and_true,
    List.forall_mem_append]
  refine and_iff_right fun m hm => ?_
  simp only [Settings.universeWith, List.append_nil, List.mem_map] at hm
  obtain ⟨path, -, rfl⟩ := hm
  exact MetadataModule.isTold_ofPath path _

theorem shared_after {found : SharedCache} (h : (after tree past).shared? = some found) :
    found.cache.dialect = (active tree past).dialect ∧
      ∃ held, Universe.loadings tree held =
          Universe.loadings tree ((active tree past).universeWith tree []) ∧
        found.cache.modules = held ++ (after tree past).extras := by
  have htracks := tracks_after tree past
  have hcache := htracks.fresh found h
  obtain ⟨held, hmodules⟩ := hcache.extras
  refine ⟨hcache.dialect.trans (congrArg _ htracks.active), held, ?_, hmodules.symm⟩
  have hloadings := hcache.loadings
  rw [← hmodules, htracks.files, htracks.active, universeWith_eq_append,
    Universe.loadings_append, Universe.loadings_append] at hloadings
  exact List.append_cancel_right hloadings

/-- The shared index is never stale, along any history: exactly when at each time that the index is
asked for, the modules registered since they were last cleared can be told. -/
theorem isCurrent_iff (tree : FileTree) (history : List WorkspaceStep) :
    IsCurrent tree history ↔
      ∀ past, past ++ [.index] <+: history → ∀ extra ∈ registered past, extra.IsTold := by
  constructor
  · intro h past hpast
    obtain ⟨_, found, -, -, hfound⟩ := h.given past hpast
    exact exists_index_after_iff.1 ⟨found, hfound⟩
  · intro h
    refine ⟨fun past hpast => ?_, fun past _ => (tracks_after tree past).loadings,
      fun past found _ hfound => ?_⟩
    · obtain ⟨found, hfound⟩ := exists_index_after_iff.2 (h past hpast)
      exact ⟨_, found, Settings.callsFor_universeWith tree _,
        (index_after tree past).symm.trans hfound, hfound⟩
    · obtain ⟨hdialect, held, hheld, hmodules⟩ := shared_after hfound
      exact ⟨hdialect, _, held, Settings.callsFor_universeWith tree _, hheld, hmodules⟩

/-- A module is registered that fails with a number for its message, and the index is asked for. -/
theorem not_isCurrent_speechless :
    ¬ IsCurrent ⟨[], []⟩
      [.register (.failing "m" (.speechless .validation (.int 5))), .index] := by
  intro h
  obtain ⟨_, found, -, -, hfound⟩ := h.given [.register _] (List.prefix_rfl)
  cases hfound

end Workspace

end Vetting

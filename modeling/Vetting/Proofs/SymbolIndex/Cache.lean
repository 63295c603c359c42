import Mathlib.Data.List.Infix
import Vetting.Proofs.Metadata.Isolation

/-!
# Vetting.Proofs.SymbolIndex.Cache

Runs of a cache. What a cache gives is settled by the first time it was asked since its index was
last discarded: by the modules and the files as they were then, whatever was done to them since.

* `IndexCache.get_of_ok`: what asking for the index leaves behind when it gives one.
* `IndexCache.Tracks`: what a cache holds, in terms of its history; `Tracks.run` for one step and
  `tracks_after` for a history, by induction.
* `IndexCache.isKept_iff`: a cache gives, holds and counts what it should along a history exactly
  when every index that is built on the way is built of modules that are told.
-/

namespace Vetting

namespace IndexCache

/-! ## Asking for the index -/

variable {tree : FileTree} {cache : IndexCache} {index : SymbolIndex}

theorem get_of_built (h : cache.index? = some index) : cache.get tree = ⟨.ok index, cache, []⟩ := by
  simp only [get, h]

theorem get_result_of_unbuilt (h : cache.index? = none) :
    (cache.get tree).result = (SymbolIndex.build tree cache.dialect cache.modules).result := by
  simp only [get, h]
  cases (SymbolIndex.build tree cache.dialect cache.modules).result <;> rfl

/-- What asking for the index does to a cache: the dialect stays, the modules are loaded if they
were not, and an index that is there afterwards is the one that was given. -/
theorem get_state (tree : FileTree) (cache : IndexCache) :
    (cache.get tree).state.dialect = cache.dialect ∧
      Universe.loadings tree (cache.get tree).state.modules =
        Universe.loadings tree cache.modules ∧
      ∀ index, (cache.get tree).state.index? = some index →
        (cache.get tree).result = .ok index := by
  cases hindex : cache.index? with
  | some index => simp [IndexCache.get, hindex]
  | none =>
    have hloadings := SymbolIndex.loadings_build tree cache.dialect cache.modules
    cases hbuilt : (SymbolIndex.build tree cache.dialect cache.modules).result with
    | error fault => simp [IndexCache.get, hindex, hbuilt, hloadings]
    | ok index => simp [IndexCache.get, hindex, hbuilt, hloadings]

/-- An index that was given is kept, and it was counted if it had to be built. -/
theorem get_of_ok (h : (cache.get tree).result = .ok index) :
    (cache.get tree).state.index? = some index ∧
      (cache.get tree).state.buildCount =
        cache.buildCount + if cache.isBuilt then 0 else 1 := by
  cases hindex : cache.index? with
  | some found =>
    rw [get_of_built hindex] at h ⊢
    cases h
    simp [hindex, isBuilt]
  | none =>
    have hbuilt := (get_result_of_unbuilt hindex).symm.trans h
    simp [get, hindex, hbuilt, isBuilt]

/-- A cache gives an index exactly when it has one or its modules are told. -/
theorem exists_get_iff (tree : FileTree) :
    (∃ index, (cache.get tree).result = .ok index) ↔
      (cache.isBuilt = false → ∀ m ∈ cache.modules, m.IsTold) := by
  cases hindex : cache.index? with
  | some index => simp [get_of_built hindex, isBuilt, hindex]
  | none => simp [get_result_of_unbuilt hindex, isBuilt, hindex, SymbolIndex.build_eq_ok_iff]

end IndexCache

/-! ## Histories -/

/-- Something that is done to a cache. -/
inductive CacheStep where
  /-- Ask for the index, with the files as they are then. -/
  | get (tree : FileTree)
  | discard
  /-- Change the modules in any way: register one, unregister those of a name, add a record. -/
  | change (f : Universe → Universe)

namespace CacheStep

/-- The cache after a step, whether it fails or not. -/
def run : CacheStep → IndexCache → IndexCache
  | get tree, cache => (cache.get tree).state
  | discard, cache => cache.discard
  | change f, cache => (IndexCache.onUniverse (Session.modify f) cache).state

/-- The first get of a history since the last discard, if there is one: the files as they were then,
and what was done before it. The latest step of a history stands first. -/
def firstGet? : List CacheStep → Option (FileTree × List CacheStep)
  | [] => none
  | discard :: _ => none
  | change _ :: earlier => firstGet? earlier
  | get tree :: earlier => some ((firstGet? earlier).getD (tree, earlier))

/-- Whether the index was asked for since it was last discarded. -/
def asked (history : List CacheStep) : Bool := (firstGet? history).isSome

/-- Whether the latest step is a get, and the first one since the last discard. -/
def endsInFirstGet : List CacheStep → Bool
  | get _ :: earlier => !asked earlier
  | _ => false

end CacheStep

namespace IndexCache

open CacheStep

variable (modules : Universe) (dialect : Dialect)

/-- A new cache after a history. -/
def after : List CacheStep → IndexCache
  | [] => { modules, dialect }
  | step :: earlier => step.run (after earlier)

/-- The promises of a cache, kept all along a history. -/
structure IsKept (history : List CacheStep) : Prop where
  /-- Each get gives the index of the modules and files of the first get since the last discard. -/
  given : ∀ tree past, .get tree :: past <:+ history →
    ∃ files before, (firstGet? past).getD (tree, past) = (files, before) ∧
      ∃ index, ((after modules dialect past).get tree).result = .ok index ∧
        (SymbolIndex.build files dialect (after modules dialect before).modules).result = .ok index
  /-- The index is there as long as it was asked for since the last discard. -/
  built : ∀ past, past <:+ history → (after modules dialect past).isBuilt = asked past
  /-- As many were built as there were first gets. -/
  counted : ∀ past, past <:+ history →
    (after modules dialect past).buildCount = past.tails.countP endsInFirstGet

/-- What a cache holds after a history. -/
structure Tracks (history : List CacheStep) : Prop where
  language : (after modules dialect history).dialect = dialect
  built : ∀ files before, firstGet? history = some (files, before) →
    ∃ index, (after modules dialect history).index? = some index ∧
      (SymbolIndex.build files dialect (after modules dialect before).modules).result = .ok index
  unbuilt : firstGet? history = none → (after modules dialect history).index? = none
  counted : (after modules dialect history).buildCount = history.tails.countP endsInFirstGet

variable {modules dialect} {earlier history : List CacheStep}

theorem Tracks.isBuilt (h : Tracks modules dialect earlier) :
    (after modules dialect earlier).isBuilt = asked earlier := by
  cases hfirst : firstGet? earlier with
  | none => simp [IndexCache.isBuilt, asked, hfirst, h.unbuilt hfirst]
  | some first =>
    obtain ⟨index, hindex, -⟩ := h.built _ _ hfirst
    simp [IndexCache.isBuilt, asked, hfirst, hindex]

/-- A get gives the index of the first get, whether it is this one or an earlier one. -/
theorem Tracks.build_result (h : Tracks modules dialect earlier) {tree files : FileTree}
    {before : List CacheStep} {index : SymbolIndex}
    (hget : ((after modules dialect earlier).get tree).result = .ok index)
    (hfirst : (firstGet? earlier).getD (tree, earlier) = (files, before)) :
    (SymbolIndex.build files dialect (after modules dialect before).modules).result =
      .ok index := by
  cases hasked : firstGet? earlier with
  | none =>
    rw [hasked] at hfirst
    cases hfirst
    rw [get_result_of_unbuilt (h.unbuilt hasked), h.language] at hget
    exact hget
  | some first =>
    rw [hasked] at hfirst
    cases hfirst
    obtain ⟨found, hfound, hbuilt⟩ := h.built _ _ hasked
    rw [get_of_built hfound] at hget
    exact hbuilt.trans hget

theorem exists_get_after (h : Tracks modules dialect earlier) (tree : FileTree)
    (htold : asked earlier = false → ∀ m ∈ (after modules dialect earlier).modules, m.IsTold) :
    ∃ index, ((after modules dialect earlier).get tree).result = .ok index :=
  (exists_get_iff tree).2 fun hunbuilt => htold (h.isBuilt.symm.trans hunbuilt)

/-- One step further. A get that is the first builds an index of the modules as they are. -/
theorem Tracks.run (h : Tracks modules dialect earlier) (step : CacheStep)
    (htold : endsInFirstGet (step :: earlier) = true →
      ∀ m ∈ (after modules dialect earlier).modules, m.IsTold) :
    Tracks modules dialect (step :: earlier) := by
  cases step with
  | get tree =>
    obtain ⟨index, hget⟩ := exists_get_after h tree fun hasked =>
      htold (by simp [endsInFirstGet, hasked])
    obtain ⟨hindex, hcount⟩ := get_of_ok hget
    refine ⟨(get_state tree _).1.trans h.language, ?_, nofun, ?_⟩
    · intro files before hfirst
      exact ⟨index, hindex, h.build_result hget (Option.some.inj hfirst)⟩
    · -- The count is that of the past and one more, if the cache was not built: if it was not asked.
      rw [List.tails_cons, List.countP_cons, ← h.counted]
      refine hcount.trans ?_
      cases hasked : asked earlier <;> simp [endsInFirstGet, h.isBuilt, hasked]
  | discard =>
    refine ⟨h.language, nofun, fun _ => rfl, ?_⟩
    simpa [after, CacheStep.run, IndexCache.discard, endsInFirstGet] using h.counted
  | change f =>
    refine ⟨h.language, h.built, h.unbuilt, ?_⟩
    simpa [after, CacheStep.run, onUniverse, Session.zoom, Session.modify, endsInFirstGet]
      using h.counted

/-- What a cache holds after a history in which each index is built of modules that are told. -/
theorem tracks_after
    (htold : ∀ tree past, .get tree :: past <:+ history → asked past = false →
      ∀ m ∈ (after modules dialect past).modules, m.IsTold) :
    Tracks modules dialect history := by
  induction history with
  | nil => exact ⟨rfl, nofun, fun _ => rfl, rfl⟩
  | cons step earlier ih =>
    have hearlier := ih fun tree past hpast =>
      htold tree past (hpast.trans (List.suffix_cons step earlier))
    refine hearlier.run step ?_
    cases step with
    | get tree =>
      intro hfirst
      exact htold tree earlier (List.suffix_refl _) (by simpa [endsInFirstGet] using hfirst)
    | discard => nofun
    | change f => nofun

/-- A cache keeps its promises along a history exactly when each index that is built on the way is
built of modules that are told. -/
theorem isKept_iff (modules : Universe) (dialect : Dialect) (history : List CacheStep) :
    IsKept modules dialect history ↔
      ∀ tree past, .get tree :: past <:+ history → asked past = false →
        ∀ m ∈ (after modules dialect past).modules, m.IsTold := by
  constructor
  · intro h tree past hpast hasked
    obtain ⟨files, before, -, index, hget, -⟩ := h.given tree past hpast
    refine (exists_get_iff tree).1 ⟨index, hget⟩ ?_
    rw [h.built past ((List.suffix_cons _ _).trans hpast), hasked]
  · intro htold
    -- Each past is a history of its own, and the index it builds is one that `history` builds.
    have htracks : ∀ past, past <:+ history → Tracks modules dialect past := fun past hpast =>
      tracks_after fun tree before hbefore => htold tree before (hbefore.trans hpast)
    refine ⟨?_, fun past hpast => (htracks past hpast).isBuilt,
      fun past hpast => (htracks past hpast).counted⟩
    intro tree past hpast
    have h := htracks past ((List.suffix_cons _ _).trans hpast)
    obtain ⟨index, hget⟩ := exists_get_after h tree (htold tree past hpast)
    exact ⟨_, _, rfl, index, hget, h.build_result hget rfl⟩

/-- A module is registered that fails with a number for its message, and the index is asked for. -/
theorem not_isKept_speechless :
    ¬ IsKept [] .standard
      [.get ⟨[], []⟩, .change (· ++ [.failing "m" (.speechless .validation (.int 5))])] := by
  intro h
  obtain ⟨files, before, -, index, hget, -⟩ := h.given _ _ (List.suffix_refl _)
  cases hget

end IndexCache

end Vetting

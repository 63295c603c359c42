import Vetting.Metadata
import Vetting.SymbolIndex

/-!
# Vetting.SymbolIndex.Cache

The index of a universe, built when it is first asked for and kept until it is discarded. A change
of the universe alone does not discard it.
-/

namespace Vetting

/-- The index of a universe, once it is built. -/
structure IndexCache where
  modules : Universe := []
  dialect : Dialect := {}
  index? : Option SymbolIndex := none
  /-- How often an index was built. -/
  buildCount : Nat := 0
  deriving Repr

namespace SymbolIndex

/-- What is noted of an index that was built. -/
def summary (index : SymbolIndex) : String :=
  "Symbol index built: " ++ toString index.size ++ " namespace(s), " ++
    toString index.extensionCount ++ " extension namespace(s), " ++ toString index.errors.length ++
    " load error(s)"

/-- Build the index of a universe. Types that fail to load are noted and left out. -/
def build (tree : FileTree) (dialect : Dialect) : Session Universe SymbolIndex := do
  let loaded ← Universe.loadAll tree
  Session.write (loaded.errors.map fun error =>
    ⟨.debug, .symbols, some ("Ignoring type that failed to load: " ++ error), none⟩)
  let index := ofRecords dialect loaded.records loaded.errors
  Session.note .info .symbols index.summary
  return index

end SymbolIndex

namespace IndexCache

/-- Whether the index is there. -/
def isBuilt (cache : IndexCache) : Bool := cache.index?.isSome

/-- The index, built now if it is not there. -/
def get (tree : FileTree) : Session IndexCache SymbolIndex := fun cache =>
  match cache.index? with
  | some index => ⟨.ok index, cache, []⟩
  | none =>
    let o := SymbolIndex.build tree cache.dialect cache.modules
    match o.result with
    | .error fault => ⟨.error fault, { cache with modules := o.state }, o.journal⟩
    | .ok index =>
      ⟨.ok index,
        { cache with modules := o.state, index? := some index, buildCount := cache.buildCount + 1 },
        o.journal⟩

/-- The cache without its index. -/
def discard (cache : IndexCache) : IndexCache := { cache with index? := none }

/-- A step on the universe of a cache. -/
def onUniverse (step : Session Universe α) : Session IndexCache α :=
  Session.zoom (·.modules) (fun modules cache => { cache with modules := modules }) step

end IndexCache

end Vetting

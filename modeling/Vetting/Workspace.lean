import Vetting.Analysis
import Vetting.Settings
import Vetting.SymbolIndex.Cache

/-!
# Vetting.Workspace

What all validators of a session share: the files, the active settings, metadata modules beside the
catalogs, and the index of them all. The index belongs to the settings and the modules: a change of
either drops it, and it is built again when it is next asked for.
-/

namespace Vetting

/-- The index that is shared, and which one it is. -/
structure SharedCache where
  generation : Nat
  cache : IndexCache
  deriving Repr

/-- What all validators of a session share. -/
structure Workspace where
  tree : FileTree
  settings : Settings := {}
  /-- Metadata modules beside the catalogs. -/
  extras : List MetadataModule := []
  shared? : Option SharedCache := none
  /-- How many shared indexes there were. -/
  generations : Nat := 0
  deriving Repr

namespace Workspace

/-- The workspace without its shared index. -/
def drop (ws : Workspace) : Workspace := { ws with shared? := none }

/-- The cache that the settings and the modules beside the catalogs call for. -/
def freshCache (ws : Workspace) : IndexCache where
  modules := ws.settings.universeWith ws.tree ws.extras
  dialect := ws.settings.dialect

/-- Make `settings` the active ones, with a warning for all that looks wrong in them. -/
def configure (settings : Settings) : Session Workspace Unit := do
  let ws ← Session.get
  let warnings ← Session.ofExcept (settings.warnings ws.tree)
  Session.write (warnings.map fun warning =>
    ⟨.warning, .settings, some ("ValidationConfig: " ++ warning), none⟩)
  Session.modify fun ws => { ws.drop with settings }

/-- Add a metadata module beside the catalogs. -/
def register (extra : MetadataModule) (ws : Workspace) : Workspace :=
  { ws.drop with extras := ws.extras ++ [extra] }

/-- Take away the metadata modules beside the catalogs. -/
def clearExtras (ws : Workspace) : Workspace := { ws.drop with extras := [] }

/-- Go back to the settings one starts with. -/
def reset (ws : Workspace) : Workspace := { ws.clearExtras with settings := {} }

/-- The shared cache, made now if it is not there. -/
def shared : Session Workspace SharedCache := fun ws =>
  match ws.shared? with
  | some found => ⟨.ok found, ws, []⟩
  | none =>
    let made := ⟨ws.generations, ws.freshCache⟩
    ⟨.ok made, { ws with shared? := some made, generations := ws.generations + 1 }, []⟩

/-- The workspace with a changed cache. The modules beside the catalogs are the last of its
modules, and what loading did to them stays. -/
def putShared (found : SharedCache) (ws : Workspace) : Workspace :=
  { ws with
    shared? := some found
    extras := found.cache.modules.drop (found.cache.modules.length - ws.extras.length) }

/-- A step on the shared cache. -/
def onCache (step : Session IndexCache α) : Session Workspace α := do
  let found ← shared
  Session.zoom (fun _ => found.cache) (fun cache ws => putShared { found with cache } ws) step

/-- The shared index. -/
def index : Session Workspace SymbolIndex := do
  let ws ← Session.get
  onCache (IndexCache.get ws.tree)

/-- Drop the index and keep its cache. -/
def discardIndex : Session Workspace Unit := onCache (Session.modify IndexCache.discard)

/-- The search for unused imports in the sources that the settings name. -/
def checkUnusedImports : Session Workspace Verdict := do
  let ws ← Session.get
  let _ ← shared
  let report ← Analysis.search index ws.settings.dialect (ws.settings.sources ws.tree)
  return report.verdict

end Workspace

end Vetting

import Vetting.Session
import Vetting.Sources
import Vetting.UnusedImport
import Vetting.Verdict

/-!
# Vetting.Analysis

The search for unused imports in a batch of sources. A source that cannot be read is noted and
skipped, and does not touch the others, as long as the note can be put into words. The index is
asked for only when a source has imports.
-/

namespace Vetting

/-- An import that looks unused. -/
structure UnusedInstance where
  path : String
  home : String
  deriving DecidableEq, Repr

namespace UnusedInstance

/-- What is said of an unused import. -/
def text (found : UnusedInstance) : String :=
  "Unused import '" ++ found.home ++ "' in " ++ found.path

end UnusedInstance

/-- What the search in a batch gives. -/
structure AnalysisReport where
  instances : List UnusedInstance := []
  /-- How many sources were searched. -/
  scanned : Nat := 0
  /-- The paths of the sources that could not be read. -/
  skipped : List String := []
  deriving DecidableEq, Repr

namespace AnalysisReport

/-- One report and then another. -/
def append (a b : AnalysisReport) : AnalysisReport :=
  ⟨a.instances ++ b.instances, a.scanned + b.scanned, a.skipped ++ b.skipped⟩

instance : Append AnalysisReport := ⟨append⟩

/-- The instances in one file. -/
def byFile (report : AnalysisReport) (path : String) : List UnusedInstance :=
  report.instances.filter (·.path == path)

/-- How cautious the search is. -/
def caution : String :=
  "This validator uses a conservative identifier scan, so it may miss " ++
    "some unused imports while avoiding false positives."

/-- The verdict on a batch. -/
def verdict (report : AnalysisReport) : Verdict :=
  match report.instances.length with
  | 0 => .pass
  | n => .fail ("Found " ++ toString n ++ " unused import directive(s). " ++ caution)

end AnalysisReport

namespace Analysis

variable {σ : Type}

/-- The unused imports of a text; the index comes from `provider`. -/
def unusedIn (provider : Session σ SymbolIndex) (dialect : Dialect) (text : List Char) :
    Session σ (List String) := do
  let found ← Session.ofExcept (Header.scan dialect text)
  Session.write (Header.journal found)
  match Header.namesOf found with
  | [] => return []
  | home :: homes =>
    let index ← provider
    return UnusedImport.select index ((Identifier.all dialect text).map String.ofList)
      (home :: homes)

/-- The search in a source whose text is there. -/
def searchText (provider : Session σ SymbolIndex) (dialect : Dialect) (path : String)
    (text : List Char) : Session σ AnalysisReport := do
  let homes ← unusedIn provider dialect text
  let instances := homes.map fun home => UnusedInstance.mk path home
  Session.write (instances.map fun found => ⟨.warning, .analysis, some found.text, none⟩)
  return ⟨instances, 1, []⟩

/-- The search in one source. -/
def searchSource (provider : Session σ SymbolIndex) (dialect : Dialect) (source : Source) :
    Session σ AnalysisReport :=
  match source.text with
  | .ok text => searchText provider dialect source.path text
  | .error fault =>
    if fault.isReadFailure then do
      let unreadable ←
        Session.handling fault (Fault.unreadableSource source.path (some fault))
      Session.note .warning .analysis unreadable.message
      return ⟨[], 0, [source.path]⟩
    else Session.fail fault

/-- The search at one sighting. -/
def searchSighting (provider : Session σ SymbolIndex) (dialect : Dialect) :
    Sighting → Session σ AnalysisReport
  | .missingRoot path => do
    Session.note .info .sources (Sighting.missingMessage path)
    return {}
  | .source source => searchSource provider dialect source
  | .broken fault => Session.fail fault

/-- The search in a batch. -/
def search (provider : Session σ SymbolIndex) (dialect : Dialect) :
    List Sighting → Session σ AnalysisReport
  | [] => pure {}
  | sighting :: rest => do
    let first ← searchSighting provider dialect sighting
    let more ← search provider dialect rest
    return first ++ more

end Analysis

end Vetting

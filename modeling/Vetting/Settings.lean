import Vetting.Dialect
import Vetting.FileTree
import Vetting.Metadata
import Vetting.Sources

/-!
# Vetting.Settings

What the validators of this library are told: where the sources are, which files count, and which
catalogs describe their types. `Settings.warnings` names what looks wrong.
-/

namespace Vetting

/-- What the validators of this library are told. -/
structure Settings where
  roots : List String := ["Assets/Scripts", "Assets/Tests"]
  suffixes : List String := [".cs"]
  catalogs : List String := []
  /-- The directory that relative paths start from; where the session stands, if none is given. -/
  baseDir : Option String := none
  encoding : String := "utf-8"
  dialect : Dialect := {}
  deriving DecidableEq, Repr, Inhabited

/-- Settings to be changed; what is absent stays. -/
structure Overrides where
  roots : Option (List String) := none
  suffixes : Option (List String) := none
  catalogs : Option (List String) := none
  baseDir : Option String := none
  encoding : Option String := none
  dialect : Option Dialect := none
  deriving Repr

namespace Settings

/-- The settings with some of them changed. -/
def override (settings : Settings) (changes : Overrides) : Settings where
  roots := changes.roots.getD settings.roots
  suffixes := changes.suffixes.getD settings.suffixes
  catalogs := changes.catalogs.getD settings.catalogs
  baseDir := changes.baseDir.or settings.baseDir
  encoding := changes.encoding.getD settings.encoding
  dialect := changes.dialect.getD settings.dialect

/-- The names under which settings are given. -/
def fieldNames : List String :=
  ["roots", "suffixes", "metadata_catalogs", "base_dir", "encoding", "dialect"]

/-- The fault of a setting that there is not. -/
def unknownField (name : String) : Fault :=
  .withText "TypeError"
    ("ValidationConfig.__init__() got an unexpected keyword argument " ++ Text.quoted name)

/-- The fault of the first name under which no setting is given. -/
def unknown? (names : List String) : Option Fault :=
  (names.find? fun name => !fieldNames.contains name).map unknownField

/-- The paths of the catalogs. -/
def catalogPaths (tree : FileTree) (settings : Settings) : List Path :=
  settings.catalogs.map fun catalog =>
    (Sources.baseOf tree settings.baseDir).under (Path.ofText catalog)

/-- What looks wrong, where every catalog's path can be followed. -/
def concerns (tree : FileTree) (settings : Settings) : List String :=
  let noRoots := if settings.roots.isEmpty then ["no source roots configured"] else []
  let suffixes := settings.suffixes.filter fun suffix => !Text.startsWith ['.'] suffix.toList
  let missing := (settings.catalogPaths tree).filter fun path => !tree.isFile path
  let noCatalogs :=
    if settings.catalogs.isEmpty then
      ["no metadata catalogs configured; every import will be skipped"]
    else []
  noRoots ++
    suffixes.map (fun suffix => "suffix " ++ Text.quoted suffix ++ " does not start with '.'") ++
    missing.map (fun path => "metadata catalog not found: " ++ path.text) ++ noCatalogs

/-- What looks wrong. A catalog's path that cannot be followed is a fault. -/
def warnings (tree : FileTree) (settings : Settings) : Except Fault (List String) :=
  match (settings.catalogPaths tree).findSome? tree.overlong? with
  | some fault => .error fault
  | none => .ok (settings.concerns tree)

/-- The modules that the settings give: their catalogs, and then those in `extras`. -/
def universeWith (tree : FileTree) (settings : Settings) (extras : List MetadataModule) :
    Universe :=
  (settings.catalogPaths tree).map (fun path => MetadataModule.ofPath path settings.encoding) ++
    extras

/-- The source files that the settings name. -/
def sources (tree : FileTree) (settings : Settings) : List Sighting :=
  Sources.enumerate tree settings.roots settings.suffixes settings.baseDir settings.encoding

end Settings

end Vetting

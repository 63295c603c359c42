import Vetting.FileTree
import Vetting.Text.Lowercase

/-!
# Vetting.Sources

The source files below some roots. Roots are visited in turn, the files of one root in order of
their paths, part by part. A file is taken when its name ends in one of the suffixes, whatever the
case, and no path taken before leads to the same file.
-/

namespace Vetting

/-- A source: a path, and the text that reading it gives. -/
structure Source where
  path : String
  text : Except Fault (List Char)

/-- What visiting roots comes upon, in order. -/
inductive Sighting where
  /-- A root that is not there. -/
  | missingRoot (path : String)
  | source (source : Source)
  /-- A path that cannot be followed. The visit ends with it. -/
  | broken (fault : Fault)

namespace Source

/-- A source whose bytes are there, in the encoding of a name. No bytes are the empty text, whether
the encoding is known or not. -/
def ofBytes (path : String) (bytes : List UInt8) (encoding : String) : Source :=
  match bytes, Encoding.named? encoding with
  | [], _ => ⟨path, .ok []⟩
  | _, none => ⟨path, .error (FileTree.unknownEncoding encoding)⟩
  | bytes, some encoding =>
    match encoding.decode bytes with
    | .ok text => ⟨path, .ok text⟩
    | .error trouble => ⟨path, .error (.undecodable trouble)⟩

end Source

namespace Sighting

/-- What is noted of a root that is not there. -/
def missingMessage (path : String) : String := "Source root not found, skipping: " ++ path

end Sighting

namespace Sources

/-- Whether a file's name ends in one of the suffixes, whatever the case. -/
def hasSuffix (suffixes : List String) (name : String) : Bool :=
  let name := (Text.lower name).toList
  suffixes.any fun suffix => Text.endsWith (Text.lower suffix).toList name

/-- The paths that a root offers: the root itself if it is a file, else all below it. -/
def candidates (tree : FileTree) (root : Path) : List Path :=
  if tree.isFile root then [root] else (tree.listBelow root).map root.below

/-- The files among `paths` that were not seen before, and the locations seen after them. -/
def unseen (tree : FileTree) (suffixes : List String) (seen : List Location) :
    List Path → List Location × List Path
  | [] => (seen, [])
  | path :: rest =>
    match tree.locate path with
    | .error _ => unseen tree suffixes seen rest
    | .ok location =>
      if tree.isFile path && hasSuffix suffixes path.name && !seen.contains location then
        let (seen, more) := unseen tree suffixes (location :: seen) rest
        (seen, path :: more)
      else unseen tree suffixes seen rest

/-- A file as a source. -/
def ofPath (tree : FileTree) (encoding : String) (path : Path) : Source :=
  ⟨path.text, tree.readText path encoding⟩

/-- What visiting `roots` comes upon after the locations `seen`. -/
def visit (tree : FileTree) (suffixes : List String) (encoding : String) (seen : List Location) :
    List Path → List Sighting
  | [] => []
  | root :: rest =>
    match tree.overlong? root with
    | some fault => [.broken fault]
    | none =>
      if tree.contains root then
        let paths := candidates tree root
        let (seen, files) := unseen tree suffixes seen
          (paths.takeWhile fun path => (tree.overlong? path).isNone)
        (files.map fun path => .source (ofPath tree encoding path)) ++
          match paths.findSome? tree.overlong? with
          | some fault => [.broken fault]
          | none => visit tree suffixes encoding seen rest
      else .missingRoot root.text :: visit tree suffixes encoding seen rest

/-- The directory that relative paths start from: where the session stands, if none is given. -/
def baseOf (tree : FileTree) (base : Option String) : Path :=
  match base with
  | some base => Path.ofText base
  | none => Path.ofLocation tree.home

/-- What visiting `roots`, relative ones below `base`, comes upon. -/
def enumerate (tree : FileTree) (roots suffixes : List String) (base : Option String)
    (encoding : String) : List Sighting :=
  visit tree suffixes encoding [] (roots.map fun root =>
    (baseOf tree base).under (Path.ofText root))

end Sources

end Vetting

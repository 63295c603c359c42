import Vetting.Fault
import Vetting.FileTree.Path

/-!
# Vetting.FileTree

The files that a session sees: directories, files with their bytes, and symbolic links, each at its
location, which is the list of names from the root. One directory is where the session stands.
`FileTree.locate` follows a path through links to the location that it leads to.
-/

namespace Vetting

/-- What stands at a location. -/
inductive FileEntry where
  | file (bytes : List UInt8)
  | directory
  | link (target : String)
  deriving Repr

/-- The names from the root to an entry. -/
abbrev Location := List String

/-- The files that a session sees. -/
structure FileTree where
  /-- Where the session stands. -/
  home : Location
  entries : List (Location × FileEntry)
  deriving Repr

/-- Why a path leads nowhere. -/
inductive PathTrouble where
  | missing
  | notADirectory
  | tooManyLinks
  /-- A name on the way, or the path itself, has too many bytes. -/
  | tooLong
  deriving DecidableEq, Repr

namespace PathTrouble

/-- The fault of opening a path that leads nowhere. -/
def fault (path : Path) : PathTrouble → Fault
  | missing =>
    .raised "FileNotFoundError" [.int 2, .text "No such file or directory", .text path.text]
  | notADirectory =>
    .raised "NotADirectoryError" [.int 20, .text "Not a directory", .text path.text]
  | tooManyLinks =>
    .raised "OSError" [.int 40, .text "Too many levels of symbolic links", .text path.text]
  | tooLong => .raised "OSError" [.int 36, .text "File name too long", .text path.text]

end PathTrouble

namespace FileTree

/-- What stands at a location. The root is a directory. -/
def at? (tree : FileTree) : Location → Option FileEntry
  | [] => some .directory
  | location => tree.entries.lookup location

/-- The tree with an entry at a location, in place of any that was there. -/
def put (tree : FileTree) (location : Location) (entry : FileEntry) : FileTree :=
  { tree with entries := tree.entries.filter (·.1 != location) ++ [(location, entry)] }

/-- The tree with directories on the way from `place` along `parts`, where nothing stands yet. -/
def addDirectoriesFrom (tree : FileTree) (place : Location) : List String → FileTree
  | [] => tree
  | part :: rest =>
    let next := place ++ [part]
    let tree := if (tree.at? next).isSome then tree else tree.put next .directory
    addDirectoriesFrom tree next rest

/-- The tree with a directory at a location and at all locations above it that are free. -/
def addDirectories (tree : FileTree) (location : Location) : FileTree :=
  tree.addDirectoriesFrom [] location

/-- The tree in which nothing stands but the directories that lead to `home`. -/
def empty (home : Location) : FileTree := addDirectories ⟨home, []⟩ home

/-- How many links are followed on the way to one entry. -/
def maxLinks : Nat := 40

/-- The parts of a link's target. A part that stays where it is stands last where the target can
lead to a directory only. -/
def targetParts (target : String) : List String :=
  Path.partsOf target.toList ++ if Path.endsInDirectory target then ["."] else []

/-- The location that `parts` lead to from a directory at `place`, when at most `links` links are
followed. -/
def follow (tree : FileTree) (links : Nat) (place : Location) :
    List String → Except PathTrouble Location
  | [] => .ok place
  | part :: rest =>
    match tree.at? place with
    | some .directory =>
      if part = "." then follow tree links place rest
      else if part = ".." then follow tree links place.dropLast rest
      else if Path.maxNameSize < part.utf8ByteSize then .error .tooLong
      else
        match tree.at? (place ++ [part]) with
        | none => .error .missing
        | some (.link target) =>
          match links with
          | 0 => .error .tooManyLinks
          | links + 1 =>
            let start := if (Path.ofText target).isAbsolute then [] else place
            follow tree links start (targetParts target ++ rest)
        | some _ => follow tree links (place ++ [part]) rest
    | _ => .error .notADirectory
termination_by parts => (links, parts.length)

/-- The location that a path leads to. No entry has a NUL in its name. -/
def locate (tree : FileTree) (path : Path) : Except PathTrouble Location :=
  if path.parts.any fun part => part.toList.contains (Char.ofNat 0) then .error .missing
  else if Path.maxSize < path.text.utf8ByteSize then .error .tooLong
  else tree.follow maxLinks (if path.isAbsolute then [] else tree.home) path.parts

/-- The fault of asking what stands at a path that is too long to be followed. Of any other path
that leads nowhere one learns that nothing is there. -/
def overlong? (tree : FileTree) (path : Path) : Option Fault :=
  match tree.locate path with
  | .error .tooLong => some (PathTrouble.tooLong.fault path)
  | _ => none

/-- What a path leads to. -/
def find? (tree : FileTree) (path : Path) : Option FileEntry :=
  match tree.locate path with
  | .ok location => tree.at? location
  | .error _ => none

/-- Whether a path leads to anything. -/
def contains (tree : FileTree) (path : Path) : Bool := (tree.find? path).isSome

/-- Whether a path leads to a file. -/
def isFile (tree : FileTree) (path : Path) : Bool :=
  match tree.find? path with
  | some (.file _) => true
  | _ => false

/-- The bytes of the file that a path leads to. -/
def readBytes (tree : FileTree) (path : Path) : Except Fault (List UInt8) :=
  match tree.locate path with
  | .error trouble => .error (trouble.fault path)
  | .ok location =>
    match tree.at? location with
    | some (.file bytes) => .ok bytes
    | some .directory =>
      .error (.raised "IsADirectoryError" [.int 21, .text "Is a directory", .text path.text])
    | _ => .error (PathTrouble.missing.fault path)

/-- The fault of an encoding that is not known. -/
def unknownEncoding (name : String) : Fault :=
  .withText "LookupError" ("unknown encoding: " ++ name)

/-- The text of the file that a path leads to, in the encoding of a name. A file that is not there
counts before an encoding that is not known. -/
def readText (tree : FileTree) (path : Path) (encoding : String) : Except Fault (List Char) :=
  match tree.readBytes path with
  | .error fault => .error fault
  | .ok bytes =>
    match Encoding.named? encoding with
    | none => .error (unknownEncoding encoding)
    | some encoding =>
      match encoding.decodeFile bytes with
      | .ok text => .ok text
      | .error trouble => .error (.undecodable trouble)

/-- What stands in and below the directory that a path leads to: the names that lead from the path
to each entry, in order. Links are listed and not entered. -/
def listBelow (tree : FileTree) (path : Path) : List (List String) :=
  match tree.locate path with
  | .error _ => []
  | .ok location =>
    let found := tree.entries.filterMap fun (place, _) =>
      if location.isPrefixOf place && place != location then some (place.drop location.length)
      else none
    found.mergeSort Path.precedes

/-- The location that stands for a path from `base`, when links on the way are followed and one at
its end is not. The path need not lead to anything yet. -/
def placeFrom (tree : FileTree) (base : Location) (path : Path) : Location :=
  let start := if path.isAbsolute then [] else base
  let above :=
    match tree.follow maxLinks start path.parts.dropLast with
    | .ok location => location
    | .error _ => start ++ path.parts.dropLast
  above ++ path.parts.getLast?.toList

/-- The location to which writing to a path from `base` goes, when at most `links` links that lead
to nothing are followed. -/
def destinationFrom (tree : FileTree) : (links : Nat) → Location → Path → Location
  | 0, base, path => tree.placeFrom base path
  | links + 1, base, path =>
    let start := if path.isAbsolute then [] else base
    let place := tree.placeFrom base path
    match tree.follow maxLinks start path.parts, tree.at? place with
    | .ok location, _ => location
    | .error _, some (.link target) =>
      destinationFrom tree links place.dropLast (Path.ofText target)
    | .error _, _ => place

/-- The tree after an entry was written at a path; missing directories above it are made. A file is
written where a link leads to, but a link takes the place of what was there. -/
def write (tree : FileTree) (path : Path) (entry : FileEntry) : FileTree :=
  let location :=
    match entry with
    | .link _ => tree.placeFrom tree.home path
    | _ => tree.destinationFrom maxLinks tree.home path
  match entry with
  | .directory => tree.addDirectories location
  | entry => (tree.addDirectories location.dropLast).put location entry

/-- The tree without what stands at a path, and without all that is below it. -/
def erase (tree : FileTree) (path : Path) : FileTree :=
  let location := tree.placeFrom tree.home path
  { tree with entries := tree.entries.filter fun (place, _) => !location.isPrefixOf place }

end FileTree

end Vetting

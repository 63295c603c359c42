import Vetting.Text.Scan

/-!
# Vetting.FileTree.Path

Paths as they are written: from the root, or from wherever one stands. Empty parts and single dots
say nothing and are left out; double dots stay, because what they lead to depends on links.
-/

namespace Vetting

/-- Where a path starts. -/
inductive PathStart where
  /-- Where one stands. -/
  | here
  /-- The root. -/
  | root
  /-- The root, written with exactly two slashes. -/
  | doubleRoot
  deriving DecidableEq, Repr

/-- A path as it is written. -/
structure Path where
  start : PathStart
  parts : List String
  deriving DecidableEq, Repr

namespace Path

/-- Where a written path starts. -/
def startOf : List Char → PathStart
  | '/' :: '/' :: '/' :: _ => .root
  | '/' :: '/' :: _ => .doubleRoot
  | '/' :: _ => .root
  | _ => .here

/-- The parts of a written path. -/
def partsOf (text : List Char) : List String :=
  ((Text.pieces '/' text).map String.ofList).filter fun part => part != "" && part != "."

/-- The path that a text stands for. -/
def ofText (text : String) : Path := ⟨startOf text.toList, partsOf text.toList⟩

/-- Whether a written path can lead to a directory only: it ends in a slash or in a dot. -/
def endsInDirectory (text : String) : Bool :=
  match Text.lastPiece '/' text.toList with
  | [] | ['.'] => true
  | _ => false

/-- The path from the root to a location. -/
def ofLocation (location : List String) : Path := ⟨.root, location⟩

/-- Whether the path leads from the root. -/
def isAbsolute (path : Path) : Bool := path.start != .here

/-- The path that `path` is when one stands at `base`. -/
def under (base path : Path) : Path :=
  if path.isAbsolute then path else ⟨base.start, base.parts ++ path.parts⟩

/-- The path to something below. -/
def below (path : Path) (parts : List String) : Path := ⟨path.start, path.parts ++ parts⟩

/-- The last part, empty where there is none. -/
def name (path : Path) : String := path.parts.getLast?.getD ""

/-- Whether the parts of one path stand before those of another, or are the same: the first part in
which they differ counts. -/
def precedes : List String → List String → Bool
  | [], _ => true
  | _ :: _, [] => false
  | a :: as, b :: bs => if a = b then precedes as bs else Text.precedes a.toList b.toList

/-- The path as it is written. -/
def text (path : Path) : String :=
  let joined := "/".intercalate path.parts
  match path.start with
  | .here => if path.parts.isEmpty then "." else joined
  | .root => "/" ++ joined
  | .doubleRoot => "//" ++ joined

/-- The greatest number of bytes in the name of an entry. -/
def maxNameSize : Nat := 255

/-- The greatest number of bytes in a path. -/
def maxSize : Nat := 4095

end Path

end Vetting

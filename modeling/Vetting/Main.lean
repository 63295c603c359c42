import Std.Time.Zoned
import Vetting.CommandLine

/-!
# Vetting.Main

The program. It looks at the files that the arguments name, hands them to the command line together
with the words it was called with, and shows what that gives. Nothing is decided here.
-/

namespace Vetting

namespace Disk

/-- The text of a location. -/
def textOf (place : Location) : String := (Path.ofLocation place).text

/-- The location of a text that leads from the root. -/
def placeOf (text : String) : Location := (Path.ofText text).parts

/-- What stands at a location on disk, links not followed. -/
def kindAt? (place : Location) : IO (Option IO.FS.FileType) := do
  let entry : IO.FS.DirEntry := ⟨"/", textOf place⟩
  try
    let found ← entry.path.symlinkMetadata
    return some found.type
  catch _ => return none

/-- The location that a link leads to. -/
def targetOf (place : Location) : IO (Option Location) := do
  try
    let found ← IO.FS.realPath (textOf place)
    return some (placeOf found.toString)
  catch _ => return none

/-- The tree with the file at a location, its bytes only where they are wanted. -/
def addFile (tree : FileTree) (wanted : String → Bool) (place : Location) : IO FileTree := do
  let tree := tree.addDirectories place.dropLast
  if wanted (place.getLast?.getD "") then
    try
      let bytes ← IO.FS.readBinFile (textOf place)
      return tree.put place (.file bytes.toList)
    catch _ => return tree
  else return tree.put place (.file [])

/-- The tree with the link at a location, and with what it leads to. -/
def addLink (tree : FileTree) (wanted : String → Bool) (place : Location) : IO FileTree := do
  match ← targetOf place with
  | none => return tree.put place (.link (textOf (place ++ ["missing"])))
  | some target =>
    let tree := tree.put place (.link (textOf target))
    match ← kindAt? target with
    | some .dir => return tree.addDirectories target
    | some .file => addFile tree wanted target
    | _ => return tree

/-- The tree with all that is in and below a directory on disk. -/
partial def addBelow (tree : FileTree) (wanted : String → Bool) (place : Location) :
    IO FileTree := do
  let top : IO.FS.DirEntry := ⟨"/", textOf place⟩
  let mut tree := tree.addDirectories place
  for found in ← top.path.readDir do
    let inner := place ++ [found.fileName]
    match ← kindAt? inner with
    | some .dir => tree ← addBelow tree wanted inner
    | some .symlink => tree ← addLink tree wanted inner
    | some .file => tree ← addFile tree wanted inner
    | _ => pure ()
  return tree

/-- The tree with what a path leads over, part by part, and with all that is below its end. -/
def addPath (tree : FileTree) (wanted : String → Bool) (path : Path) : IO FileTree := do
  let mut tree := tree
  let mut place : Location := if path.isAbsolute then [] else tree.home
  for part in path.parts do
    if part == ".." then place := place.dropLast
    else
      let next := place ++ [part]
      match ← kindAt? next with
      | some .dir =>
        tree := tree.addDirectories next
        place := next
      | some .symlink =>
        tree ← addLink tree wanted next
        match ← targetOf next with
        | some target => place := target
        | none => return tree
      | some .file =>
        tree ← addFile tree wanted next
        place := next
      | _ => return tree
  match ← kindAt? place with
  | some .dir => addBelow tree wanted place
  | _ => return tree

/-- The files that the settings name. -/
def look (home : Location) (settings : Settings) : IO FileTree := do
  let mut tree := FileTree.empty home
  let base := Sources.baseOf tree settings.baseDir
  for root in settings.roots do
    tree ← addPath tree (Sources.hasSuffix settings.suffixes) (base.under (Path.ofText root))
  for path in settings.catalogPaths tree do
    tree ← addPath tree (fun _ => true) path
  return tree

end Disk

namespace Clock

/-- A number of at least two digits. -/
def pair (n : Int) : String :=
  let digits := toString n
  if digits.length < 2 then "0" ++ digits else digits

/-- The time of day. -/
def now : IO String := do
  let time ← Std.Time.PlainTime.now
  return pair time.hour.val ++ ":" ++ pair time.minute.val ++ ":" ++ pair time.second.val

end Clock

/-- How the program is called. -/
def usage : String := "usage: validation-shims [-h] [--version] \x7blist,run,run-all\x7d ...\n"

/-- Carry out the words of the command line on the files on disk. -/
def carryOut (words : List String) : IO UInt32 := do
  let here ← IO.currentDir
  let home := Disk.placeOf here.toString
  let settings : Settings := {}
  let tree ←
    match Arguments.read words with
    | .run a => Disk.look home (settings.override (Console.overridesOf a))
    | _ => pure (FileTree.empty home)
  let outcome := (Console.runWords words).run { host := { workspace := { tree } } }
  let clock ← Clock.now
  let shown := Console.lines clock (Console.shownLevelOf words) outcome.journal
  (← IO.getStderr).putStr shown
  match Arguments.read words with
  | .mistake => (← IO.getStderr).putStr usage
  | .help => (← IO.getStdout).putStr usage
  | _ => (← IO.getStdout).putStr outcome.state.output
  match outcome.result with
  | .ok code => return UInt32.ofNat (code % 256).toNat
  | .error fault =>
    match fault.exitCode? with
    | some code => return UInt32.ofNat (code % 256).toNat
    | none =>
      (← IO.getStderr).putStr fault.tracedPart.1
      return 1

end Vetting

/-- The program. -/
def main (words : List String) : IO UInt32 := Vetting.carryOut words

import Vetting.CommandLine.Arguments
import Vetting.Validator.Host

/-!
# Vetting.CommandLine

The command line of a host of validators: list them, run one, or run all. Modules are imported
first, and none of the rest happens when one of them cannot be. A run ends with a code: 0 when every
validator that ran passed, 1 when one did not, and 2 when the run itself went wrong.
-/

namespace Vetting

/-- A console: a host, the modules that can be imported, and what was written. -/
structure Console where
  host : Host
  importable : List ModuleSource := []
  output : String := ""
  /-- Whether writing fails. -/
  isBroken : Bool := false

namespace Console

/-- A step on the host. -/
def onHost (step : Session Host α) : Session Console α :=
  Session.zoom (·.host) (fun host console => { console with host }) step

/-- Write a text. -/
def say (text : String) : Session Console Unit := do
  let console ← Session.get
  if console.isBroken then Session.fail (.withText "OSError" "disk full")
  else Session.set { console with output := console.output ++ text }

/-- The parts of this library, which are always there. -/
def ownParts : List String :=
  [Channel.directives, .metadata, .symbols, .sources, .analysis, .settings, .registry, .runner,
    .commands].map Channel.name

/-- Import the module of a name whose parents are imported: it is there, or it is run, or it only
holds other modules. -/
def importOne (name : String) : Session Console Unit := do
  let console ← Session.get
  if (console.host.program.loaded.lookup name).isSome || ownParts.contains name then return
  match console.importable.find? (·.name == name) with
  | some source => onHost (Host.onWorld (Definition.importModule source))
  | none =>
    if console.importable.any fun source => Text.startsWith (name ++ ".").toList source.name.toList
    then return
    else
      Session.fail (.withText "ModuleNotFoundError" ("No module named " ++ Text.quoted name))

/-- The names of a module and of its parents, the outermost first, when `front` stands before. -/
def withParents (front : String) : List String → List String
  | [] => []
  | part :: rest => (front ++ part) :: withParents (front ++ part ++ ".") rest

/-- Import a module after its parents. -/
def importModule (name : String) : Session Console Unit :=
  match name.toList with
  | [] => Session.fail (.withText "ValueError" "Empty module name")
  | '.' :: _ =>
    Session.fail (.withText "TypeError"
      ("the 'package' argument is required to perform a relative import for " ++
        Text.quoted name))
  | text =>
    (withParents "" ((Text.pieces '.' text).map String.ofList)).forM importOne

/-- What is noted of a module that cannot be imported. -/
def importFailed : String := "Could not import validator module %s: %s"

/-- Import modules in turn: whether all could be. -/
def importAll : List String → Session Console Bool
  | [] => pure true
  | name :: rest => do
    let isThere ←
      match ← Session.attempt (importModule name) with
      | .ok () => pure true
      | .error fault =>
        if fault.isError then do
          Session.noteFault .error .commands importFailed [(name, Text.quoted name)] fault
          pure false
        else Session.fail fault
    let areThere ← importAll rest
    return isThere && areThere

/-- What the arguments say of the settings. -/
def overridesOf (a : Arguments) : Overrides where
  roots := if a.roots.isEmpty then none else some a.roots
  suffixes := if a.suffixes.isEmpty then none else some a.suffixes
  catalogs := if a.catalogs.isEmpty then none else some a.catalogs
  baseDir := a.baseDir

/-- How wide the column of names is. -/
def nameWidth : Nat := 60

/-- A name, filled up with spaces. -/
def column (name : String) : String :=
  name ++ String.ofList (List.replicate (nameWidth - name.length) ' ')

/-- The line of a validator in a list. -/
def listLine (d : Descriptor) : String :=
  "  " ++ column d.qualifiedName ++ " -> " ++ d.returnKind.name ++
    (if d.eligible then "" else "  (invalid signature)") ++ "\n"

/-- Every run passed. -/
def exitOk : Int := 0

/-- A run did not pass. -/
def exitFailed : Int := 1

/-- The host itself went wrong. -/
def exitBroken : Int := 2

/-- The run was interrupted. -/
def exitInterrupted : Int := 130

/-- List the validators. -/
def list : Session Console Int := do
  let ds ← onHost Host.validators
  if ds.isEmpty then say "No validators found.\n"
  ds.forM fun d => say (listLine d)
  return exitOk

/-- Write the record of one run. -/
def sayRecord (record : RunRecord) : Session Console Unit := do
  say ("Validator: " ++ record.name ++ "\n")
  say ("Status: " ++ (if record.passed then "Passed" else "Failed") ++ "\n")
  say ("Message: " ++ (← record.statusMessage) ++ "\n")
  match record.status, record.trace? with
  | .invalidSignature, _ =>
    say ("Error Details: " ++ (← record.verdict.message.text) ++ "\n")
  | _, some trace => say ("Error Details:\n" ++ trace)
  | _, none => pure ()

/-- Run the validator of a name. -/
def runOne (name : String) : Session Console Int := do
  match ← onHost (Host.find name) with
  | none =>
    Session.note .error .commands ("Unknown validator: " ++ name)
    return exitBroken
  | some d =>
    let record ← onHost (Host.runValidator d)
    sayRecord record
    return if record.passed then exitOk else exitFailed

/-- Run all validators. -/
def runAll : Session Console Int := do
  let report ← onHost Host.runAll
  say ("Run All Summary: " ++ report.summary ++ "\n")
  say ((← report.details) ++ "\n")
  return if report.hasIssues then exitFailed else exitOk

/-- Carry out a command. -/
def perform : Command → Session Console Int
  | .list => list
  | .run name => runOne name
  | .runAll => runAll

/-- Take over the settings of the arguments, and carry out their command with a new registry. -/
def configureAndPerform (a : Arguments) : Session Console Int := do
  let console ← Session.get
  let settings := console.host.workspace.settings.override (overridesOf a)
  onHost (Host.onWorld (World.onWorkspace (Workspace.configure settings)))
  onHost (Session.modify fun host => { host with registry := {} })
  perform a.command

/-- Carry out a command; an interrupt or an error ends it with a code of its own. -/
def performSafely (a : Arguments) : Session Console Int := do
  match ← Session.attempt (configureAndPerform a) with
  | .ok code => return code
  | .error fault =>
    if fault.isA "KeyboardInterrupt" then do
      Session.note .info .commands "Interrupted by user."
      return exitInterrupted
    else if fault.isError then do
      Session.noteFault .error .commands "Unhandled exception: %s" [] fault true
      return exitBroken
    else Session.fail fault

/-- Import what the arguments ask for, and carry out their command. -/
def runArguments (a : Arguments) : Session Console Int := do
  if ← importAll a.modules then performSafely a else return exitBroken

/-- The fault of leaving with a code. -/
def leave (code : Int) : Fault := .raised "SystemExit" [.int code]

/-- What is written when the version is asked for. -/
def versionText : String := "validation-shims 0.1.0\n"

/-- Carry out a command line: the code of the run. Asking for the version or for help, and
arguments that are no request, leave at once. -/
def runWords (words : List String) : Session Console Int :=
  match Arguments.read words with
  | .run a => runArguments a
  | .version => do
    Session.modify fun console => { console with output := console.output ++ versionText }
    Session.fail (leave exitOk)
  | .help => Session.fail (leave exitOk)
  | .mistake => Session.fail (leave exitBroken)

/-- The least level of the records that are shown when more of them are asked for so often. -/
def shownLevel (verbosity : Nat) : Level :=
  match verbosity with
  | 0 => .warning
  | 1 => .info
  | _ => .debug

/-- The least level of the records that a command line shows. -/
def shownLevelOf (words : List String) : Level :=
  match Arguments.read words with
  | .run a => shownLevel a.verbosity
  | _ => shownLevel 0

/-- Records as lines of a console. -/
def lines (clock : String) (level : Level) (journal : Journal) : String :=
  String.join ((journal.atLeast level).map (·.line clock))

end Console

namespace Fault

/-- The code of a fault that leaves the program. -/
def exitCode? : Fault → Option Int
  | .during _ fault => exitCode? fault
  | .raised "SystemExit" details =>
    match details with
    | [] => some 0
    | [.null] => some 0
    | [.int n] => some n
    | [.bool b] => some (if b then 1 else 0)
    | _ => some 1
  | _ => none

end Fault

end Vetting

import Vetting.Validator.Program
import Vetting.Workspace

/-!
# Vetting.Validator.World

What the functions of a program act on: the program, with the scripts that are still to be followed,
and what all validators share. `World.call` runs the body of a function. Which functions were called
is kept as well; nothing that is done depends on it.
-/

namespace Vetting

/-- What the functions of a program act on. -/
structure World where
  program : Program := .initial
  workspace : Workspace
  /-- The functions that were called, in order. -/
  calls : List Nat := []

namespace World

/-- A step on the program. -/
def onProgram (step : Session Program α) : Session World α :=
  Session.zoom (·.program) (fun program world => { world with program }) step

/-- A step on what the validators share. -/
def onWorkspace (step : Session Workspace α) : Session World α :=
  Session.zoom (·.workspace) (fun workspace world => { world with workspace }) step

/-- The next reply of a script. The last one stays. -/
def nextReply (number : Nat) : Session World Reply := do
  let world ← Session.get
  match (world.program.scripts[number]?).getD [] with
  | [] => return .returns (.value .null)
  | [reply] => return reply
  | reply :: rest =>
    onProgram (Session.modify fun program =>
      { program with scripts := program.scripts.modify number fun _ => rest })
    return reply

/-- Run the body of a function. -/
def runBody : Body → Session World Returned
  | .script script => do
    match ← nextReply script with
    | .returns r => return r
    | .raises fault => Session.fail fault
  | .unusedImports => return .verdict (← onWorkspace Workspace.checkUnusedImports)

/-- Call a function. -/
def callFunction (number : Nat) : Session World Returned := do
  Session.modify fun world => { world with calls := world.calls ++ [number] }
  match (← Session.get).program.bodyOf? number with
  | some body => runBody body
  | none => return .value .null

/-- Call a thing. -/
def call : Entity → Session World Returned
  | .function number => callFunction number
  | _ => return .value .null

end World

end Vetting

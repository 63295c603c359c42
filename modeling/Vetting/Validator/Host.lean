import Vetting.Validator.Definition
import Vetting.Validator.Registry
import Vetting.Validator.Run

/-!
# Vetting.Validator.Host

A host of validators: the world that they act on, and a registry of those that were found. The host
runs validators one by one or all together. What a validator returns or raises becomes a record and
does not stop the others, as long as it can be told; interrupts pass through.
-/

namespace Vetting

/-- A host of validators. -/
structure Host extends World where
  registry : Registry := {}
  /-- How hints are looked up. -/
  reader : HintReader := .standard

namespace Host

/-- A step on the world. -/
def onWorld (step : Session World α) : Session Host α :=
  Session.zoom (·.toWorld) (fun world host => { host with toWorld := world }) step

/-- The validators of the registry, looked for now if that was not done. -/
def validators : Session Host (List Descriptor) := do
  let host ← Session.get
  match host.registry.found? with
  | some ds => return ds
  | none =>
    let ds ← onWorld (host.registry.discover host.reader)
    Session.modify fun host => { host with registry := { host.registry with found? := some ds } }
    return ds

/-- Forget the validators that were found. -/
def clear : Session Host Unit :=
  Session.modify fun host => { host with registry := { host.registry with found? := none } }

/-- Look for validators again. -/
def refresh : Session Host (List Descriptor) := do
  clear
  validators

/-- The qualified names of the validators. -/
def names : Session Host (List String) := do
  let ds ← validators
  return ds.map (·.qualifiedName)

/-- The validator that a name stands for. -/
def find (name : String) : Session Host (Option Descriptor) := do
  let ds ← validators
  return Registry.findIn ds name

/-- The verdict that a returned thing stands for. For a truth value, nothing but truth passes. -/
def verdictOf (d : Descriptor) (r : Returned) : Except Fault Verdict :=
  match d.returnKind, r with
  | .boolean, .value (.bool true) => .ok .pass
  | .boolean, _ => .ok .fail
  | _, .verdict v => .ok v
  | _, r =>
    .error (.withText "TypeError"
      (d.qualifiedName ++ " returned " ++ r.typeName ++ ", expected ValidatorResult"))

/-- Call a validator, if it is one that can be called: whether it was, and the verdict. What it
raises passes through. -/
def tryRun (d? : Option Descriptor) : Session Host (Bool × Verdict) :=
  match d? with
  | none => return (false, .fail (Fault.badSignature none).message)
  | some d =>
    if d.eligible then do
      let r ← onWorld (World.call d.callee)
      let verdict ← Session.ofExcept (verdictOf d r)
      return (true, verdict)
    else return (false, .fail (Fault.badSignature (some d.qualifiedName)).message)

/-- Whether a fault of a validator becomes a record: errors and exits do. -/
def isContained (fault : Fault) : Bool := fault.isError || fault.isA "SystemExit"

/-- The record of a validator that ended with a verdict. -/
def recordOf (d : Descriptor) (wasCalled : Bool) (verdict : Verdict) : Except Fault RunRecord :=
  if wasCalled then
    verdict.passes.map fun passes =>
      { name := d.qualifiedName, verdict, status := if passes then .passed else .failed }
  else .ok { name := d.qualifiedName, verdict, status := .invalidSignature }

/-- The record of a validator that raised. Its message holds what the fault says, and it shows the
trace of the fault. -/
def faultRecord (d : Descriptor) (fault : Fault) : Session Host RunRecord := do
  let invocation ← Session.handling fault (Fault.invocation (some fault))
  let message := invocation.message
  Session.note .error .runner ("Validator " ++ d.qualifiedName ++ " raised " ++ message)
  let trace ← Session.handling fault fault.traced
  return ⟨d.qualifiedName, .fail message, .raised, some trace⟩

/-- Run one validator. -/
def runValidator (d : Descriptor) : Session Host RunRecord := do
  match ← Session.attempt (tryRun (some d)) with
  | .error fault => if isContained fault then faultRecord d fault else Session.fail fault
  | .ok (wasCalled, verdict) =>
    unless wasCalled do
      Session.note .warning .runner (← verdict.message.text)
    Session.ofExcept (recordOf d wasCalled verdict)

/-- Run validators in turn. -/
def runEach : List Descriptor → Session Host (List RunRecord)
  | [] => pure []
  | d :: rest => do
    let record ← runValidator d
    let records ← runEach rest
    return record :: records

/-- Run all validators that are found. -/
def runAll : Session Host RunReport := do
  let ds ← validators
  let records ← runEach ds
  let report : RunReport := ⟨records⟩
  Session.note .info .runner ("Run-all complete: " ++ report.summary)
  return report

end Host

end Vetting

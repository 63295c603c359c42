import Vetting.Verdict

/-!
# Vetting.Validator.Run

How runs of validators end, and what is told of them. A record holds what was said of one run, and a
report the records of a batch. A verdict that does not answer cannot be told.
-/

namespace Vetting

/-- How the run of a validator ends. -/
inductive RunStatus where
  | passed
  | failed
  /-- The function has not the shape of a validator and was not called. -/
  | invalidSignature
  /-- The validator raised. -/
  | raised
  deriving DecidableEq, Repr

namespace RunStatus

/-- The name of a status. -/
def name : RunStatus → String
  | passed => "passed"
  | failed => "failed"
  | invalidSignature => "invalid-signature"
  | raised => "exception"

/-- All statuses. -/
def all : List RunStatus := [passed, failed, invalidSignature, raised]

/-- The status of a name. -/
def named? (name : String) : Option RunStatus := all.find? (·.name == name)

/-- The status that a value names. -/
def ofValue (v : Value) : Except Fault RunStatus :=
  let found :=
    match v with
    | .text name => named? name
    | _ => none
  match found with
  | some status => .ok status
  | none => .error (.withText "ValueError" (v.shown ++ " is not a valid RunStatus"))

end RunStatus

/-- What is told of one run. -/
structure RunRecord where
  /-- The qualified name of the validator. -/
  name : String
  verdict : Verdict
  status : RunStatus
  /-- The trace of what was raised. -/
  trace? : Option String := none

namespace RunRecord

/-- Whether the validator passed. -/
def passed (record : RunRecord) : Bool := record.status == .passed

/-- What is told where a validator is run alone. -/
def statusMessage (record : RunRecord) : Except Fault String :=
  match record.status with
  | .invalidSignature => .ok "Validator could not run."
  | .raised => .ok "Exception thrown while running validator."
  | _ => do
    if ← record.verdict.message.isTelling then record.verdict.message.text
    else
      return if ← record.verdict.passes then "Validator passed." else "Validator failed."

/-- What is told in one line of a report. -/
def line (record : RunRecord) : Except Fault String :=
  match record.status with
  | .invalidSignature => .ok (record.name ++ ": Invalid validator signature.")
  | .raised => record.verdict.message.text.map fun message =>
    record.name ++ ": Exception - " ++ message
  | _ => do
    let isTelling ← record.verdict.message.isTelling
    let outcome := if ← record.verdict.passes then "Passed" else "Failed"
    let message ← if isTelling then record.verdict.message.text else pure "No message."
    return record.name ++ ": " ++ outcome ++ " - " ++ message

end RunRecord

/-- What is told of a batch of runs. -/
structure RunReport where
  records : List RunRecord := []

namespace RunReport

/-- How many validators ran. -/
def total (report : RunReport) : Nat := report.records.length

/-- How many passed. -/
def passed (report : RunReport) : Nat := report.records.countP (·.passed)

/-- How many did not pass. -/
def failed (report : RunReport) : Nat := report.total - report.passed

/-- Whether any did not pass. -/
def hasIssues (report : RunReport) : Bool := decide (0 < report.failed)

/-- The records of a status. -/
def byStatus (report : RunReport) (status : RunStatus) : List RunRecord :=
  report.records.filter (·.status == status)

/-- The counts in one line. -/
def summary (report : RunReport) : String :=
  "Total: " ++ toString report.total ++ "  Passed: " ++ toString report.passed ++ "  Failed: " ++
    toString report.failed

/-- A line for every record. -/
def details (report : RunReport) : Except Fault String :=
  if report.records.isEmpty then .ok "No validators found."
  else (report.records.mapM RunRecord.line).map "\n".intercalate

end RunReport

end Vetting

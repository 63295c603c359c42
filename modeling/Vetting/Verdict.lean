import Vetting.Fault
import Vetting.Text.Scan

/-!
# Vetting.Verdict

What a validator says: whether it passed, and perhaps a message. Nothing checks what a validator
puts into its verdict, so either field holds a value, or an object of another kind that answers for
itself what it is asked. What is asked of a field can go wrong, and so can all that is made of a
verdict.
-/

namespace Vetting

/-- What an object answers when it is asked. -/
structure Answers where
  /-- Whether it counts as true. -/
  truth : Except Fault Bool
  /-- Whether anything is left of it without the white space at its ends. -/
  isFilled : Except Fault Bool
  /-- It as a part of a text. -/
  text : Except Fault String
  deriving Inhabited

/-- What stands in a field of a verdict. -/
inductive Held where
  | value (v : Value)
  | object (answers : Answers)
  deriving Inhabited

namespace Held

/-- Whether it counts as true. -/
def truth : Held → Except Fault Bool
  | value v => .ok v.truthy
  | object answers => answers.truth

/-- Whether anything is left of it without the white space at its ends. Only a text has such. -/
def isFilled : Held → Except Fault Bool
  | value (.text s) => .ok !(Text.trim s.toList).isEmpty
  | value v =>
    .error (.withText "AttributeError" ("'" ++ v.typeName ++ "' object has no attribute 'strip'"))
  | object answers => answers.isFilled

/-- It as a part of a text. -/
def text : Held → Except Fault String
  | value v => .ok v.plain
  | object answers => answers.text

/-- Whether it counts as true and is more than white space. -/
def isTelling (held : Held) : Except Fault Bool := do
  if ← held.truth then held.isFilled else return false

@[simp] theorem truth_bool (b : Bool) : (value (.bool b)).truth = .ok b := rfl

end Held

/-- What a validator says. -/
structure Verdict where
  passed : Held
  message : Held := .value .null
  deriving Inhabited

namespace Verdict

/-- A message that may be missing. -/
def messageOf (message? : Option String) : Held :=
  .value (message?.elim .null .text)

/-- A verdict that passed. -/
def pass (message? : Option String := none) : Verdict := ⟨.value (.bool true), messageOf message?⟩

/-- A verdict that failed. -/
def fail (message? : Option String := none) : Verdict := ⟨.value (.bool false), messageOf message?⟩

/-- Whether the verdict passed. -/
def passes (verdict : Verdict) : Except Fault Bool := verdict.passed.truth

/-- A verdict in one word. -/
def status (verdict : Verdict) : Except Fault String :=
  verdict.passes.map fun passes => if passes then "PASS" else "FAIL"

/-- A verdict in one line: a message that does not count as true is left out. -/
def text (verdict : Verdict) : Except Fault String := do
  if ← verdict.message.truth then
    let status ← verdict.status
    let message ← verdict.message.text
    return status ++ " - " ++ message
  else verdict.status

@[simp] theorem passes_pass (message? : Option String) : (pass message?).passes = .ok true := rfl

@[simp] theorem passes_fail (message? : Option String) : (fail message?).passes = .ok false := rfl

end Verdict

end Vetting

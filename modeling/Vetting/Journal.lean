import Vetting.Fault

/-!
# Vetting.Journal

The records that are written while a session runs. Every record has a level and comes from one
channel; who shows them chooses the least level that is shown. A record that is to hold what a fault
says is made by `Record.ofFault`, which also says what happens where the fault has no text.
-/

namespace Vetting

/-- How much a record matters, the least first. -/
inductive Level where
  | debug
  | info
  | warning
  | error
  deriving DecidableEq, Repr

namespace Level

/-- The name of a level. -/
def name : Level → String
  | debug => "DEBUG"
  | info => "INFO"
  | warning => "WARNING"
  | error => "ERROR"

/-- The rank of a level. -/
def rank : Level → Nat
  | debug => 0
  | info => 1
  | warning => 2
  | error => 3

end Level

/-- The part of the library that writes a record. -/
inductive Channel where
  | directives
  | metadata
  | symbols
  | sources
  | analysis
  | settings
  | registry
  | runner
  | commands
  deriving DecidableEq, Repr

namespace Channel

/-- The name under which a channel's records are shown. -/
def name : Channel → String
  | directives => "validation_shims.lexer"
  | metadata => "validation_shims.metadata"
  | symbols => "validation_shims.symbol_index"
  | sources => "validation_shims.sources"
  | analysis => "validation_shims.unused_imports"
  | settings => "validation_shims.config"
  | registry => "validation_shims.registry"
  | runner => "validation_shims.runner"
  | commands => "validation_shims"

end Channel

/-- One record: a message, and a trace where a fault is shown in full. A record without a message is
one whose message could not be made; its trace says what went wrong with it. -/
structure Record where
  level : Level
  channel : Channel
  message : Option String
  trace : Option String := none
  deriving DecidableEq, Repr

/-- Records in the order in which they were written. -/
abbrev Journal := List Record

namespace Journal

/-- The records of at least a level. -/
def atLeast (level : Level) (journal : Journal) : Journal :=
  journal.filter fun r => level.rank ≤ r.level.rank

@[simp] theorem atLeast_append (level : Level) (a b : Journal) :
    atLeast level (a ++ b) = atLeast level a ++ atLeast level b := by
  simp [atLeast]

end Journal

namespace Record

/-- The name of a level, five characters wide. -/
def levelColumn (level : Level) : String :=
  let kept := level.name.toList.take 5
  String.ofList (kept ++ List.replicate (5 - kept.length) ' ')

/-- The record as a line of a console, after the time of day; a trace follows on its own lines. -/
def line (clock : String) (r : Record) : String :=
  match r.message with
  | none => "--- Logging error ---\n" ++ r.trace.getD ""
  | some message =>
    clock ++ " [" ++ levelColumn r.level ++ "] " ++ r.channel.name ++ ": " ++ message ++
      (match r.trace with
        | some trace =>
          let body := trace.toList
          let body := if body.getLast? == some '\n' then body.dropLast else body
          (if message.toList.getLast? == some '\n' then "" else "\n") ++ String.ofList body
        | none => "") ++ "\n"

/-- A template with its places filled in. -/
def fillPlaces : List Char → (texts : List String) → List Char
  | '%' :: 's' :: rest, text :: texts | '%' :: 'r' :: rest, text :: texts =>
    text.toList ++ fillPlaces rest texts
  | c :: rest, texts => c :: fillPlaces rest texts
  | [], _ => []

/-- A template for a message, with its places `%s` and `%r` filled in from the left. -/
def fill (template : String) (texts : List String) : String :=
  String.ofList (fillPlaces template.toList texts)

/-- What is shown of a record whose message could not be made: the trace of that, the template, and
the arguments that were to be filled in. -/
def unfilled (trace template : String) (arguments : List String) : String :=
  trace ++ "Call stack:\n" ++ "Message: " ++ Text.quoted template ++ "\n" ++ "Arguments: (" ++
    ", ".intercalate arguments ++ (if arguments.length == 1 then "," else "") ++ ")\n"

/-- What is written where a message could not be made, and what passes on. Records below a warning
are not made at all unless they are asked for. Of the others, what is no error passes, and so do a
depth that is exceeded and a trouble whose own trace cannot be written. -/
def unmade (level : Level) (channel : Channel) (template : String) (arguments : List String)
    (trouble : Fault) : Journal × Option Fault :=
  if Level.warning.rank ≤ level.rank && (!trouble.isError || trouble.isA "RecursionError") then
    ([], some trouble)
  else
    match trouble.tracedPart with
    | (trace, some more) =>
      ([⟨level, channel, none, some trace⟩],
        if Level.warning.rank ≤ level.rank then some (.during trouble more) else none)
    | (trace, none) => ([⟨level, channel, none, some (unfilled trace template arguments)⟩], none)

/-- The record that holds some texts and what a caught fault says, with its trace if it is to be
shown in full. Each text stands with how it is written as an argument. A message that cannot be made
is no fault of the part that writes it. -/
def ofFault (level : Level) (channel : Channel) (template : String)
    (others : List (String × String))
    (fault : Fault) (inFull : Bool) : Journal × Option Fault :=
  let made : Except Fault Record := do
    let said ← fault.said
    let trace ← if inFull then some <$> fault.traced else pure none
    return ⟨level, channel, some (fill template (others.map (·.1) ++ [said])), trace⟩
  match made with
  | .ok record => ([record], none)
  | .error other =>
    unmade level channel template (others.map (·.2) ++ [fault.written]) (.during fault other)

end Record

end Vetting

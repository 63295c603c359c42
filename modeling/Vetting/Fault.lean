import Vetting.Fault.Telling
import Vetting.Text.Encoding

/-!
# Vetting.Fault

What goes wrong while validators are discovered and run. A fault is of a general kind and carries
the values it was raised with or a message of its own, or it is a text that cannot be decoded, or it
is one of the faults of this library, which carry a finished message. The text of a fault need not
exist: `Fault.said` is the text or what is raised in its place, and `Fault.during` is a fault that
was raised while another was handled. `Fault.written` writes a fault as an expression, and
`Fault.traced` is its trace.
-/

namespace Vetting

/-- The kinds of fault that this library raises itself. -/
inductive FrameworkKind where
  | validation
  /-- A source could not be read. -/
  | unreadableSource
  /-- A metadata module could not be enumerated at all. -/
  | notLoaded
  /-- A metadata module loaded part of its types. -/
  | partlyLoaded
  /-- The indexed look-up of validators failed. -/
  | discovery
  /-- A tagged function has the wrong shape. -/
  | badSignature
  /-- A validator raised. -/
  | invocation
  deriving DecidableEq, Repr

namespace FrameworkKind

/-- The name of a kind. -/
def name : FrameworkKind → String
  | validation => "ValidationError"
  | unreadableSource => "RecoverableReadError"
  | notLoaded => "MetadataLoadError"
  | partlyLoaded => "PartialMetadataLoadError"
  | discovery => "DiscoveryError"
  | badSignature => "InvalidValidatorSignature"
  | invocation => "InvocationError"

/-- The kind above: all lie below `validation`, partial loads below failed ones. -/
def parent? : FrameworkKind → Option FrameworkKind
  | validation => none
  | partlyLoaded => some notLoaded
  | _ => some validation

/-- The names of the kind and of all kinds above it, up to the general one. -/
def chain (kind : FrameworkKind) : List String :=
  match kind.parent? with
  | none => [kind.name, "Exception"]
  | some above =>
    match above.parent? with
    | none => [kind.name, above.name, "Exception"]
    | some top => [kind.name, above.name, top.name, "Exception"]

end FrameworkKind

/-- Something that went wrong. -/
inductive Fault where
  /-- A fault of a general kind with the values it was raised with. -/
  | raised (kind : String) (details : Details)
  /-- A fault of a general kind with a message that is made already. -/
  | worded (kind message : String)
  /-- Bytes that are no text. -/
  | undecodable (trouble : DecodeTrouble)
  /-- A fault of this library. -/
  | framework (kind : FrameworkKind) (message : String)
  /-- A fault of this library that was raised with a value that is no text, and so says nothing. -/
  | speechless (kind : FrameworkKind) (message : Value)
  /-- A fault of a general kind, written `shown`, whose text raises `other` when it is asked for. -/
  | untold (kind shown : String) (other : Fault)
  /-- A grammar that asks for a rule it does not have. -/
  | undefinedLabel (label : String)
  /-- A fault that was raised while `earlier` was handled. -/
  | during (earlier fault : Fault)
  deriving Repr, Inhabited

namespace Fault

/-- A fault of a general kind with one text. -/
def withText (kind text : String) : Fault := .raised kind [.text text]

/-- The name of the fault's kind. -/
def kindName : Fault → String
  | .raised kind _ => kind
  | .worded kind _ => kind
  | .undecodable _ => "UnicodeDecodeError"
  | .framework kind _ => kind.name
  | .speechless kind _ => kind.name
  | .untold kind _ _ => kind
  | .undefinedLabel _ => "UndefinedLabel"
  | .during _ fault => fault.kindName

/-- Whether the fault is of the general kind `above`, or of one below it. -/
def isA (above : String) : Fault → Bool
  | .framework _ _ | .speechless _ _ | .undefinedLabel _ => FaultKind.isA "Exception" above
  | .during _ fault => fault.isA above
  | f => FaultKind.isA f.kindName above

/-- Errors are caught where one part must not stop the others; exits and interrupts are not. -/
def isError (f : Fault) : Bool := f.isA "Exception"

/-- Faults of reading a source: those of the system, and bytes that are no text. -/
def isReadFailure (f : Fault) : Bool := f.isA "OSError" || f.isA "UnicodeDecodeError"

/-- What the fault says, or would say. -/
def message : Fault → String
  | .undecodable trouble => trouble.message
  | .framework _ text => text
  | .speechless _ value => value.plain
  | .worded _ text => text
  | .raised kind details => Details.message kind details
  | .untold _ shown _ => shown
  | .undefinedLabel label => "The label \"" ++ label ++ "\" was never defined."
  | .during _ fault => fault.message

/-- What the fault says, for a text that is to hold it. Only a text can stand in one. -/
def said : Fault → Except Fault String
  | .speechless _ value =>
    .error (.withText "TypeError" ("__str__ returned non-string (type " ++ value.typeName ++ ")"))
  | .raised kind details =>
    match Details.positionMisfit? kind details with
    | some (other, text) => .error (withText other text)
    | none => .ok (Details.message kind details)
  | .untold _ _ other => .error other
  | .during _ fault => fault.said
  | f => .ok f.message

/-- The fault written as an expression. -/
def written : Fault → String
  | .raised kind details => kind ++ "(" ++ Value.shownItems (Details.kept kind details) ++ ")"
  | .worded kind text => kind ++ "(" ++ text ++ ")"
  | .undecodable trouble =>
    "UnicodeDecodeError(" ++ Text.quoted trouble.codec ++ ", " ++ toString trouble.start ++ ", " ++
      toString trouble.stop ++ ", " ++ Text.quoted trouble.reason.message ++ ")"
  | .framework kind text => kind.name ++ "(" ++ Text.quoted text ++ ")"
  | .speechless kind value => kind.name ++ "(" ++ value.shown ++ ")"
  | .untold _ shown _ => shown
  | .undefinedLabel label => "UndefinedLabel(" ++ Text.quoted label ++ ")"
  | .during _ fault => fault.written

/-- The kind and the message in one line. -/
def headline (f : Fault) : Except Fault String :=
  f.said.map fun text => f.kindName ++ ": " ++ text

/-- The kind as a trace names it: kinds that are not general with the place they belong to. -/
def fullKindName : Fault → String
  | .framework kind _ | .speechless kind _ => "validation_shims.errors." ++ kind.name
  | .undefinedLabel _ => "parsimonious.exceptions.UndefinedLabel"
  | .during _ fault => fault.fullKindName
  | f => f.kindName

/-- What stands in a trace for a text that cannot be made. -/
def unsaid : String := "<exception str() failed>"

/-- What the last part of a trace tells of a fault. A syntax error that says nothing is told so. -/
def told (f : Fault) : String :=
  match f with
  | .during _ fault => fault.told
  | .raised kind details =>
    if FaultKind.isA kind "SyntaxError" then
      (if (details.nth 0).truthy then (details.nth 0).plain else "<no detail available>") ++
        Details.fileAlone details
    else (f.said.toOption).getD unsaid
  | _ => (f.said.toOption).getD unsaid

/-- The last part of a trace: the kind, and what is told of the fault, if there is anything. -/
def report (f : Fault) : String :=
  if f.told.isEmpty then f.fullKindName ++ "\n" else f.fullKindName ++ ": " ++ f.told ++ "\n"

/-- The first line of a trace. -/
def traceHead : String := "Traceback (most recent call last):\n"

/-- What stands between the trace of a fault and that of one raised while it was handled. -/
def traceLink : String :=
  "\nDuring handling of the above exception, another exception occurred:\n\n"

/-- What is raised where a trace is to show the line of a syntax error. -/
def lineTrouble? : Fault → Option Fault
  | .raised kind details =>
    if FaultKind.isA kind "SyntaxError" then
      (Details.lineMisfit? details).map fun (other, text) => withText other text
    else none
  | _ => none

/-- As much of the trace of a fault as can be written, without its frames, and what is raised in
place of the rest. A fault that was raised while another was handled stands behind that one. -/
def tracedPart : Fault → String × Option Fault
  | .during earlier fault =>
    match earlier.tracedPart with
    | (text, some other) => (text, some other)
    | (text, none) => (text ++ traceLink ++ fault.tracedPart.1, fault.tracedPart.2)
  | f =>
    match f.lineTrouble? with
    | some other => (traceHead, some other)
    | none => (traceHead ++ f.report, none)

/-- The trace of a fault, for a text that is to hold it. -/
def traced (f : Fault) : Except Fault String :=
  match f.tracedPart with
  | (_, some other) => .error other
  | (text, none) => .ok text

/-- The kind that a kind becomes: a system error with a known number is of the number's kind. -/
def numberedKind (kind : String) (details : Details) : String :=
  if kind == "OSError" && Details.isSystemError kind details then
    match details.nth 0 with
    | .int n => (FaultKind.systemNumbers.lookup n).getD kind
    | .bool true => (FaultKind.systemNumbers.lookup 1).getD kind
    | _ => kind
  else kind

/-- The fault of a kind of this library with `details`, or the fault of making it. The message is
the first detail, and the cause the second. -/
def makeFramework (kind : FrameworkKind) : (details : Details) → Except Fault Fault
  | [] =>
    .error (withText "TypeError"
      "ValidationError.__init__() missing 1 required positional argument: 'message'")
  | [.text message] | [.text message, _] => .ok (.framework kind message)
  | [message] | [message, _] => .ok (.speechless kind message)
  | details =>
    .error (withText "TypeError"
      ("ValidationError.__init__() takes from 2 to 3 positional arguments but " ++
        toString (details.length + 1) ++ " were given"))

/-- The fault of the kind `name` with `details`, or the fault of making it. -/
def make (name : String) (details : Details) : Except Fault Fault :=
  let kind := FaultKind.canonical name
  if kind == "ValidationError" then makeFramework .validation details
  else if kind == "DiscoveryError" then makeFramework .discovery details
  else
    let kind := numberedKind kind details
    match Details.misfit? kind details with
    | some (other, text) => .error (withText other text)
    | none => .ok (.raised kind details)

/-- The fault that raising `name` with `details` gives. -/
def ofRaise (name : String) (details : Details) : Fault :=
  match make name details with
  | .ok fault | .error fault => fault

/-- A source that could not be read. Its message holds what the cause says. -/
def unreadableSource (path : String) : (cause : Option Fault) → Except Fault Fault
  | none => .ok (.framework .unreadableSource ("Failed to read " ++ path))
  | some f => f.said.map fun text =>
    .framework .unreadableSource ("Failed to read " ++ path ++ ": " ++ text)

/-- A metadata module that could not be enumerated. -/
def notLoaded (name : String) (text : String) : Fault :=
  .framework .notLoaded (if text.isEmpty then "Failed to load types from " ++ name else text)

/-- A metadata module that loaded part of its types. -/
def partlyLoaded (name : String) (errors : List String) : Fault :=
  .framework .partlyLoaded
    (toString errors.length ++ " type(s) failed to load from " ++ name)

/-- A function that is no validator for its shape; without a name it is unknown. -/
def badSignature (name : Option String) : Fault :=
  .framework .badSignature ("Invalid validator signature on " ++ name.getD "<unknown>" ++ ".")

/-- A validator that raised `cause`. The message holds what the cause says. -/
def invocation : (cause : Option Fault) → Except Fault Fault
  | none => .ok (.framework .invocation "NoneType: None")
  | some f => f.headline.map (.framework .invocation)

/-- A text can be made of a fault only if it is the fault's message. -/
theorem eq_message_of_said {fault : Fault} {message : String}
    (h : fault.said = .ok message) : message = fault.message := by
  induction fault with
  | speechless kind value => cases h
  | untold kind shown other => cases h
  | during earlier fault _ ih => exact ih h
  | raised kind details =>
    simp only [said] at h
    split at h
    · cases h
    · exact (Except.ok.inj h).symm
  | _ => exact (Except.ok.inj h).symm

end Fault

end Vetting

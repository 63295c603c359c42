import Vetting.Directive
import Vetting.Journal
import Vetting.Text.Quoted

/-!
# Vetting.Header

The header of a source text: its leading import directives, among blank lines, comments and
preprocessor lines. The header ends at the first other line. A line that opens with an import
keyword is read by the grammar; where it does not fit the grammar, it is read by a plain rule that
looks for the semicolon, so that no odd line goes wrong. Static imports and aliases bring no names
into scope and are passed over.

`Header.scan` reads a header. It raises what reading a line by the grammar raises; where that is
nothing, it gives `Header.imports`.
-/

namespace Vetting

namespace Header

open Text

/-- Whether a block comment is open. -/
abbrev Open := Bool

/-- A line without the block comments that it starts with: whether a comment is open after it, and
what is left of it, if anything is. -/
def uncomment (isOpen : Open) (line : List Char) : Open × Option (List Char) :=
  let inCode (line : List Char) : Open × Option (List Char) :=
    match after? ['/', '*'] line with
    | none => (false, some line)
    | some body =>
      match afterFirst? ['*', '/'] body with
      | none => (true, none)
      | some rest =>
        match trim rest with
        | [] => (false, none)
        | c :: rest => (false, some (c :: rest))
  if isOpen then
    match afterFirst? ['*', '/'] line with
    | none => (true, none)
    | some rest =>
      match trim rest with
      | [] => (false, none)
      | c :: rest => inCode (c :: rest)
  else inCode line

/-- Whether a line says nothing of imports: it is blank, a line comment or a preprocessor line. -/
def isPassedOver (line : List Char) : Bool :=
  line.isEmpty || startsWith ['/', '/'] line || startsWith ['#'] line

/-- What follows the first import keyword that the line starts with, white space after it. -/
def afterKeyword? : List String → List Char → Option (List Char)
  | [], _ => none
  | keyword :: more, line =>
    match after? keyword.toList line with
    | some (c :: rest) => if isSpace c then some (c :: rest) else afterKeyword? more line
    | _ => afterKeyword? more line

/-- What a line of the header says. -/
inductive Reading where
  /-- Nothing that brings a namespace into scope. -/
  | skipped
  /-- The header has ended. -/
  | ended
  /-- A namespace is imported; `isPlain` where it was read by the plain rule. -/
  | imported (path : List Char) (isPlain : Bool)
  deriving DecidableEq, Repr

/-- What a directive of the grammar says. -/
def readDirective (directive : Directive) : Reading :=
  if directive.isNamespaceImport && !directive.path.isEmpty then .imported directive.path false
  else .skipped

/-- The plain rule for what follows an import keyword. -/
def readPlain (dialect : Dialect) (body : List Char) : Reading :=
  let body := trimStart body
  let firstWord := body.takeWhile fun c => !isSpace c
  if !body.isEmpty && firstWord == dialect.staticKeyword.toList then .skipped
  else if !body.contains ';' then .ended
  else
    let path := body.takeWhile (· != ';')
    if path.contains '=' then .skipped
    else
      match dialect.unqualified (trim path) with
      | [] => .skipped
      | c :: rest => .imported (c :: rest) true

/-- What a line without comments says, where reading it raises nothing. -/
def readLine (dialect : Dialect) (line : List Char) : Reading :=
  if isPassedOver line then .skipped
  else
    match afterKeyword? dialect.importKeywords line with
    | none => .ended
    | some body =>
      match Directive.parse? dialect line with
      | some directive => readDirective directive
      | none => readPlain dialect body

/-- What a line without comments says, or what reading it by the grammar raises. -/
def read (dialect : Dialect) (line : List Char) : Except Fault Reading :=
  if isPassedOver line then .ok .skipped
  else
    match afterKeyword? dialect.importKeywords line with
    | none => .ok .ended
    | some body => do
      match ← Directive.parse dialect line with
      | some directive => return readDirective directive
      | none => return readPlain dialect body

/-- One import of a header. -/
structure Import where
  /-- The imported namespace. -/
  path : List Char
  /-- The line that was read by the plain rule, if it was. -/
  plainLine? : Option (List Char)
  deriving DecidableEq, Repr

/-- The imports of the lines that follow, where reading them raises nothing. -/
def importsOf (dialect : Dialect) : Open → List (List Char) → List Import
  | _, [] => []
  | isOpen, raw :: more =>
    match uncomment isOpen (trim raw) with
    | (isOpen, none) => importsOf dialect isOpen more
    | (isOpen, some line) =>
      match readLine dialect line with
      | .skipped => importsOf dialect isOpen more
      | .ended => []
      | .imported path isPlain =>
        ⟨path, if isPlain then some line else none⟩ :: importsOf dialect isOpen more

/-- The imports of the lines that follow, or what reading one of them raises. -/
def scanLines (dialect : Dialect) : Open → List (List Char) → Except Fault (List Import)
  | _, [] => .ok []
  | isOpen, raw :: more =>
    match uncomment isOpen (trim raw) with
    | (isOpen, none) => scanLines dialect isOpen more
    | (isOpen, some line) => do
      match ← read dialect line with
      | .skipped => scanLines dialect isOpen more
      | .ended => return []
      | .imported path isPlain =>
        return ⟨path, if isPlain then some line else none⟩ :: (← scanLines dialect isOpen more)

/-- The imports of a text's header, where reading it raises nothing. -/
def imports (dialect : Dialect) (text : List Char) : List Import :=
  importsOf dialect false (lines text)

/-- The imports of a text's header, or what reading it raises. -/
def scan (dialect : Dialect) (text : List Char) : Except Fault (List Import) :=
  scanLines dialect false (lines text)

/-- The namespaces that a text imports, in order, where reading it raises nothing. -/
def namespaces (dialect : Dialect) (text : List Char) : List (List Char) :=
  (imports dialect text).map (·.path)

/-- The names of the namespaces that a text imports, where reading it raises nothing. -/
def importedNames (dialect : Dialect) (text : String) : List String :=
  (namespaces dialect text.toList).map String.ofList

/-- The names of the namespaces that some imports are of. -/
def namesOf (found : List Import) : List String :=
  found.map fun found => String.ofList found.path

/-- The names of the namespaces that a text imports, or what reading its header raises. -/
def scanNames (dialect : Dialect) (text : String) : Except Fault (List String) :=
  (scan dialect text.toList).map namesOf

/-- What is noted of the imports of a header: every line that was read by the plain rule. -/
def journal (found : List Import) : Journal :=
  found.filterMap fun found =>
    found.plainLine?.map fun line =>
      let message :=
        "Directive outside grammar accepted textually: " ++ quoted (String.ofList line)
      ⟨.debug, .directives, some message, none⟩

end Header

end Vetting

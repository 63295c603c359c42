import Vetting.Text.Scan

/-!
# Vetting.CommandLine.Arguments

The arguments of the command line. A word is a flag, a value, or the mark after which all words are
values. A flag may be cut short as long as it stays the only one with that beginning; its value is
the next word or follows an equals sign; short flags may be joined. Before the command only the
flags for the version and for help are known, and everything after it belongs to the command.
-/

namespace Vetting

/-- What the program is asked to do. -/
inductive Command where
  | list
  | run (name : String)
  | runAll
  deriving DecidableEq, Repr

/-- The arguments of a command. -/
structure Arguments where
  command : Command
  modules : List String := []
  roots : List String := []
  suffixes : List String := []
  catalogs : List String := []
  baseDir : Option String := none
  /-- How often more records were asked for. -/
  verbosity : Nat := 0
  deriving DecidableEq, Repr

/-- What arguments come to. -/
inductive Request where
  | run (arguments : Arguments)
  | version
  | help
  /-- The arguments are no request. -/
  | mistake
  deriving DecidableEq, Repr

namespace Arguments

/-- The flags. -/
inductive Flag where
  | help
  | version
  | module
  | root
  | suffix
  | metadata
  | baseDir
  | verbose
  deriving DecidableEq, Repr

/-- Flags by their spellings. -/
abbrev Spellings := List (String × Flag)

/-- The flags before the command. -/
def outerFlags : Spellings := [("-h", .help), ("--help", .help), ("--version", .version)]

/-- The flags of a command. -/
def commandFlags : Spellings :=
  [("-h", .help), ("--help", .help), ("--module", .module), ("--root", .root),
   ("--suffix", .suffix), ("--metadata", .metadata), ("--base-dir", .baseDir),
   ("-v", .verbose), ("--verbose", .verbose)]

/-- Whether a flag has a value. -/
def Flag.hasValue : Flag → Bool
  | .help | .version | .verbose => false
  | _ => true

/-- What a word is. -/
inductive Word where
  | value (text : String)
  /-- A flag with what is joined to it: after an equals sign, or right behind a short flag. -/
  | flag (flag : Flag) (isShort : Bool) (joined : Option String) (byEquals : Bool)
  /-- A flag that is not known. -/
  | unknown
  /-- A flag that could be several. -/
  | ambiguous
  /-- The mark after which all words are values. -/
  | mark
  deriving DecidableEq, Repr

/-- Whether a word is a negative number. -/
def isNegativeNumber (text : List Char) : Bool :=
  match text with
  | '-' :: rest =>
    match rest.dropWhile isDecimal with
    | [] => !rest.isEmpty
    | '.' :: fraction => !fraction.isEmpty && fraction.all isDecimal
    | _ => false
  | _ => false

/-- What stands before the first equals sign, and what stands after it. -/
def cutAtEquals (text : List Char) : List Char × Option (List Char) :=
  match text.dropWhile (· != '=') with
  | _ :: rest => (text.takeWhile (· != '='), some rest)
  | [] => (text, none)

/-- The flags that a word which is no whole spelling may stand for. -/
def candidates (spellings : Spellings) (text : List Char) : List Word :=
  match text with
  | '-' :: '-' :: _ =>
    let (start, joined) := cutAtEquals text
    spellings.filterMap fun (spelling, flag) =>
      if Text.startsWith start spelling.toList then
        some (.flag flag false (joined.map String.ofList) joined.isSome)
      else none
  | '-' :: c :: rest =>
    spellings.filterMap fun (spelling, flag) =>
      if spelling.toList == ['-', c] then some (.flag flag true (some (String.ofList rest)) false)
      else if Text.startsWith text spelling.toList then some (.flag flag true none false)
      else none
  | _ => []

/-- What a word is when it starts with a hyphen and is longer than that. -/
def readDashed (spellings : Spellings) (word : String) : Word :=
  let text := word.toList
  let isShort (spelling : String) : Bool := !Text.startsWith ['-', '-'] spelling.toList
  match spellings.lookup word with
  | some flag => .flag flag (isShort word) none false
  | none =>
    let (start, joined) := cutAtEquals text
    match joined, spellings.lookup (String.ofList start) with
    | some joined, some flag =>
      .flag flag (isShort (String.ofList start)) (some (String.ofList joined)) true
    | _, _ =>
      match candidates spellings text with
      | [found] => found
      | _ :: _ :: _ => .ambiguous
      | [] => if isNegativeNumber text || text.contains ' ' then .value word else .unknown

/-- What a word is. -/
def readWord (spellings : Spellings) (word : String) : Word :=
  match word.toList with
  | '-' :: _ :: _ => readDashed spellings word
  | _ => .value word

/-- What the words are, up to the first mark and after it. -/
def readWords (spellings : Spellings) : List String → List Word
  | [] => []
  | word :: rest =>
    if word == "--" then .mark :: rest.map .value
    else readWord spellings word :: readWords spellings rest

/-- What was read of the words of a command. -/
structure Reading where
  arguments : Arguments
  values : List String := []
  /-- A word was left over. -/
  isOver : Bool := false

/-- The arguments with the value of a flag. -/
def withValue (a : Arguments) (flag : Flag) (value : String) : Arguments :=
  match flag with
  | .module => { a with modules := a.modules ++ [value] }
  | .root => { a with roots := a.roots ++ [value] }
  | .suffix => { a with suffixes := a.suffixes ++ [value] }
  | .metadata => { a with catalogs := a.catalogs ++ [value] }
  | .baseDir => { a with baseDir := some value }
  | _ => a

/-- The arguments with a flag that has no value. -/
def withFlag (a : Arguments) : Flag → Arguments
  | .verbose => { a with verbosity := a.verbosity + 1 }
  | _ => a

/-- Short flags without a value that are joined behind another: how often more records are asked
for, or what else it comes to. -/
def joinedFlags : List Char → Except Request Nat
  | [] => .ok 0
  | 'v' :: rest =>
    match rest with
    | '=' :: _ => .error .mistake
    | rest => (joinedFlags rest).map (· + 1)
  | 'h' :: rest =>
    match joinedFlags rest with
    | .ok _ => .error .help
    | .error _ => .error .mistake
  | _ => .error .mistake

/-- Read the words of a command. The request is settled early by a mistake or by asking for help. -/
def readCommand (reading : Reading) : List Word → Except Request Reading
  | [] => .ok reading
  | .value text :: .mark :: rest =>
    readCommand { reading with values := reading.values ++ [text] } rest
  | .value text :: rest => readCommand { reading with values := reading.values ++ [text] } rest
  | [.mark] => .ok { reading with isOver := true }
  | .mark :: rest => readCommand reading rest
  | .unknown :: rest => readCommand { reading with isOver := true } rest
  | .ambiguous :: _ => .error .mistake
  | .flag flag isShort joined byEquals :: rest =>
    if flag.hasValue then
      match joined, rest with
      | some text, rest =>
        readCommand { reading with arguments := reading.arguments.withValue flag text } rest
      | none, .value text :: rest =>
        readCommand { reading with arguments := reading.arguments.withValue flag text } rest
      | none, _ => .error .mistake
    else
      match joined with
      | none =>
        if flag = .help then .error .help
        else readCommand { reading with arguments := reading.arguments.withFlag flag } rest
      | some text =>
        if isShort && !byEquals then
          match joinedFlags text.toList with
          | .error request => .error request
          | .ok more =>
            if flag = .help then .error .help
            else
              let arguments := reading.arguments.withFlag flag
              let arguments := { arguments with verbosity := arguments.verbosity + more }
              readCommand { reading with arguments } rest
        else .error .mistake

/-- The request that the words of a command come to. -/
def readRequest (command : String) (words : List String) : Request :=
  let start : Option Command :=
    if command == "list" then some .list
    else if command == "run" then some (.run "")
    else if command == "run-all" then some .runAll
    else none
  match start with
  | none => .mistake
  | some start =>
    let read := readWords commandFlags words
    if read.contains .ambiguous then .mistake
    else
      match readCommand ⟨{ command := start }, [], false⟩ read with
      | .error request => request
      | .ok reading =>
        if reading.isOver then .mistake
        else
          match start, reading.values with
          | .run _, [name] => .run { reading.arguments with command := .run name }
          | .run _, _ => .mistake
          | _, [] => if words.contains "--" then .mistake else .run reading.arguments
          | _, _ => .mistake

/-- The request that words before a command come to; `isOver` when one of them was left over. -/
def readOuter (isOver : Bool) : List String → Request
  | [] => .mistake
  | word :: rest =>
    if word == "--" then .mistake
    else
      match readWord outerFlags word with
      | .value command =>
        match readRequest command rest with
        | .run arguments => if isOver then .mistake else .run arguments
        | request => request
      | .flag .version _ none _ => .version
      | .flag .help _ none _ => .help
      | .unknown => readOuter true rest
      | _ => .mistake

/-- The request that the words of a command line come to. -/
def read (words : List String) : Request :=
  if (readWords outerFlags words).contains .ambiguous then .mistake else readOuter false words

end Arguments

end Vetting

/-!
# Vetting.Fault.Kind

The kinds of fault that validators and readers raise, by name. Every kind has one parent, and the
handlers of this library catch a kind together with all kinds below it.
-/

namespace Vetting

namespace FaultKind

/-- Every kind below the root, with its parent. -/
def parents : List (String × String) :=
  [("Exception", "BaseException"), ("BaseExceptionGroup", "BaseException"),
   ("GeneratorExit", "BaseException"), ("KeyboardInterrupt", "BaseException"),
   ("SystemExit", "BaseException"), ("ExceptionGroup", "Exception"),
   ("ArithmeticError", "Exception"), ("AssertionError", "Exception"),
   ("AttributeError", "Exception"), ("BufferError", "Exception"), ("EOFError", "Exception"),
   ("ImportError", "Exception"), ("LookupError", "Exception"), ("MemoryError", "Exception"),
   ("NameError", "Exception"), ("OSError", "Exception"), ("ReferenceError", "Exception"),
   ("RuntimeError", "Exception"), ("StopAsyncIteration", "Exception"),
   ("StopIteration", "Exception"), ("SyntaxError", "Exception"), ("SystemError", "Exception"),
   ("TypeError", "Exception"), ("ValueError", "Exception"), ("Warning", "Exception"),
   ("FloatingPointError", "ArithmeticError"), ("OverflowError", "ArithmeticError"),
   ("ZeroDivisionError", "ArithmeticError"), ("ModuleNotFoundError", "ImportError"),
   ("IndexError", "LookupError"), ("KeyError", "LookupError"),
   ("UnboundLocalError", "NameError"), ("BlockingIOError", "OSError"),
   ("ChildProcessError", "OSError"), ("ConnectionError", "OSError"),
   ("FileExistsError", "OSError"), ("FileNotFoundError", "OSError"),
   ("InterruptedError", "OSError"), ("IsADirectoryError", "OSError"),
   ("NotADirectoryError", "OSError"), ("PermissionError", "OSError"),
   ("ProcessLookupError", "OSError"), ("TimeoutError", "OSError"),
   ("BrokenPipeError", "ConnectionError"), ("ConnectionAbortedError", "ConnectionError"),
   ("ConnectionRefusedError", "ConnectionError"), ("ConnectionResetError", "ConnectionError"),
   ("NotImplementedError", "RuntimeError"), ("RecursionError", "RuntimeError"),
   ("IndentationError", "SyntaxError"), ("TabError", "IndentationError"),
   ("UnicodeError", "ValueError"), ("UnicodeDecodeError", "UnicodeError"),
   ("UnicodeEncodeError", "UnicodeError"), ("UnicodeTranslateError", "UnicodeError"),
   ("BytesWarning", "Warning"), ("DeprecationWarning", "Warning"), ("EncodingWarning", "Warning"),
   ("FutureWarning", "Warning"), ("ImportWarning", "Warning"),
   ("PendingDeprecationWarning", "Warning"), ("ResourceWarning", "Warning"),
   ("RuntimeWarning", "Warning"), ("SyntaxWarning", "Warning"), ("UnicodeWarning", "Warning"),
   ("UserWarning", "Warning")]

/-- Other names of a kind. -/
def aliases : List (String × String) := [("IOError", "OSError"), ("EnvironmentError", "OSError")]

/-- The kind a name stands for. -/
def canonical (name : String) : String := (aliases.lookup name).getD name

/-- The kind and the kinds above it, as far as `steps` lead. -/
def upward : (steps : Nat) → String → List String
  | 0, kind => [kind]
  | steps + 1, kind =>
    match parents.lookup kind with
    | some parent => kind :: upward steps parent
    | none => [kind]

/-- The kind and all kinds above it. No chain of parents is longer than five. -/
def chain (kind : String) : List String := upward 5 kind

/-- Whether `kind` is `above` or lies below it. -/
def isA (kind above : String) : Bool := (chain kind).contains above

/-- System error numbers that stand for a kind of their own. -/
def systemNumbers : List (Int × String) :=
  [(1, "PermissionError"), (2, "FileNotFoundError"), (3, "ProcessLookupError"),
   (4, "InterruptedError"), (10, "ChildProcessError"), (11, "BlockingIOError"),
   (13, "PermissionError"), (17, "FileExistsError"), (20, "NotADirectoryError"),
   (21, "IsADirectoryError"), (32, "BrokenPipeError"), (103, "ConnectionAbortedError"),
   (104, "ConnectionResetError"), (108, "BrokenPipeError"), (110, "TimeoutError"),
   (111, "ConnectionRefusedError"), (114, "BlockingIOError"), (115, "BlockingIOError")]

end FaultKind

end Vetting

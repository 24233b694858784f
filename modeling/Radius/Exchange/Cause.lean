import Radius.Packet.Error

/-!
# Causes of failures

A `Cause` is an error that a socket operation, or a step of the exchange itself, reports: its kind
and its arguments. System errors with an error number and a text are named by the number.
`Cause.message` is what the error says, and `Cause.quoted` shows its kind and arguments.
-/

namespace Radius

/-- The kinds of errors an exchange can meet. -/
inductive CauseKind where
  /-- An error of the operating system, under its name. -/
  | system (name : String)
  | badValue
  | missingKey
  | runtime
  | encode
  | decode
  deriving DecidableEq, Repr

/-- The name of a kind of error. -/
def CauseKind.name : CauseKind → String
  | system name => name
  | badValue => "ValueError"
  | missingKey => "KeyError"
  | runtime => "RuntimeError"
  | encode => "EncodeError"
  | decode => "DecodeError"

/-- The general system error. -/
def CauseKind.generalSystem : CauseKind := system "OSError"

/-- The names of system errors that have one of their own, by error number. -/
def systemErrorNames : List (Int × String) := [
  (1, "PermissionError"), (2, "FileNotFoundError"), (3, "ProcessLookupError"),
  (4, "InterruptedError"), (10, "ChildProcessError"), (11, "BlockingIOError"),
  (13, "PermissionError"), (17, "FileExistsError"), (20, "NotADirectoryError"),
  (21, "IsADirectoryError"), (32, "BrokenPipeError"), (103, "ConnectionAbortedError"),
  (104, "ConnectionResetError"), (108, "BrokenPipeError"), (110, "TimeoutError"),
  (111, "ConnectionRefusedError"), (114, "BlockingIOError"), (115, "BlockingIOError")]

/-- An error: its kind and the arguments it was made with. -/
structure Cause where
  kind : CauseKind
  arguments : List Value

namespace Cause

/-- A cause of a kind. A general system error with a known error number is the one of that name. -/
def create (kind : CauseKind) (arguments : List Value) : Cause :=
  match arguments with
  | [number, _] =>
    if kind = .generalSystem then
      match number.toInteger?.bind fun n => systemErrorNames.lookup n with
      | some name => ⟨.system name, arguments⟩
      | none => ⟨kind, arguments⟩
    else ⟨kind, arguments⟩
  | _ => ⟨kind, arguments⟩

/-- Whether the operating system reported the error. -/
def isSystem (c : Cause) : Bool :=
  match c.kind with
  | .system _ => true
  | _ => false

/-- The arguments in parentheses, with commas. -/
def argumentList (c : Cause) : String :=
  "(" ++ Value.commaList (Value.quotedList c.arguments) ++ ")"

/-- What the error says: nothing, its one argument, the error number and text of a system error, or
all arguments. A missing key is shown quoted. -/
def message (c : Cause) : String :=
  match c.arguments with
  | [] => ""
  | [a] => if c.kind = .missingKey then a.quoted else a.plain
  | [a, b] => if c.isSystem then "[Errno " ++ a.plain ++ "] " ++ b.plain else c.argumentList
  | _ => c.argumentList

/-- The kind and the arguments of the error. -/
def quoted (c : Cause) : String := c.kind.name ++ c.argumentList

/-- The cause that an encoding error is. -/
def ofEncodeError (e : EncodeError) : Cause := ⟨.encode, [.text e.message]⟩

/-- The cause that a decoding error is. -/
def ofDecodeError (e : DecodeError) : Cause := ⟨.decode, [.text e.message]⟩

end Cause

end Radius

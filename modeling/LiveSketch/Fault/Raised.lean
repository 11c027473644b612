import LiveSketch.Fault.Basic
import LiveSketch.Fault.Datum

/-!
# Faults by class and arguments

The fault that raising a class of the language with some arguments gives: its reach, and its words
by the rule of its class.
-/

namespace LiveSketch

/-- The classes of which an operating system's error takes one by its number. -/
def systemErrorClass (number : Int) : String :=
  if number == 1 || number == 13 then "PermissionError"
  else if number == 2 then "FileNotFoundError"
  else if number == 3 then "ProcessLookupError"
  else if number == 4 then "InterruptedError"
  else if number == 10 then "ChildProcessError"
  else if number == 11 || number == 114 || number == 115 then "BlockingIOError"
  else if number == 17 then "FileExistsError"
  else if number == 20 then "NotADirectoryError"
  else if number == 21 then "IsADirectoryError"
  else if number == 32 || number == 108 then "BrokenPipeError"
  else if number == 103 then "ConnectionAbortedError"
  else if number == 104 then "ConnectionResetError"
  else if number == 110 then "TimeoutError"
  else if number == 111 then "ConnectionRefusedError"
  else "OSError"

/-- The classes whose faults carry an error number, a text and a file. -/
def systemErrorClasses : List String :=
  ["OSError", "IOError", "EnvironmentError", "BlockingIOError", "ChildProcessError",
    "ConnectionError", "BrokenPipeError", "ConnectionAbortedError", "ConnectionRefusedError",
    "ConnectionResetError", "FileExistsError", "FileNotFoundError", "InterruptedError",
    "IsADirectoryError", "NotADirectoryError", "PermissionError", "ProcessLookupError",
    "TimeoutError"]

/-- Words by the common rule: nothing, the argument, or all arguments as a tuple. -/
def argumentWords : List Datum → String
  | [] => ""
  | [argument] => argument.plain
  | arguments => (Datum.tuple arguments).shown

/-- Words of an operating system's error, with its number and file when it has them. -/
def systemErrorWords : List Datum → String
  | [number, text] => "[Errno " ++ number.plain ++ "] " ++ text.plain
  | [number, text, file] | [number, text, file, _] =>
    "[Errno " ++ number.plain ++ "] " ++ text.plain ++ ": " ++ file.shown
  | [number, text, file, _, second] =>
    "[Errno " ++ number.plain ++ "] " ++ text.plain ++ ": " ++ file.shown ++ " -> " ++ second.shown
  | arguments => argumentWords arguments

/-- The words of a fault by its class: a missing key is shown quoted, an operating system's error
with its number. -/
def faultWords (type : String) (arguments : List Datum) : String :=
  if systemErrorClasses.contains type then systemErrorWords arguments
  else match type, arguments with
    | "KeyError", [key] => key.shown
    | _, _ => argumentWords arguments

/-- The name a class goes by; an operating system's error takes the class of its number. -/
def faultName (type : String) (arguments : List Datum) : String :=
  if type == "OSError" || type == "IOError" || type == "EnvironmentError" then
    match arguments with
    | .int number :: _ :: _ => systemErrorClass number
    | _ => "OSError"
  else type

/-- How far the faults of a class reach. -/
def faultReach (type : String) : Reach :=
  if type == "SystemExit" then .exit
  else if ["BaseException", "KeyboardInterrupt", "GeneratorExit", "BaseExceptionGroup"].contains type
  then .beyond
  else .ordinary

/-- The class whose faults have no words: asking for them fails. -/
def wordlessClass : String := "BrokenStr"

/-- The fault that raising `type` with `arguments` gives. -/
def raised (type : String) (arguments : List Datum) (cause : Option Fault) (frames : List Frame) :
    Fault :=
  let words := if type == wordlessClass then .error (.plain "ValueError" "str failed")
    else .ok (faultWords type arguments)
  .mk (faultName type arguments) (faultReach type) (type == "EntryPointInvocationError") words cause
    frames

end LiveSketch

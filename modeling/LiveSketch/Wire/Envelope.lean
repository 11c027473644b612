import LiveSketch.Studio.State
import LiveSketch.Wire.Read
import LiveSketch.Wire.Write

/-!
# Envelopes

An editor sends requests, which want an answer, and notifications, which do not. Each is an object
that names a method; an answer repeats the mark of its request.
-/

namespace LiveSketch.Wire

/-- What an editor asks for, by meaning. Requests carry the mark that their answer repeats. -/
inductive Incoming where
  | hello (mark : Datum)
  | ready
  /-- A document is open with this text, for the first time or after a change. -/
  | edited (address text : String)
  | closed (address : String)
  | command (mark : Datum) (name : String) (arguments : List Datum)
  | shutdown (mark : Datum)
  | exit
  | unknown (mark : Option Datum)
deriving Inhabited

def object (entries : List (String × Datum)) : Datum :=
  .dict (entries.map fun (name, value) => (.text name, value))

def entry? (name : String) : Datum → Option Datum
  | .dict entries => entries.findSome? fun
    | (.text s, value) => if s == name then some value else none
    | _ => none
  | _ => none

/-- The entry at the end of a path of names. -/
def entryAt? (path : List String) (d : Datum) : Option Datum :=
  path.foldlM (fun d name => entry? name d) d

/-- The text at the end of a path of names. -/
def textAt? (path : List String) (d : Datum) : Option String :=
  match entryAt? path d with
  | some (.text s) => some s
  | _ => none

/-- The text of the last change. Changes replace the whole text. -/
def changedText? (d : Datum) : Option String :=
  match entryAt? ["params", "contentChanges"] d with
  | some (.list changes) => changes.getLast?.bind (textAt? ["text"])
  | _ => none

/-- Reads what an editor asks for. -/
def Incoming.ofDatum (d : Datum) : Incoming :=
  let mark := entry? "id" d
  let address := (textAt? ["params", "textDocument", "uri"] d).getD ""
  match textAt? ["method"] d with
  | some "initialize" => .hello (mark.getD .none)
  | some "initialized" => .ready
  | some "textDocument/didOpen" =>
    .edited address ((textAt? ["params", "textDocument", "text"] d).getD "")
  | some "textDocument/didChange" => match changedText? d with
    | some text => .edited address text
    | none => .unknown mark
  | some "textDocument/didClose" => .closed address
  | some "workspace/executeCommand" =>
    let arguments := match entryAt? ["params", "arguments"] d with
      | some (.list items) => items
      | _ => []
    .command (mark.getD .none) ((textAt? ["params", "command"] d).getD "") arguments
  | some "shutdown" => .shutdown (mark.getD .none)
  | some "exit" => .exit
  | _ => .unknown mark

/-! ## Outgoing -/

def answer (mark result : Datum) : Datum :=
  object [("jsonrpc", .text "2.0"), ("id", mark), ("result", result)]

/-- The answer to a request that failed. -/
def failure (mark : Datum) (code : Int) (words : String) : Datum :=
  object [("jsonrpc", .text "2.0"), ("id", mark),
    ("error", object [("code", .int code), ("message", .text words)])]

def notification (method : String) (params : Datum) : Datum :=
  object [("jsonrpc", .text "2.0"), ("method", .text method), ("params", params)]

def placeData (place : Nat × Nat) : Datum :=
  object [("line", .int place.1), ("character", .int place.2)]

def reportData (r : EditorReport) : Datum :=
  object ([("range", object [("start", placeData r.start), ("end", placeData r.stop)]),
    ("message", .text r.message)] ++
    (r.severity.map fun n => ("severity", Datum.int n)).toList ++
    [("source", .text reportSource)])

/-- A line for the user: 1 is an error, 2 a warning, 3 information. -/
def lineData (level : Int) (text : String) : Datum :=
  object [("type", .int level), ("message", .text text)]

/-- What the editor is sent for a message; `directory` is where previews are kept. -/
def outgoing (directory : FilePath) : Message → List Datum
  | .status address mode => [notification "fiddle/status"
      (object [("uri", .text address), ("mode", .text mode.name), ("text", .text mode.statusText)])]
  | .reports address reports => [notification "textDocument/publishDiagnostics"
      (object [("uri", .text address), ("diagnostics", .list (reports.map reportData))])]
  | .preview address name _ width height => [notification "fiddle/preview"
      (object [("uri", .text address), ("path", .text (directory.child name).text),
        ("width", .int width), ("height", .int height)])]
  | .alert text => [notification "window/showMessage" (lineData 1 text)]
  | .note .warning text => [notification "window/logMessage" (lineData 2 text)]
  | .note .info text => [notification "window/logMessage" (lineData 3 text)]
  | .log _ | .ended _ _ => []

/-- What the program can do: texts are sent as a whole, and these commands can be given. -/
def abilities (commands : List String) : Datum :=
  object [("capabilities", object
    [("textDocumentSync", object [("openClose", .bool true), ("change", .int 1)]),
      ("executeCommandProvider", object [("commands", .list (commands.map .text))])])]

/-- A message with its length in front. -/
def framed (d : Datum) : String :=
  let body := written d
  "Content-Length: " ++ toString body.utf8ByteSize ++ "\r\n\r\n" ++ body

/-- The length that a line in front of a message says. -/
def lengthIn? (line : String) : Option Nat :=
  let name := "content-length:"
  let line := line.toLower
  if line.startsWith name then
    let digits := ((line.toList.drop name.length).dropWhile isGap).takeWhile Char.isDigit
    if digits.isEmpty then none else some (numberOf digits)
  else none

end LiveSketch.Wire

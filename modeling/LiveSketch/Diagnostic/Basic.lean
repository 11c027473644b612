import LiveSketch.Text.Source

/-!
# Diagnostics

A `Finding` is what one phase of a compile reports, with whatever place the phase gave. A
`Diagnostic` is what a reader sees: a severity, a message and a place inside the text.

`Finding.locate` moves one to the other; `sortDiagnostics` lists the worst first and is stable.
-/

namespace LiveSketch

/-- The name under which a script's own code is known in findings and fault frames. -/
def unitFile : String := "<drawing>"

/-- How bad a diagnostic is. `other` is a severity that no table knows. -/
inductive Severity where
  | silent | info | warning | error
  | other (name : String)
deriving DecidableEq, Repr, Inhabited

/-- The level at which a phase reports. `other` is a level that no table knows. -/
inductive Level where
  | hidden | info | warning | error
  | other (name : String)
deriving DecidableEq, Repr, Inhabited

namespace Severity

def word : Severity → String
  | silent => "none"
  | info => "info"
  | warning => "warning"
  | error => "error"
  | other name => name

def ofWord : String → Severity
  | "none" => silent
  | "info" => info
  | "warning" => warning
  | "error" => error
  | name => other name

/-- The place of a severity in a list, the worst first. -/
def rank : Severity → Nat
  | error => 0
  | warning => 1
  | info => 2
  | silent => 3
  | other _ => 4

end Severity

namespace Level

def word : Level → String
  | hidden => "HIDDEN"
  | info => "INFO"
  | warning => "WARNING"
  | error => "ERROR"
  | other name => name

def ofWord : String → Level
  | "HIDDEN" => hidden
  | "INFO" => info
  | "WARNING" => warning
  | "ERROR" => error
  | name => other name

/-- What a reader sees of a level: hidden and unknown ones are silent. -/
def severity : Level → Severity
  | info => .info
  | warning => .warning
  | error => .error
  | hidden | other _ => .silent

end Level

/-- What a phase of a compile reports. A finding without a start, or in another file, has no place
in the text. -/
structure Finding where
  code : String
  level : Level
  text : String
  start : Option Int
  stop : Option Int
  file : Option String
deriving DecidableEq, Repr, Inhabited

/-- What a reader is shown. Offsets are character offsets, `line` is 1-based and 0 when unknown. -/
structure Diagnostic where
  severity : Severity
  message : String
  start : Int
  stop : Int
  line : Int
deriving DecidableEq, Repr, Inhabited

namespace Finding

/-- A finding of this script's own code at a span. -/
def ofSpan (code : String) (level : Level) (text : String) (span : Nat × Nat) : Finding :=
  ⟨code, level, text, some span.1, some span.2, some unitFile⟩

/-- The finding has a place in this script's own text. -/
def inSource (f : Finding) : Bool := f.file == some unitFile && f.start.isSome

/-- The finding as a reader sees it: both ends moved into the text, the end not before the start,
and the line of the start. -/
def locate (f : Finding) (s : Source) : Diagnostic :=
  let severity := f.level.severity
  let start := s.clamp (f.start.getD 0)
  let stop := s.clamp (f.stop.getD start)
  { severity
    message := severity.word ++ " " ++ f.code ++ ": " ++ f.text
    start := start
    stop := max start stop
    line := s.lineOf start }

end Finding

namespace Diagnostic

def isError (d : Diagnostic) : Bool := d.severity == .error

/-- The message with its line number in front. -/
def display (d : Diagnostic) : String := "[" ++ toString d.line ++ "] " ++ d.message

/-- An error without a place. -/
def fault (message : String) (line : Int) : Diagnostic := ⟨.error, message, 0, 0, line⟩

/-- The first goes before or beside the second: by severity, the worst first, then by start. -/
def precedes (a b : Diagnostic) : Bool :=
  a.severity.rank < b.severity.rank ||
    (a.severity.rank == b.severity.rank && a.start ≤ b.start)

end Diagnostic

/-- The diagnostics in reading order; equals keep their order. -/
def sortDiagnostics (ds : List Diagnostic) : List Diagnostic := ds.mergeSort Diagnostic.precedes

end LiveSketch

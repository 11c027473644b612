import LiveSketch.Compile.Program
import LiveSketch.Diagnostic.Basic
import LiveSketch.Text.Classes

/-!
# Findings of the language

How a malformed text and a warning become findings with character offsets.
-/

namespace LiveSketch

/-- The unit in which columns are counted. -/
inductive ColumnUnit where
  | characters | bytes
deriving DecidableEq, Repr, Inhabited

/-- The offset of a 1-based line and a 0-based column in a unit. -/
def Source.locate (s : Source) (unit : ColumnUnit) (line column : Int) : Nat :=
  match unit with
  | .characters => s.offset line column
  | .bytes => s.offsetOfBytes line column

def known? : Option Int → Option Int
  | some 0 => none
  | n => n

namespace Malformed

/-- Start and end offset. A missing line or column is the first; without a complete end, or with an
end before the start, the span is empty. -/
def offsets (e : Malformed) (s : Source) (unit : ColumnUnit) : Nat × Nat :=
  let start := s.locate unit ((known? e.line).getD 1) ((known? e.column).getD 1 - 1)
  match known? e.endLine, known? e.endColumn with
  | some line, some column =>
    if 0 < column then (start, max start (s.locate unit line (column - 1))) else (start, start)
  | _, _ => (start, start)

def finding (e : Malformed) (s : Source) (unit : ColumnUnit) : Finding :=
  let span := e.offsets s unit
  { code := "E0001"
    level := .error
    text := e.message
    start := some span.1
    stop := some span.2
    file := some (e.file.getD unitFile) }

end Malformed

/-- The categories of warnings that become findings. -/
def capturedCategories : List String :=
  ["SyntaxWarning", "DerivedSyntaxWarning", "DeprecationWarning"]

namespace Warning

/-- The finding of a warning covers its line from the first character that is not blank. -/
def finding (w : Warning) (s : Source) : Finding :=
  let line := if w.line = 0 then 1 else w.line
  let (start, stop) := s.lineSpan line
  { code := "W0001"
    level := .warning
    text := w.message
    start := some (start + indentation (s.slice start stop) : Nat)
    stop := some stop
    file := some w.file }

end Warning

/-- The findings of those warnings that are captured. -/
def warningFindings (ws : List Warning) (s : Source) : List Finding :=
  (ws.filter fun w => capturedCategories.contains w.category).map (Warning.finding · s)

end LiveSketch

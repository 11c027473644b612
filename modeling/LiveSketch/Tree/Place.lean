import LiveSketch.Text.Source
import LiveSketch.Tree.Node

/-!
# Places of nodes in a text

A node's span counts lines from 1 and columns in UTF-8 bytes; a finding needs character offsets.
-/

namespace LiveSketch

namespace Span

/-- The span of a node that was never written. -/
def unknown : Span := ⟨none, none, none, none⟩

/-- Start and end offset of a span. A missing line is the first, a missing column 0, and without a
complete end the span is empty. -/
def offsets (p : Span) (s : Source) : Nat × Nat :=
  let start := s.offsetOfBytes (p.line.getD 1) (p.column.getD 0)
  match p.endLine, p.endColumn with
  | some line, some column => (start, max start (s.offsetOfBytes line column))
  | _, _ => (start, start)

end Span

end LiveSketch

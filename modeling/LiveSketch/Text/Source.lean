import LiveSketch.Arithmetic

/-!
# Source text

An immutable snapshot of a script, and the addresses into it: character offsets, 1-based lines with
character or UTF-8 columns, and the 0-based line with a UTF-16 column that an editor uses.

Only a line feed starts a new line.  Every function clamps: whatever address comes in, the offset
that goes out lies in the text.
-/

namespace LiveSketch

/-- A snapshot of a script. Offsets count characters from 0. -/
structure Source where
  chars : List Char
deriving DecidableEq, Repr, Inhabited

/-! ## Lengths in other units -/

/-- The number of UTF-8 bytes of a run of characters. -/
def utf8Length (cs : List Char) : Nat :=
  (cs.map Char.utf8Size).sum

/-- The number of UTF-16 code units of a run of characters. -/
def utf16Length (cs : List Char) : Nat :=
  (cs.map fun c => if c.val ≤ 0xFFFF then 1 else 2).sum

/-- How many leading characters fit into `budget` UTF-8 bytes. -/
def charsWithin (budget : Nat) : List Char → Nat
  | [] => 0
  | c :: rest =>
    if c.utf8Size ≤ budget then charsWithin (budget - c.utf8Size) rest + 1 else 0

/-! ## Lines -/

/-- The offsets just after each line feed, for a run of characters that starts at `offset`. -/
def startsAfterFeeds (offset : Nat) : List Char → List Nat
  | [] => []
  | c :: rest =>
    if c = '\n' then (offset + 1) :: startsAfterFeeds (offset + 1) rest
    else startsAfterFeeds (offset + 1) rest

namespace Source

def ofString (text : String) : Source := ⟨text.toList⟩

def text (s : Source) : String := String.ofList s.chars

def length (s : Source) : Nat := s.chars.length

def slice (s : Source) (start stop : Nat) : List Char :=
  (s.chars.drop start).take (stop - start)

/-- The offset at which each line starts; the first line starts at 0. -/
def lineStarts (s : Source) : List Nat := 0 :: startsAfterFeeds 0 s.chars

/-- The number of lines, at least one. -/
def lineCount (s : Source) : Nat := s.lineStarts.length

/-- The nearest offset inside the text. -/
def clamp (s : Source) (offset : Int) : Nat := min offset.toNat s.length

/-- The nearest existing 1-based line. -/
def clampLine (s : Source) (line : Int) : Nat := (min (max line 1) s.lineCount).toNat

/-- Start and end of a 1-based line without its line break: the line feed and one carriage return
before it are left out. -/
def lineSpan (s : Source) (line : Int) : Nat × Nat :=
  let index := s.clampLine line - 1
  let start := s.lineStarts.getD index 0
  let stop := match s.lineStarts[index + 1]? with
    | some next => next - 1
    | none => s.length
  if start < stop ∧ s.chars[stop - 1]? = some '\r' then (start, stop - 1) else (start, stop)

/-- The characters of a 1-based line without its line break. -/
def lineChars (s : Source) (line : Int) : List Char :=
  s.slice (s.lineSpan line).1 (s.lineSpan line).2

/-- The text of a 1-based line without its line break. -/
def lineText (s : Source) (line : Int) : String := String.ofList (s.lineChars line)

/-! ## Addresses -/

/-- The offset of a 1-based line and a 0-based character column. A line before the first is the
start of the text and one after the last its end; a column stops at the end of its line. -/
def offset (s : Source) (line column : Int) : Nat :=
  if line < 1 then 0
  else if (s.lineCount : Int) < line then s.length
  else min ((s.lineSpan line).1 + column.toNat) (s.lineSpan line).2

/-- The offset of a 1-based line and a 0-based UTF-8 column; a column inside a character is that
character's start. -/
def offsetOfBytes (s : Source) (line byteColumn : Int) : Nat :=
  s.offset line (charsWithin byteColumn.toNat (s.lineChars line))

/-- The 1-based line that holds an offset. -/
def lineOf (s : Source) (offset : Int) : Nat :=
  s.lineStarts.countP (· ≤ s.clamp offset)

/-- The 0-based line and UTF-16 column of an offset, as an editor addresses text. -/
def position (s : Source) (offset : Int) : Nat × Nat :=
  let offset := s.clamp offset
  let line := s.lineOf offset
  let start := s.lineStarts.getD (line - 1) 0
  (line - 1, utf16Length (s.slice start offset))

end Source

end LiveSketch

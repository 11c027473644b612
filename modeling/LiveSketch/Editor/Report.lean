import LiveSketch.Diagnostic.Basic
import LiveSketch.Fault.Basic

/-!
# Diagnostics for an editor

An editor addresses text by 0-based lines and UTF-16 columns. A diagnostic without offsets is shown
on the whole of its line.

A text that an editor sends can hold one half of a surrogate pair without the other. It counts as a
character, but there is no column behind it on its line, for a half alone cannot be encoded.
-/

namespace LiveSketch

/-- A diagnostic as an editor shows it. The severity is 1 for errors, 2 for warnings and 3 for
information; others have none. -/
structure EditorReport where
  start : Nat × Nat
  stop : Nat × Nat
  message : String
  severity : Option Nat
deriving DecidableEq, Repr, Inhabited

/-- The name that the reports are signed with. -/
def reportSource : String := "fiddle"

def Severity.editorNumber : Severity → Option Nat
  | .error => some 1
  | .warning => some 2
  | .info => some 3
  | .silent | .other _ => none

namespace Diagnostic

def markedSpan (d : Diagnostic) (s : Source) : Int × Int :=
  if d.start = 0 ∧ d.stop = 0 ∧ 0 < d.line then
    ((s.lineSpan d.line).1, (s.lineSpan d.line).2)
  else (d.start, d.stop)

def editorReport (d : Diagnostic) (s : Source) : EditorReport :=
  let span := d.markedSpan s
  ⟨s.position span.1, s.position span.2, d.message, d.severity.editorNumber⟩

end Diagnostic

/-- What an editor is sent: every diagnostic that has a severity. -/
def editorReports (ds : List Diagnostic) (s : Source) : List EditorReport :=
  (ds.filter fun d => d.severity != .silent).map (Diagnostic.editorReport · s)

/-! ## Texts as they are sent -/

/-- What a text is made of as it is sent: characters, and halves of surrogate pairs that stand alone,
numbered from the first one. -/
inductive SentUnit where
  | char (c : Char)
  | half (k : Fin 0x800)
deriving DecidableEq, Repr, Inhabited

/-- A text as an editor sends it. -/
structure SentText where
  units : List SentUnit
deriving DecidableEq, Repr, Inhabited

/-- The character, or another one in place of the half. -/
def SentUnit.shape : SentUnit → Char
  | char c => c
  | half _ => Char.ofNat 0xFFFD

/-- The first half in a row, and the place where it stands if the row begins at `place`. -/
def firstHalf : (place : Nat) → List SentUnit → Option (Nat × Fin 0x800)
  | _, [] => none
  | place, .half k :: _ => some (place, k)
  | place, .char _ :: us => firstHalf (place + 1) us

/-- The fault of encoding a row with a half in it. -/
def notEncodable (place : Nat) (k : Fin 0x800) : Fault :=
  let digits := String.ofList (Nat.toDigits 16 (0xD800 + k))
  .plain "UnicodeEncodeError" ("'utf-16-le' codec can't encode character '\\u" ++ digits ++
    "' in position " ++ toString place ++ ": surrogates not allowed")

namespace SentText

/-- The text with another character for each half, which has the same lines and offsets. -/
def shape (t : SentText) : Source := ⟨t.units.map SentUnit.shape⟩

/-- What stands in front of an offset on its line. -/
def before (t : SentText) (offset : Int) : List SentUnit :=
  let offset := t.shape.clamp offset
  let start := t.shape.lineStarts.getD (t.shape.lineOf offset - 1) 0
  (t.units.drop start).take (offset - start)

/-- The line and the UTF-16 column of an offset, if the line can be encoded up to it. -/
def position (t : SentText) (offset : Int) : Except Fault (Nat × Nat) :=
  match firstHalf 0 (t.before offset) with
  | some (place, k) => .error (notEncodable place k)
  | none => .ok (t.shape.position offset)

end SentText

def Source.sent (s : Source) : SentText := ⟨s.chars.map .char⟩

/-- The diagnostic as an editor shows it in a text that it sent. -/
def Diagnostic.sentReport (d : Diagnostic) (t : SentText) : Except Fault EditorReport := do
  let span := d.markedSpan t.shape
  let start ← t.position span.1
  let stop ← t.position span.2
  return ⟨start, stop, d.message, d.severity.editorNumber⟩

end LiveSketch

import LiveSketch.Compile.Findings
import LiveSketch.Proofs.Text.Lines

/-!
# Where a malformed text is reported

Whoever reads a text counts columns in characters, whoever generates code from it in UTF-8 bytes.
The column of a character in either unit leads to that character (`Source.locate_columnIn`), and no
address leads out of the text (`Source.locate_le_length`). So a fault between two characters of a
text has one place, whichever phase finds it (`Malformed.located_alike`).
-/

namespace LiveSketch

variable {s : Source}

namespace Source

/-- The 0-based column in a unit of the character with so many characters before it on its line. -/
def columnIn (s : Source) (unit : ColumnUnit) (line : Int) (column : Nat) : Nat :=
  match unit with
  | .characters => column
  | .bytes => utf8Length ((s.lineChars line).take column)

/-- The column of a character, in characters or in bytes, leads to that character. -/
theorem locate_columnIn (unit : ColumnUnit) {index start column : Nat}
    (hstart : s.lineStarts[index]? = some start)
    (hcolumn : column ≤ (s.lineChars (index + 1)).length) :
    s.locate unit (index + 1) (s.columnIn unit (index + 1) column) = start + column := by
  obtain ⟨hcount, hfirst⟩ := lineSpan_of_lineStarts hstart
  have hoffset : s.offset (index + 1) column = start + column := by
    rw [offset_of_le_length (by omega) hcount hcolumn, hfirst]
  cases unit with
  | characters => exact hoffset
  | bytes =>
    unfold locate columnIn offsetOfBytes
    dsimp only
    rw [Int.toNat_natCast, charsWithin_utf8Length_take hcolumn]
    exact hoffset

theorem offset_le_length (line column : Int) : s.offset line column ≤ s.length := by
  obtain ⟨-, -, hstop, -⟩ := s.lineSpan_bounds line
  unfold offset
  split
  · exact Nat.zero_le _
  · split
    · exact Nat.le_refl _
    · exact Nat.le_trans (Nat.min_le_right _ _) hstop

theorem locate_le_length (unit : ColumnUnit) (line column : Int) :
    s.locate unit line column ≤ s.length := by
  cases unit with
  | characters => exact offset_le_length line column
  | bytes => exact offset_le_length line _

end Source

namespace Malformed

/-- A place whose numbers are all known and not 0 is what they lead to, the end not before the
start. -/
theorem offsets_of_known {e : Malformed} {unit : ColumnUnit} {line column line' column' : Int}
    (hline : known? e.line = some line) (hcolumn : known? e.column = some column)
    (hline' : known? e.endLine = some line') (hcolumn' : known? e.endColumn = some column')
    (hpos : 0 < column') :
    e.offsets s unit = (s.locate unit line (column - 1),
      max (s.locate unit line (column - 1)) (s.locate unit line' (column' - 1))) := by
  unfold offsets
  rw [hline, hcolumn, hline', hcolumn']
  dsimp only [Option.getD_some]
  rw [if_pos hpos]

/-- Whatever is known of a place, its start is not behind its end, and its end is in the text. -/
theorem offsets_bounds (e : Malformed) (s : Source) (unit : ColumnUnit) :
    (e.offsets s unit).1 ≤ (e.offsets s unit).2 ∧ (e.offsets s unit).2 ≤ s.length := by
  have hstart := s.locate_le_length unit ((known? e.line).getD 1) ((known? e.column).getD 1 - 1)
  unfold offsets
  dsimp only
  split
  · rename_i line column _ _
    split
    · exact ⟨Nat.le_max_left _ _, Nat.max_le.mpr ⟨hstart, s.locate_le_length _ _ _⟩⟩
    · exact ⟨Nat.le_refl _, hstart⟩
  · exact ⟨Nat.le_refl _, hstart⟩

/-- A fault with columns in a unit, from one character up to another. Lines are given by index, as
all of it is told from 1. -/
def between (s : Source) (unit : ColumnUnit) (message : String) (file : Option String)
    (index column index' column' : Nat) : Malformed where
  message := message
  line := some (index + 1)
  column := some (s.columnIn unit (index + 1) column + 1)
  endLine := some (index' + 1)
  endColumn := some (s.columnIn unit (index' + 1) column' + 1)
  file := file

theorem known?_succ (n : Nat) : known? (some ((n : Int) + 1)) = some ((n : Int) + 1) := by
  unfold known?
  split
  · rename_i h
    have := Option.some.inj h
    omega
  · rfl

theorem offsets_between (unit : ColumnUnit) (message : String) (file : Option String)
    {index start column index' start' column' : Nat}
    (hstart : s.lineStarts[index]? = some start)
    (hcolumn : column ≤ (s.lineChars (index + 1)).length)
    (hstart' : s.lineStarts[index']? = some start')
    (hcolumn' : column' ≤ (s.lineChars (index' + 1)).length) :
    (between s unit message file index column index' column').offsets s unit =
      (start + column, max (start + column) (start' + column')) := by
  rw [offsets_of_known (known?_succ _) (known?_succ _) (known?_succ _) (known?_succ _) (by omega),
    Int.add_sub_cancel, Int.add_sub_cancel, Source.locate_columnIn unit hstart hcolumn,
    Source.locate_columnIn unit hstart' hcolumn']

theorem finding_of_offsets {e : Malformed} {unit : ColumnUnit} {start stop : Nat}
    (h : e.offsets s unit = (start, stop)) :
    e.finding s unit =
      ⟨"E0001", .error, e.message, some start, some stop, some (e.file.getD unitFile)⟩ := by
  unfold finding
  rw [h]

/-- **Places of malformed texts.** A fault from one character up to another is reported from the
first to the second, or where it starts if the second is not behind it, and with columns in bytes
just as with columns in characters. Whatever else is known of a place, in either unit it is reported
inside of the text, the start not behind the end. -/
theorem located_alike (s : Source) :
    (∀ (message : String) (file : Option String) (index start column index' start' column' : Nat),
      s.lineStarts[index]? = some start → column ≤ (s.lineChars (index + 1)).length →
      s.lineStarts[index']? = some start' → column' ≤ (s.lineChars (index' + 1)).length →
      ∀ unit, (between s unit message file index column index' column').finding s unit =
        ⟨"E0001", .error, message, some (start + column : Nat),
          some (max (start + column) (start' + column') : Nat), some (file.getD unitFile)⟩) ∧
    ∀ (e : Malformed) (unit : ColumnUnit), ∃ start stop : Nat,
      e.finding s unit =
        ⟨"E0001", .error, e.message, some start, some stop, some (e.file.getD unitFile)⟩ ∧
        start ≤ stop ∧ stop ≤ s.length := by
  refine ⟨fun message file index start column index' start' column' hstart hcolumn hstart'
    hcolumn' unit => ?_, fun e unit => ?_⟩
  · exact finding_of_offsets (offsets_between unit message file hstart hcolumn hstart' hcolumn')
  · exact ⟨_, _, finding_of_offsets rfl, e.offsets_bounds s unit⟩

/-! ### A fault over two lines -/

/-- Two lines whose characters are of one, two and four bytes. -/
def accented : Source := .ofString "né\r\n😀x"

/-- From behind the accent up to behind the emoji, in characters and in bytes. -/
theorem located_accented :
    (accented.lineStarts[0]? = some 0 ∧ 2 ≤ (accented.lineChars 1).length) ∧
      (accented.lineStarts[1]? = some 4 ∧ 1 ≤ (accented.lineChars 2).length) ∧
      Malformed.finding ⟨"bad", some 1, some 3, some 2, some 2, none⟩ accented .characters =
        ⟨"E0001", .error, "bad", some 2, some 5, some unitFile⟩ ∧
      Malformed.finding ⟨"bad", some 1, some 4, some 2, some 5, none⟩ accented .bytes =
        ⟨"E0001", .error, "bad", some 2, some 5, some unitFile⟩ := by
  have hfirst : accented.lineStarts[0]? = some 0 ∧ 2 ≤ (accented.lineChars 1).length := by decide
  have hsecond : accented.lineStarts[1]? = some 4 ∧ 1 ≤ (accented.lineChars 2).length := by decide
  have hplace := (located_alike accented).1 "bad" none 0 0 2 1 4 1 hfirst.1 hfirst.2 hsecond.1
    hsecond.2
  exact ⟨hfirst, hsecond, hplace .characters, hplace .bytes⟩

end Malformed

end LiveSketch

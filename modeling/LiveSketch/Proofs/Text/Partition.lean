import LiveSketch.Proofs.Text.Lines
import Mathlib.Data.List.Basic
import Mathlib.Order.Monotone.Basic

/-!
# The lines make up the text

A line of a text and its break go from the start of the line up to the start of the next one:

1. there is one line more than there are line feeds (`Source.lineCount_eq`);
2. a line feed ends each line but the last one, with one carriage return in front of it or none
   (`Source.breakAfter_of_lt`), and at most one carriage return ends the last one
   (`Source.breakAfter_lineCount`);
3. slices that follow each other make up the slice from the first start to the last end
   (`Source.flatMap_slices`), so lines and breaks in turn make up the text
   (`Source.flatMap_lines`).

Inside of a line an offset and a column lead to each other (`Source.offset_lineOf`,
`Source.lineOf_offset`).
-/

namespace LiveSketch

namespace Source

variable {s : Source}

/-! ## Line feeds -/

theorem lineCount_eq (s : Source) : s.lineCount = 1 + s.chars.count '\n' := by
  unfold lineCount lineStarts
  rw [List.length_cons, length_startsAfterFeeds, Nat.add_comm]

theorem feed_of_lineStarts_succ {index next : Nat} (h : s.lineStarts[index + 1]? = some next) :
    ∃ feed, next = feed + 1 ∧ s.chars[feed]? = some '\n' := by
  have hmem : next ∈ startsAfterFeeds 0 s.chars := List.mem_of_getElem? h
  obtain ⟨feed, hget, rfl⟩ := mem_startsAfterFeeds_iff.mp hmem
  exact ⟨feed, by omega, hget⟩

/-! ## Starts -/

/-- The offset at which the line with an index starts; lines that do not exist start at the end of
the text. -/
def startOf (s : Source) (index : Nat) : Nat := s.lineStarts.getD index s.length

theorem startOf_zero (s : Source) : s.startOf 0 = 0 := rfl

theorem startOf_of_le {index : Nat} (h : s.lineCount ≤ index) : s.startOf index = s.length := by
  unfold startOf
  rw [List.getD_eq_getElem?_getD, List.getElem?_eq_none h, Option.getD_none]

theorem lineStarts_of_lt {index : Nat} (h : index < s.lineCount) :
    s.lineStarts[index]? = some (s.startOf index) := by
  have hlt : index < s.lineStarts.length := h
  unfold startOf
  rw [List.getD_eq_getElem?_getD, List.getElem?_eq_getElem hlt, Option.getD_some]

theorem monotone_startOf (s : Source) : Monotone s.startOf := by
  refine monotone_nat_of_le_succ fun index => ?_
  by_cases hnext : index + 1 < s.lineCount
  · obtain ⟨hlt, hstart⟩ := List.getElem?_eq_some_iff.mp (lineStarts_of_lt (Nat.lt_of_succ_lt hnext))
    obtain ⟨hlt', hstart'⟩ := List.getElem?_eq_some_iff.mp (lineStarts_of_lt hnext)
    rw [← hstart, ← hstart']
    exact Nat.le_of_lt
      (List.pairwise_iff_getElem.mp s.pairwise_lineStarts index (index + 1) hlt hlt' (by omega))
  · rw [startOf_of_le (Nat.le_of_not_lt hnext)]
    by_cases hlast : index < s.lineCount
    · exact s.le_length_of_mem_lineStarts (List.mem_of_getElem? (lineStarts_of_lt hlast))
    · rw [startOf_of_le (Nat.le_of_not_lt hlast)]

theorem lineSpan_fst {index : Nat} (h : index < s.lineCount) :
    (s.lineSpan (index + 1)).1 = s.startOf index :=
  (lineSpan_of_lineStarts (lineStarts_of_lt h)).2

/-! ## Breaks -/

/-- What stands between the span of a 1-based line and the next line, or the end of the text. -/
def breakAfter (s : Source) (line : Int) : List Char :=
  s.slice (s.lineSpan line).2
    (if line < s.lineCount then (s.lineSpan (line + 1)).1 else s.length)

theorem breakAfter_eq {index : Nat} (h : index < s.lineCount) :
    s.breakAfter (index + 1) = s.slice (s.lineSpan (index + 1)).2 (s.startOf (index + 1)) := by
  unfold breakAfter
  by_cases hnext : index + 1 < s.lineCount
  · rw [if_pos (by omega), ← lineSpan_fst hnext]
    rfl
  · rw [if_neg (by omega), startOf_of_le (Nat.le_of_not_lt hnext)]

/-- From the end of a span to that of its line there is nothing or a carriage return. -/
theorem slice_lineSpan_stop (s : Source) (line : Int) :
    let stop := (s.lineSpan line).2
    let rest := s.slice stop (s.lineEnd (s.clampLine line))
    stop ≤ s.lineEnd (s.clampLine line) ∧ (rest = [] ∨ rest = ['\r']) := by
  dsimp only
  rcases s.lineSpan_stop line with hstop | ⟨hstop, hreturn⟩
  · rw [hstop]
    exact ⟨Nat.le_refl _, .inl (s.slice_self _)⟩
  · rw [← hstop, slice_succ (Nat.le_refl _) hreturn, slice_self]
    exact ⟨Nat.le_succ _, .inr rfl⟩

theorem breakAfter_of_lt {line : Int} (h : 1 ≤ line) (h' : line < s.lineCount) :
    s.breakAfter line = ['\n'] ∨ s.breakAfter line = ['\r', '\n'] := by
  obtain ⟨index, rfl⟩ : ∃ index : Nat, line = index + 1 := ⟨(line - 1).toNat, by omega⟩
  have hlt : index < s.lineCount := by omega
  have hlt' : index + 1 < s.lineCount := by omega
  obtain ⟨feed, hnext, hfeed⟩ := feed_of_lineStarts_succ (lineStarts_of_lt hlt')
  have hend : s.lineEnd (index + 1) = feed := by
    unfold lineEnd
    rw [lineStarts_of_lt hlt', hnext]
    rfl
  obtain ⟨hle, hrest⟩ := s.slice_lineSpan_stop (index + 1)
  rw [clampLine_succ hlt, hend] at hle hrest
  rw [breakAfter_eq hlt, hnext, slice_succ hle hfeed]
  rcases hrest with hrest | hrest
  · rw [hrest]
    exact .inl rfl
  · rw [hrest]
    exact .inr rfl

theorem breakAfter_lineCount (s : Source) :
    s.breakAfter s.lineCount = [] ∨ s.breakAfter s.lineCount = ['\r'] := by
  have hclamp : s.clampLine s.lineCount = s.lineCount :=
    clampLine_natCast s.lineCount_pos (Nat.le_refl _)
  have hend : s.lineEnd s.lineCount = s.length := by
    have hnone : s.lineStarts[s.lineCount]? = none := List.getElem?_eq_none (Nat.le_refl _)
    unfold lineEnd
    rw [hnone]
  obtain ⟨-, hrest⟩ := s.slice_lineSpan_stop s.lineCount
  rw [hclamp, hend] at hrest
  unfold breakAfter
  rwa [if_neg (Int.lt_irrefl _)]

/-! ## The whole text -/

theorem flatMap_slices (s : Source) {cut : Nat → Nat} (hcut : Monotone cut) (n : Nat) :
    ((List.range n).flatMap fun i => s.slice (cut i) (cut (i + 1))) =
      s.slice (cut 0) (cut n) := by
  induction n with
  | zero => exact (s.slice_self _).symm
  | succ n ih =>
    rw [List.range_succ, List.flatMap_append, ih, List.flatMap_singleton,
      slice_append_slice (hcut (Nat.zero_le n)) (hcut (Nat.le_succ n))]

theorem lineChars_append_breakAfter {index : Nat} (h : index < s.lineCount) :
    s.lineChars (index + 1) ++ s.breakAfter (index + 1) =
      s.slice (s.startOf index) (s.startOf (index + 1)) := by
  have hfirst := lineSpan_fst h
  obtain ⟨-, hle, hstop, hnext⟩ := s.lineSpan_bounds (index + 1)
  have hup : (s.lineSpan (index + 1)).2 ≤ s.startOf (index + 1) := by
    by_cases hlt : index + 1 < s.lineCount
    · refine Nat.le_of_lt (hnext _ ?_)
      rw [clampLine_succ h]
      exact lineStarts_of_lt hlt
    · rwa [startOf_of_le (Nat.le_of_not_lt hlt)]
  unfold lineChars
  rw [breakAfter_eq h, slice_append_slice hle hup, hfirst]

theorem flatMap_lines (s : Source) :
    ((List.range s.lineCount).flatMap fun i : Nat => s.lineChars (i + 1) ++ s.breakAfter (i + 1)) =
      s.chars := by
  have hlines : ((List.range s.lineCount).flatMap fun i : Nat =>
      s.lineChars (i + 1) ++ s.breakAfter (i + 1)) =
        (List.range s.lineCount).flatMap fun i => s.slice (s.startOf i) (s.startOf (i + 1)) :=
    List.flatMap_congr fun i hi => lineChars_append_breakAfter (List.mem_range.mp hi)
  rw [hlines, s.flatMap_slices s.monotone_startOf, startOf_zero, startOf_of_le (Nat.le_refl _)]
  unfold slice Source.length
  rw [List.drop_zero, Nat.sub_zero, List.take_length]

/-! ## Offsets and columns -/

/-- The column of an offset leads back to it, from inside of the break to the end of the line. -/
theorem offset_lineOf {offset : Nat} (ho : offset ≤ s.length) :
    s.offset (s.lineOf offset) (offset - (s.lineSpan (s.lineOf offset)).1 : Int) =
      min offset (s.lineSpan (s.lineOf offset)).2 := by
  have hstart := s.lineSpan_lineOf_le ho
  have hfrom := s.one_le_lineOf offset
  have hto := s.lineOf_le_lineCount offset
  unfold Source.offset
  rw [if_neg (by omega), if_neg (by omega), Int.toNat_sub, Nat.add_sub_cancel' hstart]

/-- **Lines partition a text.** There is one line more than there are line feeds. The lines and what
stands between their spans make up the text, and what stands there is a line feed, or a carriage
return and a line feed; behind the last line stands at most a carriage return. An offset is not in
front of its line, and its column leads back to it, or to the end of the line from inside of its
break. Every column of a line, also one below 0, leads into the span of that line and to no other
line. -/
theorem lines_partition (s : Source) :
    s.lineCount = 1 + s.chars.count '\n' ∧
    ((List.range s.lineCount).flatMap fun i : Nat =>
      (s.lineText (i + 1)).toList ++ s.breakAfter (i + 1)) = s.chars ∧
    (∀ line : Int, 1 ≤ line → line < s.lineCount →
      s.breakAfter line = ['\n'] ∨ s.breakAfter line = ['\r', '\n']) ∧
    (s.breakAfter s.lineCount = [] ∨ s.breakAfter s.lineCount = ['\r']) ∧
    (∀ offset : Nat, offset ≤ s.length →
      let span := s.lineSpan (s.lineOf offset)
      span.1 ≤ offset ∧
        s.offset (s.lineOf offset) (offset - span.1 : Int) = min offset span.2) ∧
    ∀ line column : Int, 1 ≤ line → line ≤ s.lineCount →
      let span := s.lineSpan line
      span.1 ≤ s.offset line column ∧ s.offset line column ≤ span.2 ∧
        s.lineOf (s.offset line column) = line := by
  refine ⟨s.lineCount_eq, ?_, fun line => breakAfter_of_lt, s.breakAfter_lineCount,
    fun offset ho => ⟨s.lineSpan_lineOf_le ho, offset_lineOf ho⟩, ?_⟩
  · simp only [lineText, String.toList_ofList]
    exact s.flatMap_lines
  · intro line column h h'
    obtain ⟨hstart, hstop⟩ := s.offset_bounds h h' column
    exact ⟨hstart, hstop, lineOf_offset h h' column⟩

/-- An empty line with a break of two characters, a line, an empty one, and a carriage return behind
the last one. -/
def ragged : Source := .ofString "\r\nab\n\nc\r"

/-- From inside of the first break a column leads back to the empty line, and a column below 0 to
the start of the second line. -/
theorem lines_of_ragged :
    (1 < 4 ∧ ragged.lineCount = 4) ∧ ragged.breakAfter 1 = ['\r', '\n'] ∧
      (1 ≤ ragged.length ∧ ragged.lineSpan (ragged.lineOf (1 : Nat)) = (0, 0)) ∧
      ragged.offset (ragged.lineOf (1 : Nat)) 1 = 0 ∧ ragged.lineOf (ragged.offset 2 (-7)) = 2 := by
  obtain ⟨-, -, hbreaks, -, hoffsets, hcolumns⟩ := lines_partition ragged
  have hspan : ragged.lineSpan (ragged.lineOf (1 : Nat)) = (0, 0) := by decide
  have hbreak : ragged.breakAfter 1 ≠ ['\n'] := by decide
  obtain ⟨-, hback⟩ := hoffsets 1 (by decide)
  obtain ⟨-, -, hline⟩ := hcolumns 2 (-7) (by decide) (by decide)
  refine ⟨⟨by decide, by decide⟩, ?_, ⟨by decide, hspan⟩, ?_, ?_⟩
  · exact (hbreaks 1 (by decide) (by decide)).resolve_left hbreak
  · rw [hspan] at hback
    exact hback
  · exact Int.ofNat_inj.mp hline

end Source

end LiveSketch

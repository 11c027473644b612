import LiveSketch.Proofs.Diagnostic.Place
import LiveSketch.Proofs.Text.Widths

/-!
# Lines of a text

Lines start further and further on (`pairwise_lineStarts`), so counting the lines that start up to
an offset finds the one that holds it:

1. the lines that start at or before an offset are the first ones (`lineStarts_le_iff`);
2. the span of a line lies between its start and the start of the next one (`lineSpan_bounds`);
3. so an offset in the span of a line is held by that line (`lineOf_eq_of_mem_lineSpan`);
4. behind the span stands at most one carriage return more of the line (`le_stop_or_at_return`).

Every column leads into the span of its line (`offset_bounds`), the column of a character to that
character (`offset_of_le_length`), and so does its UTF-8 column (`offsetOfBytes_lineOf`).
-/

namespace LiveSketch

/-! ## Counting in increasing lists -/

/-- In an increasing list the elements up to a bound are the first ones. -/
theorem getElem_le_iff_lt_countP {l : List Nat} (h : l.Pairwise (· < ·)) (bound : Nat) {i : Nat}
    (hi : i < l.length) : l[i] ≤ bound ↔ i < l.countP (· ≤ bound) := by
  induction l generalizing i with
  | nil => exact absurd hi (Nat.not_lt_zero i)
  | cons a l ih =>
    obtain ⟨hhead, htail⟩ := List.pairwise_cons.mp h
    by_cases ha : a ≤ bound
    · rw [List.countP_cons_of_pos (by simpa using ha)]
      cases i with
      | zero => exact iff_of_true ha (Nat.succ_pos _)
      | succ i =>
        rw [List.getElem_cons_succ, ih htail, Nat.succ_lt_succ_iff]
    · have hnone : (a :: l).countP (· ≤ bound) = 0 := by
        refine List.countP_eq_zero.mpr fun b hb => ?_
        rcases List.mem_cons.mp hb with rfl | hb
        · simpa using ha
        · have := hhead b hb
          simp only [decide_eq_true_eq]
          omega
      rw [hnone]
      refine iff_of_false ?_ (Nat.not_lt_zero i)
      cases i with
      | zero => exact ha
      | succ i =>
        have := hhead _ (List.getElem_mem (l := l) (Nat.lt_of_succ_lt_succ hi))
        rw [List.getElem_cons_succ]
        omega

/-! ## Where lines start -/

theorem mem_startsAfterFeeds_iff {cs : List Char} {offset n : Nat} :
    n ∈ startsAfterFeeds offset cs ↔ ∃ i, cs[i]? = some '\n' ∧ n = offset + i + 1 := by
  induction cs generalizing offset with
  | nil => simp [startsAfterFeeds]
  | cons c cs ih =>
    have hrest : n ∈ startsAfterFeeds (offset + 1) cs ↔
        ∃ i, (c :: cs)[i + 1]? = some '\n' ∧ n = offset + (i + 1) + 1 := by
      rw [ih]
      refine exists_congr fun i => and_congr (by rw [List.getElem?_cons_succ]) ?_
      omega
    unfold startsAfterFeeds
    split
    · rename_i hfeed
      rw [List.mem_cons, hrest]
      constructor
      · rintro (rfl | ⟨i, hget, rfl⟩)
        · exact ⟨0, by simp [hfeed], rfl⟩
        · exact ⟨i + 1, hget, rfl⟩
      · rintro ⟨i, hget, rfl⟩
        cases i with
        | zero => exact .inl rfl
        | succ i => exact .inr ⟨i, hget, rfl⟩
    · rename_i hfeed
      rw [hrest]
      constructor
      · rintro ⟨i, hget, rfl⟩
        exact ⟨i + 1, hget, rfl⟩
      · rintro ⟨i, hget, rfl⟩
        cases i with
        | zero => simp [hfeed] at hget
        | succ i => exact ⟨i, hget, rfl⟩

theorem bounds_of_mem_startsAfterFeeds {cs : List Char} {offset n : Nat}
    (h : n ∈ startsAfterFeeds offset cs) : offset < n ∧ n ≤ offset + cs.length := by
  obtain ⟨i, hget, rfl⟩ := mem_startsAfterFeeds_iff.mp h
  obtain ⟨hi, -⟩ := List.getElem?_eq_some_iff.mp hget
  omega

theorem length_startsAfterFeeds (offset : Nat) (cs : List Char) :
    (startsAfterFeeds offset cs).length = cs.count '\n' := by
  induction cs generalizing offset with
  | nil => rfl
  | cons c cs ih =>
    unfold startsAfterFeeds
    split
    · rename_i hfeed
      rw [List.length_cons, ih, hfeed, List.count_cons_self]
    · rename_i hfeed
      rw [ih, List.count_cons_of_ne hfeed]

theorem pairwise_startsAfterFeeds (offset : Nat) (cs : List Char) :
    (startsAfterFeeds offset cs).Pairwise (· < ·) := by
  induction cs generalizing offset with
  | nil => exact .nil
  | cons c cs ih =>
    unfold startsAfterFeeds
    split
    · exact .cons (fun n hn => (bounds_of_mem_startsAfterFeeds hn).1) (ih _)
    · exact ih _

namespace Source

variable (s : Source)

theorem pairwise_lineStarts : s.lineStarts.Pairwise (· < ·) :=
  .cons (fun _ hn => (bounds_of_mem_startsAfterFeeds hn).1) (pairwise_startsAfterFeeds 0 _)

theorem le_length_of_mem_lineStarts {n : Nat} (h : n ∈ s.lineStarts) : n ≤ s.length := by
  rcases List.mem_cons.mp h with rfl | h
  · exact Nat.zero_le _
  · simpa [Source.length] using (bounds_of_mem_startsAfterFeeds h).2

theorem lineCount_pos : 0 < s.lineCount := Nat.succ_pos _

variable {s}

theorem clamp_of_le {offset : Nat} (h : offset ≤ s.length) : s.clamp offset = offset :=
  Nat.min_eq_left h

/-- A line starts at or before an offset if it is not after the line that holds the offset. -/
theorem lineStarts_le_iff {offset i : Nat} (ho : offset ≤ s.length) (hi : i < s.lineStarts.length) :
    s.lineStarts[i] ≤ offset ↔ i < s.lineOf offset := by
  unfold lineOf
  rw [clamp_of_le ho]
  exact getElem_le_iff_lt_countP s.pairwise_lineStarts offset hi

theorem lineOf_le_lineOf {a b : Nat} (h : a ≤ b) : s.lineOf a ≤ s.lineOf b := by
  have hclamp : s.clamp a ≤ s.clamp b := by
    unfold clamp
    omega
  unfold lineOf
  refine List.countP_mono_left fun n _ hn => ?_
  rw [decide_eq_true_eq] at hn ⊢
  exact Nat.le_trans hn hclamp

/-! ## Slices -/

theorem slice_self (s : Source) (offset : Nat) : s.slice offset offset = [] := by
  unfold slice
  rw [Nat.sub_self, List.take_zero]

theorem slice_prefix_slice (s : Source) (start : Nat) {a b : Nat} (h : a ≤ b) :
    s.slice start a <+: s.slice start b :=
  List.take_prefix_take_left (Nat.sub_le_sub_right h start)

theorem slice_succ {start stop : Nat} {c : Char} (hle : start ≤ stop)
    (hc : s.chars[stop]? = some c) : s.slice start (stop + 1) = s.slice start stop ++ [c] := by
  unfold slice
  rw [Nat.sub_add_comm hle, List.take_add_one, List.getElem?_drop, Nat.add_sub_cancel' hle, hc]
  rfl

theorem slice_append_slice {a b c : Nat} (hab : a ≤ b) (hbc : b ≤ c) :
    s.slice a b ++ s.slice b c = s.slice a c := by
  unfold slice
  rw [← Nat.sub_add_sub_cancel hbc hab, Nat.add_comm (c - b), List.take_add, List.drop_drop,
    Nat.add_sub_cancel' hab]

/-! ## Spans of lines -/

theorem one_le_clampLine (line : Int) : 1 ≤ s.clampLine line := by
  have := s.lineCount_pos
  unfold clampLine
  omega

theorem clampLine_le (line : Int) : s.clampLine line ≤ s.lineCount := by
  have := s.lineCount_pos
  unfold clampLine
  omega

theorem clampLine_of_mem {line : Int} (h : 1 ≤ line) (h' : line ≤ s.lineCount) :
    s.clampLine line = line := by
  unfold clampLine
  omega

theorem clampLine_natCast {line : Nat} (h : 1 ≤ line) (h' : line ≤ s.lineCount) :
    s.clampLine line = line :=
  Int.ofNat_inj.mp (s.clampLine_of_mem (Int.ofNat_le.mpr h) (Int.ofNat_le.mpr h'))

theorem clampLine_succ {index : Nat} (h : index < s.lineCount) :
    s.clampLine (index + 1) = index + 1 := by
  unfold clampLine
  omega

/-- A span that loses its last character stays a span. -/
theorem trimmed_bounds {start stop : Nat} (hle : start ≤ stop) (p : Prop) [Decidable p] :
    let span := if start < stop ∧ p then (start, stop - 1) else (start, stop)
    span.1 = start ∧ span.1 ≤ span.2 ∧ span.2 ≤ stop := by
  dsimp only
  split
  · exact ⟨rfl, by dsimp only; omega, Nat.sub_le _ _⟩
  · exact ⟨rfl, hle, Nat.le_refl _⟩

/-- A line goes from its start up to its break, which is in front of the next line. -/
theorem lineSpan_bounds (line : Int) :
    s.lineStarts[s.clampLine line - 1]? = some (s.lineSpan line).1 ∧
      (s.lineSpan line).1 ≤ (s.lineSpan line).2 ∧ (s.lineSpan line).2 ≤ s.length ∧
      ∀ next, s.lineStarts[s.clampLine line]? = some next → (s.lineSpan line).2 < next := by
  obtain ⟨index, hindex⟩ : ∃ index, s.clampLine line = index + 1 :=
    ⟨s.clampLine line - 1, (Nat.sub_add_cancel (s.one_le_clampLine line)).symm⟩
  have hlt : index < s.lineStarts.length := by
    have := s.clampLine_le line
    unfold lineCount at this
    omega
  have hgetD : s.lineStarts.getD index 0 = s.lineStarts[index] := by
    simp [List.getD_eq_getElem?_getD, hlt]
  have hlength := s.le_length_of_mem_lineStarts (List.getElem_mem hlt)
  unfold lineSpan
  rw [hindex, Nat.add_sub_cancel]
  dsimp only
  rw [hgetD, List.getElem?_eq_getElem hlt]
  cases hnext : s.lineStarts[index + 1]? with
  | none =>
    obtain ⟨hstart, hle, hstop⟩ := trimmed_bounds hlength (s.chars[s.length - 1]? = some '\r')
    exact ⟨congrArg some hstart.symm, hle, hstop, nofun⟩
  | some next =>
    obtain ⟨hlt', hget⟩ := List.getElem?_eq_some_iff.mp hnext
    have hless : s.lineStarts[index] < next := by
      rw [← hget]
      exact List.pairwise_iff_getElem.mp s.pairwise_lineStarts index (index + 1) hlt hlt' (by omega)
    have hnext_le : next ≤ s.length := hget ▸ s.le_length_of_mem_lineStarts (List.getElem_mem hlt')
    obtain ⟨hstart, hle, hstop⟩ := trimmed_bounds (Nat.le_sub_one_of_lt hless)
      (s.chars[next - 1 - 1]? = some '\r')
    refine ⟨congrArg some hstart.symm, hle, Nat.le_trans hstop (by omega), ?_⟩
    rintro _ ⟨⟩
    exact Nat.lt_of_le_of_lt hstop (by omega)

theorem lineSpan_clampLine (line : Int) : s.lineSpan (s.clampLine line) = s.lineSpan line := by
  unfold lineSpan
  rw [clampLine_natCast (s.one_le_clampLine line) (s.clampLine_le line)]

theorem lineSpan_of_lineStarts {index start : Nat} (h : s.lineStarts[index]? = some start) :
    ((index : Int) + 1 ≤ s.lineCount) ∧ (s.lineSpan (index + 1)).1 = start := by
  obtain ⟨hlt, -⟩ := List.getElem?_eq_some_iff.mp h
  obtain ⟨hfirst, -⟩ := s.lineSpan_bounds (index + 1)
  rw [clampLine_succ hlt, Nat.add_sub_cancel, h] at hfirst
  exact ⟨Int.ofNat_le.mpr hlt, (Option.some.inj hfirst).symm⟩

theorem lineOf_eq_of_mem_lineSpan {line : Int} {offset : Nat}
    (hstart : (s.lineSpan line).1 ≤ offset)
    (hstop : offset ≤ (s.lineSpan line).2) : s.lineOf offset = s.clampLine line := by
  obtain ⟨hfirst, -, hle, hnext⟩ := s.lineSpan_bounds line
  have ho : offset ≤ s.length := Nat.le_trans hstop hle
  obtain ⟨hlt, hfirst⟩ := List.getElem?_eq_some_iff.mp hfirst
  have hpos := s.one_le_clampLine line
  have hheld : s.clampLine line - 1 < s.lineOf offset :=
    (lineStarts_le_iff ho hlt).mp (hfirst ▸ hstart)
  have hnot : ¬ s.clampLine line < s.lineOf offset := by
    intro hafter
    have hlt' : s.clampLine line < s.lineStarts.length :=
      Nat.lt_of_lt_of_le hafter (s.lineOf_le_lineCount offset)
    have hless := hnext _ (List.getElem?_eq_getElem hlt')
    have := (lineStarts_le_iff ho hlt').mpr hafter
    omega
  omega

/-- The line that holds an offset starts where the list of lines says. -/
theorem lineStarts_lineOf (offset : Int) :
    s.lineStarts[s.lineOf offset - 1]? = some (s.lineSpan (s.lineOf offset)).1 := by
  have hclamp : s.clampLine (s.lineOf offset) = s.lineOf offset :=
    clampLine_natCast (s.one_le_lineOf offset) (s.lineOf_le_lineCount offset)
  obtain ⟨hfirst, -⟩ := s.lineSpan_bounds (s.lineOf offset)
  rwa [hclamp] at hfirst

theorem lineSpan_lineOf_le {offset : Nat} (ho : offset ≤ s.length) :
    (s.lineSpan (s.lineOf offset)).1 ≤ offset := by
  obtain ⟨hlt, hfirst⟩ := List.getElem?_eq_some_iff.mp (s.lineStarts_lineOf offset)
  rw [← hfirst]
  have := s.one_le_lineOf offset
  exact (lineStarts_le_iff ho hlt).mpr (by omega)

/-! ## Ends of lines -/

/-- Where a line ends without its line feed: in front of the next line, or at the end of the
text. -/
def lineEnd (s : Source) (line : Nat) : Nat :=
  match s.lineStarts[line]? with
  | some next => next - 1
  | none => s.length

/-- A span that leaves out a carriage return ends in front of it. -/
theorem trimmed_stop (cs : List Char) (start stop : Nat) :
    let span := if start < stop ∧ cs[stop - 1]? = some '\r' then (start, stop - 1) else (start, stop)
    span.2 = stop ∨ (span.2 + 1 = stop ∧ cs[span.2]? = some '\r') := by
  dsimp only
  split
  · rename_i hreturn
    exact .inr ⟨Nat.sub_add_cancel (Nat.lt_of_le_of_lt (Nat.zero_le _) hreturn.1), hreturn.2⟩
  · exact .inl rfl

/-- The span of a line ends where the line ends, or in front of one carriage return more. -/
theorem lineSpan_stop (s : Source) (line : Int) :
    (s.lineSpan line).2 = s.lineEnd (s.clampLine line) ∨
      ((s.lineSpan line).2 + 1 = s.lineEnd (s.clampLine line) ∧
        s.chars[(s.lineSpan line).2]? = some '\r') := by
  unfold lineSpan
  dsimp only
  rw [Nat.sub_add_cancel (s.one_le_clampLine line)]
  exact trimmed_stop s.chars _ (s.lineEnd (s.clampLine line))

theorem le_lineEnd {offset : Nat} (ho : offset ≤ s.length) :
    offset ≤ s.lineEnd (s.lineOf offset) := by
  unfold lineEnd
  cases hnext : s.lineStarts[s.lineOf offset]? with
  | none => exact ho
  | some next =>
    obtain ⟨hlt, hget⟩ := List.getElem?_eq_some_iff.mp hnext
    have hafter := (not_congr (lineStarts_le_iff ho hlt)).mpr (Nat.lt_irrefl _)
    dsimp only
    omega

/-- An offset is in the span of its line, or behind the carriage return that the span leaves
out. -/
theorem le_stop_or_at_return {offset : Nat} (ho : offset ≤ s.length) :
    offset ≤ (s.lineSpan (s.lineOf offset)).2 ∨
      (offset = (s.lineSpan (s.lineOf offset)).2 + 1 ∧
        s.chars[(s.lineSpan (s.lineOf offset)).2]? = some '\r') := by
  have hle := le_lineEnd ho
  have hstop := s.lineSpan_stop (s.lineOf offset)
  rw [clampLine_natCast (s.one_le_lineOf offset) (s.lineOf_le_lineCount offset)] at hstop
  rcases hstop with hstop | ⟨hstop, hreturn⟩
  · exact .inl (hstop ▸ hle)
  · rcases Nat.lt_or_ge (s.lineSpan (s.lineOf offset)).2 offset with hbehind | hbefore
    · exact .inr ⟨by omega, hreturn⟩
    · exact .inl hbefore

/-! ## Columns -/

theorem length_lineChars (line : Int) :
    (s.lineChars line).length = (s.lineSpan line).2 - (s.lineSpan line).1 := by
  obtain ⟨-, -, hstop, -⟩ := s.lineSpan_bounds line
  unfold Source.length at hstop
  unfold lineChars slice
  rw [List.length_take, List.length_drop]
  omega

theorem offset_bounds {line : Int} (h : 1 ≤ line) (h' : line ≤ s.lineCount) (column : Int) :
    (s.lineSpan line).1 ≤ s.offset line column ∧ s.offset line column ≤ (s.lineSpan line).2 := by
  obtain ⟨-, hle, -⟩ := s.lineSpan_bounds line
  unfold offset
  rw [if_neg (by omega), if_neg (by omega)]
  omega

theorem lineOf_offset {line : Int} (h : 1 ≤ line) (h' : line ≤ s.lineCount) (column : Int) :
    s.lineOf (s.offset line column) = line := by
  obtain ⟨hstart, hstop⟩ := s.offset_bounds h h' column
  rw [lineOf_eq_of_mem_lineSpan hstart hstop, s.clampLine_of_mem h h']

theorem lineOf_offsetOfBytes {line : Int} (h : 1 ≤ line) (h' : line ≤ s.lineCount) (column : Int) :
    s.lineOf (s.offsetOfBytes line column) = line :=
  lineOf_offset h h' _

theorem offset_of_le_length {line : Int} (h : 1 ≤ line) (h' : line ≤ s.lineCount) {column : Nat}
    (hcolumn : column ≤ (s.lineChars line).length) :
    s.offset line column = (s.lineSpan line).1 + column := by
  obtain ⟨-, hle, -⟩ := s.lineSpan_bounds line
  rw [length_lineChars] at hcolumn
  unfold offset
  rw [if_neg (by omega), if_neg (by omega), Int.toNat_natCast]
  omega

theorem offsetOfBytes_eq {line : Int} (h : 1 ≤ line) (h' : line ≤ s.lineCount) (column : Int) :
    s.offsetOfBytes line column =
      (s.lineSpan line).1 + charsWithin column.toNat (s.lineChars line) :=
  offset_of_le_length h h' (charsWithin_le_length _ _)

/-- An offset that is not in the break of its line is found by its UTF-8 column. -/
theorem offsetOfBytes_lineOf {offset : Nat} (hline : offset ≤ (s.lineSpan (s.lineOf offset)).2) :
    s.offsetOfBytes (s.lineOf offset)
      (utf8Length (s.slice (s.lineSpan (s.lineOf offset)).1 offset)) = offset := by
  obtain ⟨-, -, hstop, -⟩ := s.lineSpan_bounds (s.lineOf offset)
  have hstart := s.lineSpan_lineOf_le (Nat.le_trans hline hstop)
  have hfrom := s.one_le_lineOf offset
  have hto := s.lineOf_le_lineCount offset
  -- the characters before the offset are the first ones of the line
  have htake : s.slice (s.lineSpan (s.lineOf offset)).1 offset =
      (s.lineChars (s.lineOf offset)).take (offset - (s.lineSpan (s.lineOf offset)).1) := by
    unfold lineChars slice
    rw [List.take_take, Nat.min_eq_left (by omega)]
  have hlength : offset - (s.lineSpan (s.lineOf offset)).1 ≤
      (s.lineChars (s.lineOf offset)).length := by
    rw [length_lineChars]
    omega
  rw [offsetOfBytes_eq (by omega) (by omega), Int.toNat_natCast, htake,
    charsWithin_utf8Length_take hlength]
  omega

end Source

end LiveSketch

import LiveSketch.Diagnostic.Basic

/-!
# Places of diagnostics

Whatever place a finding gives, its diagnostic stands in the text: both ends are moved inside, the
end is not before the start, and the line is the one that holds the start
(`Finding.locate_inText`). That there is such a line needs no more than that the first line starts
at 0.
-/

namespace LiveSketch

namespace Source

variable (s : Source) (offset : Int)

theorem clamp_le : s.clamp offset ≤ s.length := Nat.min_le_right _ _

theorem one_le_lineOf : 1 ≤ s.lineOf offset := by
  unfold lineOf lineStarts
  rw [List.countP_cons_of_pos (by simp)]
  exact Nat.le_add_left 1 _

theorem lineOf_le_lineCount : s.lineOf offset ≤ s.lineCount := List.countP_le_length

end Source

/-- The diagnostic stands in the text: at a span of it, and on the line that holds its start. -/
structure Diagnostic.InText (d : Diagnostic) (s : Source) : Prop where
  start_nonneg : 0 ≤ d.start
  start_le_stop : d.start ≤ d.stop
  stop_le : d.stop ≤ s.length
  line_eq : d.line = s.lineOf d.start
  one_le_line : 1 ≤ d.line
  line_le : d.line ≤ s.lineCount

theorem Finding.locate_inText (f : Finding) (s : Source) : (f.locate s).InText s := by
  obtain ⟨start, hstart⟩ : ∃ start, s.clamp (f.start.getD 0) = start := ⟨_, rfl⟩
  have hle : start ≤ s.length := hstart ▸ s.clamp_le _
  have hstop : s.clamp (f.stop.getD start) ≤ s.length := s.clamp_le _
  have hlocate : f.locate s = ⟨f.level.severity,
      f.level.severity.word ++ " " ++ f.code ++ ": " ++ f.text, start,
      max start (s.clamp (f.stop.getD start)), s.lineOf start⟩ := by
    unfold locate
    rw [hstart]
  rw [hlocate]
  exact {
    start_nonneg := Int.natCast_nonneg _
    start_le_stop := Int.le_max_left _ _
    stop_le := by dsimp only; omega
    line_eq := rfl
    one_le_line := Int.ofNat_le.mpr (s.one_le_lineOf _)
    line_le := Int.ofNat_le.mpr (s.lineOf_le_lineCount _) }

end LiveSketch

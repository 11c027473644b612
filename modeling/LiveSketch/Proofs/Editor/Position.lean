import LiveSketch.Proofs.Diagnostic.Location
import Mathlib.Data.Int.ConditionallyCompleteOrder
import Mathlib.Data.Prod.Lex

/-!
# Positions in an editor

An editor addresses a text by a line and a UTF-16 column on it. No two offsets have the same
position, and positions come in the order of their offsets:

1. of two offsets on one line the later one has more characters of the line before it, and every
   character is one or two units wide (`Source.utf16Length_slice_lt`);
2. of two offsets on different lines the later one is on the later line
   (`Source.editorPlace_lt`);
3. the start of the line and the width of a row of characters behind it tell how many these are
   (`Source.utf16Length_take_eq_iff`), so an offset is found by its position.

The characters of a text are Unicode scalar values, none of them a surrogate.
-/

namespace LiveSketch

namespace Source

variable {s : Source}

/-- The width of some leading characters tells how many they are. -/
theorem utf16Length_take_eq_iff {cs : List Char} {m n : Nat} (hm : m ≤ cs.length)
    (hn : n ≤ cs.length) : utf16Length (cs.take m) = utf16Length (cs.take n) ↔ m = n :=
  (strictMonoOn_utf16Length_take cs).injOn.eq_iff hm hn

theorem utf16Length_slice_lt {start a b : Nat} (hstart : start ≤ a) (hab : a < b)
    (hb : b ≤ s.length) : utf16Length (s.slice start a) < utf16Length (s.slice start b) := by
  have hlength : (s.chars.drop start).length = s.length - start := List.length_drop
  refine strictMonoOn_utf16Length_take (s.chars.drop start) ?_ ?_ (by omega)
  · rw [Set.mem_Iic, hlength]
    omega
  · rw [Set.mem_Iic, hlength]
    omega

theorem editorPlace_lt {a b : Nat} (hab : a < b) (hb : b ≤ s.length) :
    toLex (s.editorPlace a) < toLex (s.editorPlace b) := by
  have ha : a ≤ s.length := by omega
  have hpos := s.one_le_lineOf a
  unfold editorPlace
  rw [Prod.Lex.toLex_lt_toLex]
  dsimp only
  rcases Nat.lt_or_eq_of_le (lineOf_le_lineOf (s := s) (Nat.le_of_lt hab)) with hline | hline
  · exact .inl (by omega)
  · rw [← hline]
    exact .inr ⟨rfl, utf16Length_slice_lt (lineSpan_lineOf_le ha) hab hb⟩

theorem position_of_mem {offset : Int} (h : offset ∈ Set.Icc 0 (s.length : Int)) :
    s.position offset = s.editorPlace offset.toNat := by
  obtain ⟨hfrom, hto⟩ := h
  conv => lhs; rw [← Int.toNat_of_nonneg hfrom]
  exact position_of_le_length (by omega)

theorem strictMonoOn_position (s : Source) :
    StrictMonoOn (fun offset : Int => toLex (s.position offset)) (Set.Icc 0 s.length) := by
  intro a ha b hb hab
  dsimp only
  rw [position_of_mem ha, position_of_mem hb]
  obtain ⟨hfrom, -⟩ := ha
  obtain ⟨-, hto⟩ := hb
  exact editorPlace_lt (by omega) (by omega)

/-- An offset is so many characters behind the start of its line as are as wide as its column. -/
theorem exists_of_position {offset : Int} (h : offset ∈ Set.Icc 0 (s.length : Int)) :
    ∃ start n : Nat, s.lineStarts[(s.position offset).1]? = some start ∧ offset = start + n ∧
      ∀ m ≤ (s.chars.drop start).length,
        utf16Length ((s.chars.drop start).take m) = (s.position offset).2 ↔ m = n := by
  obtain ⟨offset, rfl⟩ := Int.eq_ofNat_of_zero_le h.1
  have ho : offset ≤ s.length := Int.ofNat_le.mp h.2
  rw [position_of_mem h, Int.toNat_natCast]
  have hstart := lineSpan_lineOf_le ho
  refine ⟨(s.lineSpan (s.lineOf offset)).1, offset - (s.lineSpan (s.lineOf offset)).1,
    s.lineStarts_lineOf offset, by omega, fun m hm => ?_⟩
  refine utf16Length_take_eq_iff hm ?_
  rw [List.length_drop]
  unfold Source.length at ho
  omega

theorem position_of_clamp_eq {a b : Int} (h : s.clamp a = s.clamp b) :
    s.position a = s.position b := by
  unfold position
  rw [h]

theorem position_of_nonpos {offset : Int} (h : offset ≤ 0) : s.position offset = s.position 0 := by
  refine position_of_clamp_eq ?_
  unfold clamp
  omega

theorem position_of_length_le {offset : Int} (h : s.length ≤ offset) :
    s.position offset = s.position s.length := by
  refine position_of_clamp_eq ?_
  unfold clamp
  omega

/-- **Positions are unambiguous.** From the start of a text up to its end positions grow with their
offsets, by line and then by column, so no two offsets have the same position. From a position its
offset is found: it is so many characters behind the start of the position's line as are, in UTF-16
units, as wide as its column, and only one number of characters is. An offset outside of the text
has the position of the end that is nearer. -/
theorem position_unambiguous (s : Source) :
    StrictMonoOn (fun offset : Int => toLex (s.position offset)) (Set.Icc 0 s.length) ∧
    Set.InjOn s.position (Set.Icc 0 s.length) ∧
    (∀ offset ∈ Set.Icc 0 (s.length : Int), ∃ start n : Nat,
      s.lineStarts[(s.position offset).1]? = some start ∧ offset = start + n ∧
        ∀ m ≤ (s.chars.drop start).length,
          utf16Length ((s.chars.drop start).take m) = (s.position offset).2 ↔ m = n) ∧
    (∀ offset : Int, offset ≤ 0 → s.position offset = s.position 0) ∧
    ∀ offset : Int, s.length ≤ offset → s.position offset = s.position s.length := by
  refine ⟨s.strictMonoOn_position, ?_, fun offset => exists_of_position,
    fun offset => position_of_nonpos, fun offset => position_of_length_le⟩
  intro a ha b hb hab
  exact s.strictMonoOn_position.injOn ha hb (congrArg toLex hab)

/-- A name on the second line, behind a character of four bytes. -/
def strayText : Source := .ofString "é\n😀x"

/-- In the second line, behind a pair of units, the offset is one character from the start of the
line. -/
theorem position_strayText :
    ((2 : Int) ∈ Set.Icc 0 (strayText.length : Int) ∧
      (3 : Int) ∈ Set.Icc 0 (strayText.length : Int)) ∧
      strayText.position 3 = (1, 2) ∧
      toLex (strayText.position 2) < toLex (strayText.position 3) ∧
      (∀ m ≤ 2, utf16Length (['😀', 'x'].take m) = 2 ↔ m = 1) ∧
      strayText.position (-5) = (0, 0) ∧ strayText.position 9 = (1, 3) := by
  have htwo : (2 : Int) ∈ Set.Icc 0 (strayText.length : Int) := ⟨by decide, by decide⟩
  have hthree : (3 : Int) ∈ Set.Icc 0 (strayText.length : Int) := ⟨by decide, by decide⟩
  obtain ⟨hordered, -, hfound, hbefore, hbehind⟩ := position_unambiguous strayText
  have hposition : strayText.position 3 = (1, 2) := by decide
  obtain ⟨start, n, hstart, hoffset, honly⟩ := hfound 3 hthree
  rw [hposition] at hstart honly
  obtain rfl : start = 2 := by
    have hline : strayText.lineStarts[1]? = some 2 := by decide
    exact (Option.some.inj (hline.symm.trans hstart)).symm
  obtain rfl : n = 1 := by omega
  exact ⟨⟨htwo, hthree⟩, hposition, hordered htwo hthree (by decide), honly,
    (hbefore (-5) (by decide)).trans (by decide), (hbehind 9 (by decide)).trans (by decide)⟩

end Source

end LiveSketch

import LiveSketch.Text.Source
import Mathlib.Data.Nat.SuccPred
import Mathlib.Order.Interval.Set.Monotone

/-!
# Widths of characters

Every character is at least one byte and one UTF-16 unit wide. So a row of characters is the wider
the more of a text it takes (`strictMonoOn_utf8Length_take`, `strictMonoOn_utf16Length_take`), and
from a width in either unit the number of characters can be told.

For bytes `charsWithin` does so: it is the greatest number of leading characters that are not wider
than the budget (`isGreatest_charsWithin`), which decides it at the end of a character, inside of one
and behind the last one.
-/

namespace LiveSketch

/-! ## Rows of characters -/

/-- When each character has a width, more characters of a text are wider. -/
theorem strictMonoOn_width_take {width : Char → Nat} (hwidth : ∀ c, 0 < width c)
    (cs : List Char) : StrictMonoOn (fun n => ((cs.take n).map width).sum) (Set.Iic cs.length) := by
  refine strictMonoOn_Iic_of_lt_succ fun n hn => ?_
  have hpos := hwidth cs[n]
  have hnext : cs.take (Order.succ n) = cs.take n ++ [cs[n]] := List.take_succ_eq_append_getElem hn
  rw [hnext, List.map_append, List.sum_append]
  simp only [List.map_cons, List.map_nil, List.sum_cons, List.sum_nil]
  omega

theorem strictMonoOn_utf8Length_take (cs : List Char) :
    StrictMonoOn (fun n => utf8Length (cs.take n)) (Set.Iic cs.length) :=
  strictMonoOn_width_take Char.utf8Size_pos cs

theorem strictMonoOn_utf16Length_take (cs : List Char) :
    StrictMonoOn (fun n => utf16Length (cs.take n)) (Set.Iic cs.length) := by
  refine strictMonoOn_width_take (fun c => ?_) cs
  split
  · exact Nat.one_pos
  · exact Nat.two_pos

theorem utf16Length_append (cs cs' : List Char) :
    utf16Length (cs ++ cs') = utf16Length cs + utf16Length cs' := by
  unfold utf16Length
  rw [List.map_append, List.sum_append]

theorem utf16Length_le_of_prefix {cs cs' : List Char} (h : cs <+: cs') :
    utf16Length cs ≤ utf16Length cs' := by
  obtain ⟨rest, rfl⟩ := h
  rw [utf16Length_append]
  exact Nat.le_add_right _ _

theorem utf8Length_cons (c : Char) (cs : List Char) :
    utf8Length (c :: cs) = c.utf8Size + utf8Length cs := by
  unfold utf8Length
  rw [List.map_cons, List.sum_cons]

theorem utf8Length_append (cs cs' : List Char) :
    utf8Length (cs ++ cs') = utf8Length cs + utf8Length cs' := by
  unfold utf8Length
  rw [List.map_append, List.sum_append]

/-! ## Characters within a budget of bytes -/

section Budget

variable {cs : List Char} {n : Nat}

theorem isGreatest_charsWithin (budget : Nat) (cs : List Char) :
    IsGreatest {n | n ≤ cs.length ∧ utf8Length (cs.take n) ≤ budget} (charsWithin budget cs) := by
  induction cs generalizing budget with
  | nil => exact ⟨⟨Nat.le_refl 0, Nat.zero_le budget⟩, fun n hn => hn.1⟩
  | cons c cs ih =>
    unfold charsWithin
    split
    · rename_i hfits
      obtain ⟨⟨hle, hwithin⟩, hmost⟩ := ih (budget - c.utf8Size)
      refine ⟨⟨Nat.succ_le_succ hle, ?_⟩, ?_⟩
      · rw [List.take_succ_cons, utf8Length_cons]
        omega
      · rintro n ⟨hn, hbudget⟩
        cases n with
        | zero => exact Nat.zero_le _
        | succ n =>
          rw [List.take_succ_cons, utf8Length_cons] at hbudget
          exact Nat.succ_le_succ (hmost ⟨Nat.le_of_succ_le_succ hn, by omega⟩)
    · rename_i hfits
      refine ⟨⟨Nat.zero_le _, Nat.zero_le _⟩, ?_⟩
      rintro n ⟨-, hbudget⟩
      cases n with
      | zero => exact Nat.le_refl 0
      | succ n =>
        rw [List.take_succ_cons, utf8Length_cons] at hbudget
        omega

theorem charsWithin_le_length (budget : Nat) (cs : List Char) :
    charsWithin budget cs ≤ cs.length :=
  (isGreatest_charsWithin budget cs).1.1

theorem monotone_charsWithin (cs : List Char) : Monotone (charsWithin · cs) := by
  intro a b hab
  exact (isGreatest_charsWithin a cs).mono (isGreatest_charsWithin b cs)
    fun n hn => ⟨hn.1, Nat.le_trans hn.2 hab⟩

/-- Some leading characters fit into as many bytes as they have, and no more do. -/
theorem charsWithin_utf8Length_take (h : n ≤ cs.length) :
    charsWithin (utf8Length (cs.take n)) cs = n := by
  refine (isGreatest_charsWithin _ cs).unique ⟨⟨h, Nat.le_refl _⟩, ?_⟩
  rintro m ⟨hm, hle⟩
  exact ((strictMonoOn_utf8Length_take cs).le_iff_le hm h).mp hle

/-- A budget that ends before the next character does leaves that character out. -/
theorem charsWithin_inside (h : n < cs.length) {more : Nat} (hmore : more < cs[n].utf8Size) :
    charsWithin (utf8Length (cs.take n) + more) cs = n := by
  refine (isGreatest_charsWithin _ cs).unique
    ⟨⟨Nat.le_of_lt h, Nat.le_add_right _ _⟩, ?_⟩
  rintro m ⟨hm, hle⟩
  have hnext : utf8Length (cs.take (n + 1)) = utf8Length (cs.take n) + cs[n].utf8Size := by
    rw [List.take_succ_eq_append_getElem h, utf8Length_append, utf8Length_cons]
    rfl
  refine Nat.le_of_lt_succ (((strictMonoOn_utf8Length_take cs).lt_iff_lt hm h).mp ?_)
  rw [hnext]
  omega

theorem charsWithin_of_utf8Length_le {budget : Nat} (h : utf8Length cs ≤ budget) :
    charsWithin budget cs = cs.length := by
  refine Nat.le_antisymm (charsWithin_le_length budget cs)
    ((isGreatest_charsWithin budget cs).2 ⟨Nat.le_refl _, ?_⟩)
  rwa [List.take_length]

end Budget

end LiveSketch

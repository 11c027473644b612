import LiveSketch.Proofs.Text.Lines
import LiveSketch.Script.Token

/-!
# Lines of an editor

For an editor, and for the reader of scripts, a line ends with a line feed, with a carriage return,
or with both in this order. A snapshot knows the line feeds alone. Its lines are compared with those
of an editor in three steps:

1. the breaks of an editor are the line feeds and the carriage returns that no line feed follows
   (`startsAfterBreaks_or_perm`), so that counting lines differs by the number of these
   (`editorLineOf_eq`);
2. the place of a line in both lists is the same exactly if no such carriage return stands before it
   (`getElem?_eq_iff_of_perm`);
3. the reader counts the lines of the text with all breaks written as line feeds
   (`count_unifyBreaks`), which are those of the editor (`line_readAll_unifyBreaks`).
-/

namespace LiveSketch

open Script

/-! ## Breaks of some kinds -/

/-- The start of a line, if there is a break in front of it. -/
def startIf (isEnd : Bool) (start : Nat) : List Nat := if isEnd then [start] else []

/-- The offsets just after each line break of some kinds, for a run of characters that starts at
`offset`. A carriage return and a line feed behind it are one break, of the kind of the line feed. -/
def startsAfterBreaks (ends : Char → Bool) (offset : Nat) : List Char → List Nat
  | [] => []
  | '\r' :: '\n' :: rest =>
    startIf (ends '\n') (offset + 2) ++ startsAfterBreaks ends (offset + 2) rest
  | c :: rest => startIf (ends c) (offset + 1) ++ startsAfterBreaks ends (offset + 1) rest

-- Several theorems in a row go by this induction; it is made here so that none waits for another.
attribute [elab_as_elim] startsAfterBreaks.induct_unfolding

/-- Either character breaks a line for an editor. -/
def isBreak (c : Char) : Bool := c == '\n' || c == '\r'

/-- A text may be cut anywhere but inside of a carriage return and its line feed. -/
def IsSeam (before after : List Char) : Prop :=
  ¬ (before.getLast? = some '\r' ∧ after.head? = some '\n')

section Breaks

variable {ends : Char → Bool} {offset n : Nat} {cs before after : List Char}

@[simp]
theorem startIf_true (start : Nat) : startIf true start = [start] := rfl

@[simp]
theorem startIf_false (start : Nat) : startIf false start = [] := rfl

theorem mem_startIf_iff {isEnd : Bool} {start : Nat} :
    n ∈ startIf isEnd start ↔ isEnd = true ∧ n = start := by
  cases isEnd with
  | false => simp
  | true => simp

/-- The breaks of a kind stand in front of these offsets, but a carriage return with a line feed
behind it is none. -/
theorem mem_startsAfterBreaks_iff : n ∈ startsAfterBreaks ends offset cs ↔
    ∃ i c, cs[i]? = some c ∧ ends c = true ∧ n = offset + i + 1 ∧
      ¬ (c = '\r' ∧ cs[i + 1]? = some '\n') := by
  fun_induction startsAfterBreaks ends offset cs with
  | case1 => simp
  | case2 offset rest ih =>
    rw [List.mem_append, mem_startIf_iff, ih]
    constructor
    · rintro (⟨hends, rfl⟩ | ⟨i, c, hget, hends, rfl, hpair⟩)
      · exact ⟨1, '\n', rfl, hends, rfl, by simp⟩
      · exact ⟨i + 2, c, hget, hends, by omega, hpair⟩
    · rintro ⟨i, c, hget, hends, rfl, hpair⟩
      match i with
      | 0 => cases hget; exact absurd ⟨rfl, rfl⟩ hpair
      | 1 => cases hget; exact .inl ⟨hends, rfl⟩
      | i + 2 => exact .inr ⟨i, c, hget, hends, by omega, hpair⟩
  | case3 offset d rest hpair ih =>
    rw [List.mem_append, mem_startIf_iff, ih]
    constructor
    · rintro (⟨hends, rfl⟩ | ⟨i, c, hget, hends, rfl, hpair'⟩)
      · refine ⟨0, d, rfl, hends, rfl, ?_⟩
        rintro ⟨hd, hnext⟩
        obtain ⟨tail, rfl⟩ : ∃ tail, rest = '\n' :: tail := by
          cases rest with
          | nil => cases hnext
          | cons c tail => cases hnext; exact ⟨tail, rfl⟩
        exact hpair tail hd rfl
      · exact ⟨i + 1, c, hget, hends, by omega, hpair'⟩
    · rintro ⟨i, c, hget, hends, rfl, hpair'⟩
      cases i with
      | zero => cases hget; exact .inl ⟨hends, rfl⟩
      | succ i => exact .inr ⟨i, c, hget, hends, by omega, hpair'⟩

theorem bounds_of_mem_startsAfterBreaks (h : n ∈ startsAfterBreaks ends offset cs) :
    offset < n ∧ n ≤ offset + cs.length := by
  obtain ⟨i, c, hget, -, rfl, -⟩ := mem_startsAfterBreaks_iff.mp h
  obtain ⟨hi, -⟩ := List.getElem?_eq_some_iff.mp hget
  omega

theorem pairwise_startIf_append {isEnd : Bool} {start : Nat} {row : List Nat}
    (hrow : row.Pairwise (· < ·)) (h : ∀ n ∈ row, start < n) :
    (startIf isEnd start ++ row).Pairwise (· < ·) := by
  cases isEnd with
  | false => exact hrow
  | true => exact .cons h hrow

theorem pairwise_startsAfterBreaks (ends : Char → Bool) (offset : Nat) (cs : List Char) :
    (startsAfterBreaks ends offset cs).Pairwise (· < ·) := by
  fun_induction startsAfterBreaks ends offset cs with
  | case1 => exact .nil
  | case2 offset rest ih | case3 offset c rest hpair ih =>
    exact pairwise_startIf_append ih fun n hn => (bounds_of_mem_startsAfterBreaks hn).1

/-- Breaks of the line feed's kind are the line feeds. -/
theorem startsAfterBreaks_feed (offset : Nat) (cs : List Char) :
    startsAfterBreaks (· == '\n') offset cs = startsAfterFeeds offset cs := by
  fun_induction startsAfterBreaks (· == '\n') offset cs with
  | case1 => rfl
  | case2 offset rest ih => rw [ih]; rfl
  | case3 offset c rest hpair ih =>
    rw [ih]
    conv => rhs; unfold startsAfterFeeds
    by_cases hc : c = '\n'
    · simp [hc]
    · have hkind : (c == '\n') = false := by simpa using hc
      simp [hc, hkind]

/-- A break of either of two kinds is of the one or of the other. -/
theorem startIf_or_perm {p q : Bool} (hpq : p = true → q = false) (start : Nat)
    {row l r : List Nat} (h : row.Perm (l ++ r)) :
    (startIf (p || q) start ++ row).Perm ((startIf p start ++ l) ++ (startIf q start ++ r)) := by
  cases p with
  | true =>
    rw [hpq rfl]
    exact h.cons start
  | false =>
    cases q with
    | true => exact (h.cons start).trans List.perm_middle.symm
    | false => exact h

/-- The breaks of either of two kinds are those of the one and those of the other. -/
theorem startsAfterBreaks_or_perm {p q : Char → Bool} (hpq : ∀ c, p c = true → q c = false)
    (offset : Nat) (cs : List Char) :
    (startsAfterBreaks (fun c => p c || q c) offset cs).Perm
      (startsAfterBreaks p offset cs ++ startsAfterBreaks q offset cs) := by
  fun_induction startsAfterBreaks (fun c => p c || q c) offset cs with
  | case1 => exact .nil
  | case2 offset rest ih =>
    simp only [startsAfterBreaks]
    exact startIf_or_perm (hpq _) _ ih
  | case3 offset c rest hpair ih =>
    simp only [startsAfterBreaks]
    exact startIf_or_perm (hpq _) _ ih

theorem IsSeam.tail {c : Char} (h : IsSeam (c :: before) after) : IsSeam before after := by
  rintro ⟨hlast, hhead⟩
  refine h ⟨?_, hhead⟩
  rw [List.getLast?_cons, hlast]
  rfl

theorem IsSeam.not_pair {c : Char} (h : IsSeam (c :: before) after)
    (hpair : ∀ rest, c = '\r' → before = '\n' :: rest → False) (rest : List Char) (hc : c = '\r')
    (hrest : before ++ after = '\n' :: rest) : False := by
  cases before with
  | nil => exact h ⟨by rw [hc]; rfl, by rw [← List.nil_append after, hrest]; rfl⟩
  | cons d before =>
    obtain ⟨rfl, -⟩ := List.cons.inj hrest
    exact hpair before hc rfl

theorem startsAfterBreaks_append (h : IsSeam before after) :
    startsAfterBreaks ends offset (before ++ after) =
      startsAfterBreaks ends offset before ++
        startsAfterBreaks ends (offset + before.length) after := by
  fun_induction startsAfterBreaks ends offset before with
  | case1 => rfl
  | case2 offset rest ih =>
    have hlength : offset + ('\r' :: '\n' :: rest).length = offset + 2 + rest.length := by
      rw [List.length_cons, List.length_cons]
      omega
    simp only [List.cons_append, startsAfterBreaks]
    rw [ih h.tail.tail, hlength, List.append_assoc]
  | case3 offset c rest hpair ih =>
    have hlength : offset + (c :: rest).length = offset + 1 + rest.length := by
      rw [List.length_cons]
      omega
    rw [List.cons_append, startsAfterBreaks.eq_3 _ _ _ _ (h.not_pair hpair), ih h.tail, hlength,
      List.append_assoc]

/-! ## The reader of scripts -/

/-- Unified, a character that opens no pair is itself or a line feed. -/
theorem unifyBreaks_cons {c : Char}
    (hpair : ∀ rest, c = '\r' → cs = '\n' :: rest → False) :
    unifyBreaks (c :: cs) = (if isBreak c then '\n' else c) :: unifyBreaks cs := by
  by_cases hreturn : c = '\r'
  · rw [hreturn, unifyBreaks.eq_3 _ fun rest => hpair rest hreturn]
    rfl
  · rw [unifyBreaks.eq_4 _ _ hpair hreturn]
    by_cases hfeed : c = '\n'
    · rw [hfeed]
      rfl
    · rw [if_neg (by simp [isBreak, hfeed, hreturn])]

theorem unifyBreaks_ne_nil (h : cs ≠ []) : unifyBreaks cs ≠ [] := by
  fun_cases unifyBreaks cs with
  | case1 => exact absurd rfl h
  | case2 | case3 | case4 => exact List.cons_ne_nil _ _

/-- At a seam the texts before it and behind it have their breaks unified apart. -/
theorem unifyBreaks_append (h : IsSeam before after) :
    unifyBreaks (before ++ after) = unifyBreaks before ++ unifyBreaks after := by
  fun_induction startsAfterBreaks isBreak 0 before with
  | case1 => rfl
  | case2 _ rest ih =>
    simp only [List.cons_append, unifyBreaks]
    rw [ih h.tail.tail]
  | case3 _ c rest hpair ih =>
    rw [List.cons_append, unifyBreaks_cons (h.not_pair hpair), unifyBreaks_cons hpair, ih h.tail,
      List.cons_append]

/-- Unified, a text has as many line feeds as it has breaks. -/
theorem count_unifyBreaks (offset : Nat) (cs : List Char) :
    (unifyBreaks cs).count '\n' = (startsAfterBreaks isBreak offset cs).length := by
  fun_induction startsAfterBreaks isBreak offset cs with
  | case1 => rfl
  | case2 offset rest ih =>
    rw [unifyBreaks, List.count_cons_self, ih, List.length_append, Nat.add_comm]
    rfl
  | case3 offset c rest hpair ih =>
    rw [unifyBreaks_cons hpair, List.length_append, ← ih]
    cases hbreak : isBreak c with
    | true =>
      rw [if_pos rfl, startIf_true, List.count_cons_self, Nat.add_comm]
      rfl
    | false =>
      have hfeed : c ≠ '\n' := by
        rintro rfl
        cases hbreak
      rw [if_neg Bool.false_ne_true, startIf_false, List.count_cons_of_ne hfeed]
      exact (Nat.zero_add _).symm

end Breaks

namespace Script.Spot

theorem line_ahead_readAll (p : Spot) (cs : List Char) {rest : List Char} (hrest : rest ≠ []) :
    ((p.readAll cs).ahead rest).line = (p.ahead rest).line + cs.count '\n' := by
  have hmore : rest.isEmpty = false := by simpa using hrest
  induction cs generalizing p with
  | nil => rfl
  | cons c cs ih =>
    have hread : ((p.read c).ahead rest).line =
        (p.ahead rest).line + if c = '\n' then 1 else 0 := by
      unfold read ahead
      cases p.fresh <;> by_cases hc : c = '\n' <;> simp [hmore, hc]
    unfold readAll at ih ⊢
    rw [List.foldl_cons, ih, hread, List.count_cons]
    simp only [beq_iff_eq]
    omega

end Script.Spot

/-! ## Two increasing rows -/

section Rows

variable {row l r : List Nat}

/-- In an increasing row, so many elements go up to one of them as its place says. -/
theorem countP_le_getElem (h : row.Pairwise (· < ·)) {i : Nat} (hi : i < row.length) :
    row.countP (· ≤ row[i]) = i + 1 := by
  have hheld : i < row.countP (· ≤ row[i]) :=
    (getElem_le_iff_lt_countP h _ hi).mp (Nat.le_refl _)
  have hnext : ¬ i + 1 < row.countP (· ≤ row[i]) := by
    intro hlt
    have hi' : i + 1 < row.length := Nat.lt_of_lt_of_le hlt List.countP_le_length
    have hle := (getElem_le_iff_lt_countP h _ hi').mpr hlt
    have hless := List.pairwise_iff_getElem.mp h i (i + 1) hi hi' (Nat.lt_succ_self i)
    omega
  omega

/-- When a row is made of two others, the first of them has the same element at a place exactly if
the second one has none up to there. -/
theorem getElem?_eq_iff_of_perm (hl : l.Pairwise (· < ·)) (hrow : row.Pairwise (· < ·))
    (h : row.Perm (l ++ r)) (i : Nat) :
    l[i]? = row[i]? ↔ ∀ a, row[i]? = some a → ∀ b ∈ r, a < b := by
  by_cases hi : i < row.length
  · rw [List.getElem?_eq_getElem hi]
    have hcount : i + 1 = l.countP (· ≤ row[i]) + r.countP (· ≤ row[i]) := by
      rw [← countP_le_getElem hrow hi, h.countP_eq, List.countP_append]
    have hafter : (∀ b ∈ r, row[i] < b) ↔ r.countP (· ≤ row[i]) = 0 := by
      simp [List.countP_eq_zero]
    have hall : (∀ a, some row[i] = some a → ∀ b ∈ r, a < b) ↔ ∀ b ∈ r, row[i] < b :=
      ⟨fun h => h _ rfl, by rintro h _ ⟨⟩; exact h⟩
    rw [hall, hafter]
    constructor
    · intro hsame
      obtain ⟨hi', hget⟩ := List.getElem?_eq_some_iff.mp hsame
      have hplace := countP_le_getElem hl hi'
      rw [hget] at hplace
      omega
    · intro hnone
      -- the element is none of the second row, so it has a place in the first one
      have hmem : row[i] ∈ l := by
        rcases List.mem_append.mp (h.mem_iff.mp (List.getElem_mem hi)) with hmem | hmem
        · exact hmem
        · exact absurd (hafter.mpr hnone _ hmem) (Nat.lt_irrefl _)
      obtain ⟨j, hj, hget⟩ := List.getElem_of_mem hmem
      have hplace := countP_le_getElem hl hj
      rw [hget] at hplace
      obtain rfl : j = i := by omega
      rw [List.getElem?_eq_getElem hj, hget]
  · have hlength := h.length_eq
    rw [List.length_append] at hlength
    rw [List.getElem?_eq_none (by omega), List.getElem?_eq_none (by omega)]
    exact iff_of_true rfl nofun

end Rows

/-! ## Lines -/

namespace Source

variable (s : Source)

/-- The offset at which each line of an editor starts. -/
def editorStarts : List Nat := 0 :: startsAfterBreaks isBreak 0 s.chars

/-- The 1-based line of an editor that holds an offset. -/
def editorLineOf (offset : Int) : Nat := s.editorStarts.countP (· ≤ s.clamp offset)

/-- The offsets just after each carriage return that no line feed follows. -/
def loneReturns : List Nat := startsAfterBreaks (· == '\r') 0 s.chars

theorem pairwise_editorStarts : s.editorStarts.Pairwise (· < ·) :=
  .cons (fun _ hn => (bounds_of_mem_startsAfterBreaks hn).1) (pairwise_startsAfterBreaks _ _ _)

/-- A line of an editor starts at the start of the text, behind each line feed and behind each carriage
return that no line feed follows. -/
theorem mem_editorStarts_iff {n : Nat} :
    n ∈ s.editorStarts ↔ n = 0 ∨ ∃ i, n = i + 1 ∧
      (s.chars[i]? = some '\n' ∨ (s.chars[i]? = some '\r' ∧ s.chars[i + 1]? ≠ some '\n')) := by
  unfold editorStarts
  rw [List.mem_cons, mem_startsAfterBreaks_iff]
  refine or_congr_right (exists_congr fun i => ?_)
  constructor
  · rintro ⟨c, hget, hbreak, rfl, hpair⟩
    refine ⟨congrArg (· + 1) (Nat.zero_add i), ?_⟩
    rcases Bool.or_eq_true_iff.mp hbreak with hc | hc
    · obtain rfl : c = '\n' := by simpa using hc
      exact .inl hget
    · obtain rfl : c = '\r' := by simpa using hc
      exact .inr ⟨hget, fun hnext => hpair ⟨rfl, hnext⟩⟩
  · rintro ⟨rfl, hget | ⟨hget, hnext⟩⟩
    · exact ⟨'\n', hget, rfl, by omega, by simp⟩
    · exact ⟨'\r', hget, rfl, by omega, fun hpair => hnext hpair.2⟩

/-- The lines of an editor start where those of the snapshot do, and after the lone carriage
returns. -/
theorem editorStarts_perm : s.editorStarts.Perm (s.lineStarts ++ s.loneReturns) := by
  have hkinds : ∀ c, (c == '\n') = true → (c == '\r') = false := by
    intro c hc
    obtain rfl : c = '\n' := by simpa using hc
    rfl
  have hperm := startsAfterBreaks_or_perm hkinds 0 s.chars
  rw [startsAfterBreaks_feed] at hperm
  exact hperm.cons 0

theorem editorLineOf_eq (offset : Int) :
    s.editorLineOf offset = s.lineOf offset + s.loneReturns.countP (· ≤ s.clamp offset) := by
  unfold editorLineOf lineOf
  rw [s.editorStarts_perm.countP_eq, List.countP_append]

theorem lineStarts_eq_editorStarts_iff : s.lineStarts = s.editorStarts ↔ s.loneReturns = [] := by
  constructor
  · intro h
    have hlength := s.editorStarts_perm.length_eq
    rw [List.length_append, h] at hlength
    exact List.length_eq_zero_iff.mp (by omega)
  · intro h
    refine List.ext_getElem? fun i => ?_
    rw [getElem?_eq_iff_of_perm s.pairwise_lineStarts s.pairwise_editorStarts s.editorStarts_perm, h]
    nofun

theorem loneReturns_eq_nil_iff :
    s.loneReturns = [] ↔ ∀ i, s.chars[i]? = some '\r' → s.chars[i + 1]? = some '\n' := by
  simp only [List.eq_nil_iff_forall_not_mem, loneReturns, mem_startsAfterBreaks_iff]
  constructor
  · intro h i hget
    refine Decidable.of_not_not fun hnext => ?_
    exact h (0 + i + 1) ⟨i, '\r', hget, rfl, rfl, fun hpair => hnext hpair.2⟩
  · rintro h n ⟨i, c, hget, hends, -, hpair⟩
    obtain rfl : c = '\r' := by simpa using hends
    exact hpair ⟨rfl, h i hget⟩

theorem position_line (offset : Int) : (s.position offset).1 + 1 = s.lineOf offset := by
  have hclamp : s.lineOf (s.clamp offset) = s.lineOf offset := by
    unfold lineOf
    rw [clamp_of_le (s.clamp_le offset)]
  have hpos := s.one_le_lineOf offset
  show s.lineOf (s.clamp offset) - 1 + 1 = _
  rw [hclamp]
  omega

variable {s}

theorem line_readAll_unifyBreaks {before after rest : List Char} (hs : s.chars = before ++ after)
    (hseam : IsSeam before after) (hrest : rest ≠ []) :
    (((Spot.before 1).readAll (unifyBreaks before)).ahead rest).line =
      s.editorLineOf before.length := by
  have hclamp : s.clamp before.length = before.length :=
    clamp_of_le (by unfold Source.length; rw [hs, List.length_append]; omega)
  have hfirst : ((Spot.before 1).ahead rest).line = 1 := by
    unfold Spot.ahead Spot.before
    simp [hrest]
  -- the breaks before the place are counted, those behind it are not
  have hbefore : (startsAfterBreaks isBreak 0 before).countP (· ≤ before.length) =
      (startsAfterBreaks isBreak 0 before).length := by
    refine List.countP_eq_length.mpr fun n hn => ?_
    simpa using (bounds_of_mem_startsAfterBreaks hn).2
  have hafter : (startsAfterBreaks isBreak (0 + before.length) after).countP
      (· ≤ before.length) = 0 := by
    refine List.countP_eq_zero.mpr fun n hn => ?_
    simpa using (bounds_of_mem_startsAfterBreaks hn).1
  unfold editorLineOf editorStarts
  rw [Spot.line_ahead_readAll _ _ hrest, hfirst, count_unifyBreaks 0, hclamp, hs,
    startsAfterBreaks_append hseam, List.countP_cons_of_pos (by simp), List.countP_append, hbefore,
    hafter]
  omega

theorem exists_ahead {before after : List Char} {c : Char} (hs : s.chars = before ++ c :: after)
    (hseam : IsSeam before (c :: after)) :
    ∃ rest, rest ≠ [] ∧ readable s.chars = unifyBreaks before ++ rest := by
  have hmore := unifyBreaks_ne_nil (List.cons_ne_nil c after)
  unfold readable
  dsimp only
  rw [hs, unifyBreaks_append hseam]
  split
  · exact ⟨_, hmore, rfl⟩
  · exact ⟨_, List.append_ne_nil_of_left_ne_nil hmore _, List.append_assoc _ _ _⟩

end Source

/-- **Lines.** An editor's line starts at the start of the text, behind each line feed and behind each
carriage return that no line feed follows. The lines of a snapshot are these exactly if a line feed
follows every carriage return. In any text the line of an offset, and with it that of its position,
falls behind the editor's by the number of lone carriage returns up to there; a line starts where the
editor's line of the same number does exactly if no lone carriage return stands before it. The reader
of scripts, in front of any character that is not the second half of a break, is on the editor's
line. -/
theorem lines_of_editor (s : Source) :
    (s.editorStarts.Pairwise (· < ·) ∧ ∀ n, n ∈ s.editorStarts ↔ n = 0 ∨ ∃ i, n = i + 1 ∧
      (s.chars[i]? = some '\n' ∨ (s.chars[i]? = some '\r' ∧ s.chars[i + 1]? ≠ some '\n'))) ∧
    (s.lineStarts = s.editorStarts ↔
      ∀ i, s.chars[i]? = some '\r' → s.chars[i + 1]? = some '\n') ∧
    (∀ offset : Int,
      s.editorLineOf offset = s.lineOf offset + s.loneReturns.countP (· ≤ s.clamp offset) ∧
        (s.position offset).1 + 1 = s.lineOf offset) ∧
    (∀ i : Nat, s.lineStarts[i]? = s.editorStarts[i]? ↔
      ∀ start, s.editorStarts[i]? = some start → ∀ r ∈ s.loneReturns, start < r) ∧
    ∀ before c after, s.chars = before ++ c :: after → IsSeam before (c :: after) →
      ∃ rest, readable s.chars = unifyBreaks before ++ rest ∧
        (((Spot.before 1).readAll (unifyBreaks before)).ahead rest).line =
          s.editorLineOf before.length := by
  refine ⟨⟨s.pairwise_editorStarts, fun n => s.mem_editorStarts_iff⟩,
    s.lineStarts_eq_editorStarts_iff.trans s.loneReturns_eq_nil_iff,
    fun offset => ⟨s.editorLineOf_eq offset, s.position_line offset⟩,
    getElem?_eq_iff_of_perm s.pairwise_lineStarts s.pairwise_editorStarts s.editorStarts_perm, ?_⟩
  intro before c after hs hseam
  obtain ⟨rest, hrest, hread⟩ := Source.exists_ahead hs hseam
  exact ⟨rest, hread, Source.line_readAll_unifyBreaks hs hseam hrest⟩

/-- Three lines with a break of either kind between them. -/
def Source.mixed : Source := .ofString "a\r\nb\rc"

/-- In front of its last character the reader is on the third line, the snapshot on the second. -/
theorem lines_of_mixed :
    Source.mixed.lineOf 5 = 2 ∧ (Source.mixed.position 5).1 = 1 ∧
      ∃ rest, readable Source.mixed.chars = unifyBreaks ['a', '\r', '\n', 'b', '\r'] ++ rest ∧
        (((Spot.before 1).readAll (unifyBreaks ['a', '\r', '\n', 'b', '\r'])).ahead rest).line =
          3 := by
  obtain ⟨-, -, hlines, -, hreader⟩ := lines_of_editor .mixed
  obtain ⟨hline, hposition⟩ := hlines 5
  have htwo : Source.mixed.lineOf 5 = 2 := by decide
  have hthree : Source.mixed.editorLineOf 5 = 3 := by
    rw [hline, htwo]
    decide
  obtain ⟨rest, hread, hspot⟩ := hreader ['a', '\r', '\n', 'b', '\r'] 'c' [] (by decide)
    (by unfold IsSeam; decide)
  exact ⟨htwo, by omega, rest, hread, hspot.trans hthree⟩

/-- A text does not always have the lines of an editor. -/
theorem not_always_lines_of_editor : ¬ ∀ s : Source, s.lineStarts = s.editorStarts := by
  intro h
  exact absurd (h .mixed) (by decide)

end LiveSketch

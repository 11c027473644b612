import LiveSketch.Compile.Checkpoint

/-!
# Computations that pass a known number of checkpoints

`Checked.Passes x n e`: left alone, `x` passes `n` checkpoints and ends with `e`, and a cancellation
that is found from checkpoint `k` on stops it at the first of its own checkpoints that is not before
`k`, if it has one. The number and the end of a sequence follow from those of its parts
(`Passes.bind`), so the relation is read off a computation clause by clause.
-/

namespace LiveSketch

namespace Checked

variable {α β : Type} {x : Checked α} {f : α → Checked β} {n m : Nat}

/-- Where `n` checkpoints after the first `passed` ones come to: the cancellation, if one of them
finds it, and else the end `e`. -/
def endOf (cancelAt : Option Nat) (passed n : Nat) (e : Except Halt α) : Except Halt α × Nat :=
  match cancelAt with
  | some first =>
    if 0 < n ∧ first ≤ passed + n then (.error .cancelled, max first (passed + 1))
    else (e, passed + n)
  | none => (e, passed + n)

/-- From any count on, `x` passes `n` checkpoints and ends with `e` unless one of them finds a
cancellation. -/
def Passes (x : Checked α) (n : Nat) (e : Except Halt α) : Prop :=
  ∀ cancelAt passed, (x.run cancelAt).run.run passed = endOf cancelAt passed n e

@[simp]
theorem endOf_none (passed n : Nat) (e : Except Halt α) : endOf none passed n e = (e, passed + n) :=
  rfl

theorem endOf_hit {first passed n : Nat} (e : Except Halt α) (h : 0 < n ∧ first ≤ passed + n) :
    endOf (some first) passed n e = (.error .cancelled, max first (passed + 1)) := if_pos h

theorem endOf_miss {first passed n : Nat} (e : Except Halt α) (h : ¬ (0 < n ∧ first ≤ passed + n)) :
    endOf (some first) passed n e = (e, passed + n) := if_neg h

@[simp]
theorem endOf_zero (cancelAt : Option Nat) (passed : Nat) (e : Except Halt α) :
    endOf cancelAt passed 0 e = (e, passed) := by
  cases cancelAt with
  | none => rfl
  | some first => rw [endOf_miss e (by omega), Nat.add_zero]

theorem endOf_ok {cancelAt : Option Nat} {passed count : Nat} {e : Except Halt α} {a : α}
    (h : endOf cancelAt passed n e = (.ok a, count)) (e' : Except Halt α) :
    endOf cancelAt passed n e' = (e', count) := by
  cases cancelAt with
  | none => exact congrArg (e', ·) (congrArg Prod.snd h)
  | some first =>
    by_cases hhit : 0 < n ∧ first ≤ passed + n
    · rw [endOf_hit e hhit] at h
      cases h
    · rw [endOf_miss e hhit] at h
      rw [endOf_miss e' hhit]
      exact congrArg (e', ·) (congrArg Prod.snd h)

/-! ## The parts of a computation -/

theorem passes_pure (a : α) : Passes (pure a) 0 (.ok a) := by
  intro cancelAt passed
  rw [endOf_zero]
  rfl

theorem passes_throw (h : Halt) : Passes (throw h : Checked α) 0 (.error h) := by
  intro cancelAt passed
  rw [endOf_zero]
  rfl

theorem passes_checkpoint : Passes checkpoint 1 (.ok ()) := by
  intro cancelAt passed
  cases cancelAt with
  | none => rfl
  | some first =>
    have hrun : (checkpoint.run (some first)).run.run passed =
        (((if first ≤ passed + 1 then throw .cancelled else pure () : Checked Unit).run
          (some first)).run.run (passed + 1)) := rfl
    rw [hrun]
    by_cases h : first ≤ passed + 1
    · rw [if_pos h, endOf_hit _ ⟨Nat.one_pos, h⟩, Nat.max_eq_right h]
      rfl
    · rw [if_neg h, endOf_miss _ (by omega)]
      rfl

/-- What a sequence comes to, by what its first part comes to. -/
theorem run_bind_eq (x : Checked α) (f : α → Checked β) (cancelAt : Option Nat) (passed : Nat) :
    ((x >>= f).run cancelAt).run.run passed =
      match (x.run cancelAt).run.run passed with
      | (.ok a, count) => ((f a).run cancelAt).run.run count
      | (.error h, count) => (.error h, count) := by
  simp only [ReaderT.run_bind, ExceptT.run_bind, StateT.run_bind]
  rcases (x.run cancelAt).run.run passed with ⟨_ | _, _⟩ <;> rfl

theorem Passes.bind {a : α} {e : Except Halt β} (hx : Passes x n (.ok a)) (hf : Passes (f a) m e) :
    Passes (x >>= f) (n + m) e := by
  intro cancelAt passed
  rw [run_bind_eq, hx cancelAt passed]
  cases cancelAt with
  | none =>
    show ((f a).run none).run.run (passed + n) = _
    rw [hf none, endOf_none, endOf_none, Nat.add_assoc]
  | some first =>
    by_cases h : 0 < n ∧ first ≤ passed + n
    · rw [endOf_hit _ h, endOf_hit _ (by omega)]
    · rw [endOf_miss _ h]
      show ((f a).run (some first)).run.run (passed + n) = _
      rw [hf (some first)]
      -- the second part decides, and what it finds is not before the end of the first
      by_cases hm : 0 < m ∧ first ≤ passed + n + m
      · rw [endOf_hit _ hm, endOf_hit _ (by omega)]
        congr 1
        omega
      · rw [endOf_miss _ hm, endOf_miss _ (by omega), Nat.add_assoc]

theorem Passes.bind_error {h : Halt} (hx : Passes x n (.error h)) :
    Passes (x >>= f) n (.error h) := by
  intro cancelAt passed
  rw [run_bind_eq, hx cancelAt passed]
  cases cancelAt with
  | none => rfl
  | some first =>
    by_cases hn : 0 < n ∧ first ≤ passed + n
    · rw [endOf_hit _ hn, endOf_hit _ hn]
    · rw [endOf_miss _ hn, endOf_miss _ hn]

/-! ## Whole runs -/

theorem Passes.runFrom {e : Except Halt α} (hx : Passes x n e) (cancelAt : Option Nat) :
    x.runFrom cancelAt = endOf cancelAt 0 n e := hx cancelAt 0

/-- A run that nobody cancels comes to the end of the computation. -/
theorem Passes.runFrom_none {e : Except Halt α} (hx : Passes x n e) : (x.runFrom none).1 = e := by
  rw [hx.runFrom, endOf_none]

theorem Passes.runFrom_eq_or {e : Except Halt α} (hx : Passes x n e) (cancelAt : Option Nat) :
    (x.runFrom cancelAt).1 = .error .cancelled ∨ (x.runFrom cancelAt).1 = e := by
  rw [hx.runFrom]
  cases cancelAt with
  | none => exact .inr rfl
  | some first =>
    by_cases h : 0 < n ∧ first ≤ 0 + n
    · rw [endOf_hit _ h]
      exact .inl rfl
    · rw [endOf_miss _ h]
      exact .inr rfl

end Checked

end LiveSketch

import LiveSketch.Proofs.Compile.Course

/-!
# Cancelling a compile

A cancelled compile gives nothing, and a compile that is not stopped gives what it would have given
anyway:

1. `Checked.AllOrNothing` states this of a computation for every checkpoint from which a
   cancellation may be found; `Passes.allOrNothing` proves it of one with a known number of
   checkpoints.
2. `phaseCheckpoints_eq` and `compile_count` count the checkpoints of a compile: the first one, one
   for a tree, one for the step to code generation, and one for each finding.
3. `compileAwaited_passes` adds the checkpoint of a caller who waits.
-/

namespace LiveSketch

namespace Checked

variable {α : Type} {x : Checked α}

/-- A cancellation found from the `k`-th checkpoint on stops the computation exactly there, if it
comes so far, and is without effect otherwise. -/
structure AllOrNothing (x : Checked α) : Prop where
  stopped : ∀ k, 0 < k → k ≤ (x.runFrom none).2 → x.runFrom (some k) = (.error .cancelled, k)
  spared : ∀ k, (x.runFrom none).2 < k → x.runFrom (some k) = x.runFrom none
  whole : ∀ cancelAt, (x.runFrom cancelAt).1 = .error .cancelled ∨
    x.runFrom cancelAt = x.runFrom none

theorem Passes.count {n : Nat} {e : Except Halt α} (hx : Passes x n e) :
    (x.runFrom none).2 = n := by
  rw [hx.runFrom, endOf_none, Nat.zero_add]

theorem Passes.allOrNothing {n : Nat} {e : Except Halt α} (hx : Passes x n e) :
    x.AllOrNothing := by
  have hstopped : ∀ k, k ≤ n → 0 < n → x.runFrom (some k) = (.error .cancelled, max k 1) := by
    intro k hk hn
    rw [hx.runFrom, endOf_hit e ⟨hn, by omega⟩]
  have hspared : ∀ k, ¬ (0 < n ∧ k ≤ n) → x.runFrom (some k) = x.runFrom none := by
    intro k hk
    rw [hx.runFrom, hx.runFrom, endOf_miss e (by omega), endOf_none]
  refine ⟨fun k hk hle => ?_, fun k hlt => ?_, fun cancelAt => ?_⟩
  · rw [hx.count] at hle
    rw [hstopped k hle (by omega), Nat.max_eq_left hk]
  · rw [hx.count] at hlt
    exact hspared k (by omega)
  · cases cancelAt with
    | none => exact .inr rfl
    | some k =>
      by_cases hk : 0 < n ∧ k ≤ n
      · rw [hstopped k hk.2 hk.1]
        exact .inl rfl
      · exact .inr (hspared k hk)

theorem Passes.runFrom_put_off {n : Nat} {e : Except Halt α} {y : Checked α} (hx : Passes x n e)
    (hy : Passes y (1 + n) e) {k : Nat} (hk : 0 < k) :
    y.runFrom (some (k + 1)) = ((x.runFrom (some k)).1, (x.runFrom (some k)).2 + 1) := by
  rw [hx.runFrom, hy.runFrom]
  by_cases h : 0 < n ∧ k ≤ 0 + n
  · rw [endOf_hit e h, endOf_hit e (by omega)]
    congr 1
    omega
  · rw [endOf_miss e h, endOf_miss e (by omega)]
    congr 1
    omega

end Checked

open Checked

variable {σ ν : Type} (s : Source) (program : Program σ) (r : References) (loaded : Loaded)

/-! ## The checkpoints of a compile -/

/-- Between the phases there is one checkpoint for a tree and one for the step to code. -/
theorem phaseCheckpoints_eq :
    phaseCheckpoints s program r loaded =
      (if program.parse.ended.isOk then 1 else 0) +
        (if reachesEmit s program r loaded then 1 else 0) := by
  unfold phaseCheckpoints reachesEmit
  cases hended : program.parse.ended with
  | ok tree =>
    rw [parseFindings_of_tree hended]
    by_cases herror : anyError (warningFindings program.parse.warnings s ++
      tree.analyze s r loaded) = true <;> simp [herror, Except.isOk, Except.toBool]
  | error b =>
    rcases hfound : parseFindings s program.parse with fault | ⟨findings, tree?⟩
    · rfl
    · obtain rfl := parseFindings_of_breakdown hended hfound
      rfl

theorem collected_eq :
    ((collectFindings s program r loaded).runFrom none).1 =
      (findingsOf s program r loaded).mapError Halt.fault :=
  (collectFindings_passes s program r loaded).runFrom_none

/-- A compile that gives a result has passed a checkpoint at its start, one for a tree, one for the
step to code, and one for each finding. -/
theorem compile_count {c : Compiled σ ν}
    (h : ((compile s program r loaded).runFrom none).1 = .ok c) :
    ∃ findings tree?,
      ((collectFindings s program r loaded).runFrom none).1 = .ok (findings, tree?) ∧
      Course s program r loaded findings tree? ∧
      ((compile s program r loaded : Checked (Compiled σ ν)).runFrom none).2 =
        1 + (if program.parse.ended.isOk then 1 else 0) +
          (if reachesEmit s program r loaded then 1 else 0) + findings.length := by
  have hpasses := compile_passes (ν := ν) s program r loaded
  rw [hpasses.runFrom_none] at h
  rw [collected_eq, hpasses.count]
  unfold compileOutcome at h
  unfold compileCheckpoints
  cases hfound : findingsOf s program r loaded with
  | error fault => rw [hfound] at h; cases h
  | ok found =>
    refine ⟨found.1, found.2, rfl, course_of_findingsOf hfound, ?_⟩
    rw [phaseCheckpoints_eq]
    dsimp only
    omega

/-- A compile for a waiting caller passes one checkpoint more and comes to the same outcome. -/
theorem compileAwaited_passes :
    Passes (compileAwaited s program r loaded : Checked (Compiled σ ν))
      (1 + compileCheckpoints s program r loaded) (compileOutcome s program r loaded) :=
  passes_checkpoint.bind (compile_passes s program r loaded)

/-- **Cancellation is all or nothing.** A compile stops exactly at the first checkpoint that finds
its cancellation, and is the same as without one if it has fewer checkpoints; if it gives a result,
its checkpoints are counted by its phases and findings. For a waiting caller there is one more
checkpoint, in front of all others. -/
theorem cancellation_all_or_nothing :
    (compile s program r loaded : Checked (Compiled σ ν)).AllOrNothing ∧
      (∀ c, ((compile s program r loaded : Checked (Compiled σ ν)).runFrom none).1 = .ok c →
        ∃ findings tree?,
          ((collectFindings s program r loaded).runFrom none).1 = .ok (findings, tree?) ∧
          Course s program r loaded findings tree? ∧
          ((compile s program r loaded : Checked (Compiled σ ν)).runFrom none).2 =
            1 + (if program.parse.ended.isOk then 1 else 0) +
              (if reachesEmit s program r loaded then 1 else 0) + findings.length) ∧
      (reachesEmit s program r loaded = true ↔ ∃ tree, program.parse.ended = .ok tree ∧
        ∀ f ∈ analysedFindings s program r loaded tree, f.level ≠ .error) ∧
      (compileAwaited s program r loaded : Checked (Compiled σ ν)).AllOrNothing ∧
      (compileAwaited s program r loaded : Checked (Compiled σ ν)).runFrom none =
        (((compile s program r loaded).runFrom none).1,
          ((compile s program r loaded : Checked (Compiled σ ν)).runFrom none).2 + 1) ∧
      ∀ k, (compileAwaited s program r loaded : Checked (Compiled σ ν)).runFrom (some (k + 2)) =
        (((compile s program r loaded).runFrom (some (k + 1))).1,
          ((compile s program r loaded : Checked (Compiled σ ν)).runFrom
            (some (k + 1))).2 + 1) := by
  have hcompile := compile_passes (ν := ν) s program r loaded
  have hawaited := compileAwaited_passes (ν := ν) s program r loaded
  refine ⟨hcompile.allOrNothing, fun c h => compile_count s program r loaded h, reachesEmit_iff,
    hawaited.allOrNothing, ?_, fun k => hcompile.runFrom_put_off hawaited k.succ_pos⟩
  rw [hcompile.runFrom, hawaited.runFrom]
  simp only [endOf_none, Nat.zero_add, Nat.add_comm 1]

end LiveSketch

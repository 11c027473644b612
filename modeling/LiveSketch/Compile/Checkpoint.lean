import LiveSketch.Fault.Basic

/-!
# Checkpoints

A compile passes checkpoints, at each of which it may find that it was cancelled. `Checked α` is a
computation that counts the checkpoints it passes; it is run with the number of the first
checkpoint that finds the cancellation, if one does.
-/

namespace LiveSketch

/-- Why a compile gave no result. -/
inductive Halt where
  | cancelled
  | fault (fault : Fault)
deriving Inhabited

abbrev Checked (α : Type) := ReaderT (Option Nat) (ExceptT Halt (StateM Nat)) α

/-- Passes a checkpoint. Once cancelled, every later checkpoint finds it too. -/
def checkpoint : Checked Unit := do
  let passed := (← get) + 1
  set passed
  match ← read with
  | some first => if first ≤ passed then throw .cancelled
  | none => pure ()

/-- Runs a computation from its start: its end, and how many checkpoints it passed. -/
def Checked.runFrom {α : Type} (x : Checked α) (cancelAt : Option Nat) : Except Halt α × Nat :=
  ((x.run cancelAt).run).run 0

end LiveSketch

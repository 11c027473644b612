import LiveSketch.Compile.Flow
import LiveSketch.Proofs.Compile.Checkpoint

/-!
# What a compile comes to

A compile left alone is a function of its text, its program, its references and the loaded modules:
`compileOutcome`. `compile_passes` says so and counts its checkpoints, so that what a cancelled run
gives is known as well.

1. `findingsOf` gathers the findings, and the tree when there is code for it.
2. `diagnosticsOf` keeps those with a place and a severity.
3. `Compiled.ofFindings` sorts them and adds the artifact, or the error of a missing entry point.
-/

namespace LiveSketch

variable {σ ν : Type}

/-! ## The outcome -/

/-- All findings of a text in production order, and its tree when there is code for it, or the fault
that halts the compile. -/
def findingsOf (s : Source) (program : Program σ) (r : References) (loaded : Loaded) :
    Except Fault (List Finding × Option Node) := do
  let (parsed, tree?) ← parseFindings s program.parse
  match tree? with
  | none => pure (parsed, none)
  | some tree =>
    let analysed := parsed ++ tree.analyze s r loaded
    if anyError analysed then pure (analysed, none)
    else do
      let (emitted, hasCode) ← emitFindings s program.emit
      pure (analysed ++ emitted, if hasCode then some tree else none)

/-- The diagnostics of the findings that have a place in the text and a severity. -/
def diagnosticsOf (s : Source) (findings : List Finding) : List Diagnostic :=
  ((findings.filter Finding.inSource).map (Finding.locate · s)).filter (·.severity != .silent)

def Compiled.ofFindings (s : Source) (start : σ) (findings : List Finding) (tree? : Option Node) :
    Compiled σ ν :=
  match tree? with
  | none => ⟨s, sortDiagnostics (diagnosticsOf s findings), none⟩
  | some tree => match Artifact.ofTree? tree start with
    | some artifact => ⟨s, sortDiagnostics (diagnosticsOf s findings), some artifact⟩
    | none => ⟨s, sortDiagnostics (diagnosticsOf s findings ++ [entryMissing]), none⟩

/-- What a compile comes to that nobody cancels. -/
def compileOutcome (s : Source) (program : Program σ) (r : References) (loaded : Loaded) :
    Except Halt (Compiled σ ν) :=
  match findingsOf s program r loaded with
  | .ok (findings, tree?) => .ok (.ofFindings s program.start findings tree?)
  | .error fault => .error (.fault fault)

/-! ## Its checkpoints -/

/-- The checkpoints between the phases: one after a parse, and one before code generation. -/
def phaseCheckpoints (s : Source) (program : Program σ) (r : References) (loaded : Loaded) :
    Nat :=
  match parseFindings s program.parse with
  | .ok (parsed, some tree) => if anyError (parsed ++ tree.analyze s r loaded) then 1 else 2
  | _ => 0

/-- The checkpoints of a compile: one at its start, those between the phases, one for each
finding. -/
def compileCheckpoints (s : Source) (program : Program σ) (r : References) (loaded : Loaded) :
    Nat :=
  1 + (phaseCheckpoints s program r loaded +
    match findingsOf s program r loaded with
    | .ok (findings, _) => findings.length
    | .error _ => 0)

open Checked

theorem locateAll_passes (s : Source) (findings : List Finding) :
    Passes (locateAll s findings) findings.length (.ok (diagnosticsOf s findings)) := by
  induction findings with
  | nil => exact passes_pure _
  | cons f rest ih =>
    have hrest : Passes (locateAll s rest >>= fun later =>
        pure (if f.inSource && (f.locate s).severity != .silent then f.locate s :: later
          else later))
        (rest.length + 0) (.ok (diagnosticsOf s (f :: rest))) := by
      refine ih.bind ?_
      have hcons : diagnosticsOf s (f :: rest) =
          if f.inSource && (f.locate s).severity != .silent
          then f.locate s :: diagnosticsOf s rest else diagnosticsOf s rest := by
        unfold diagnosticsOf
        by_cases hplace : f.inSource <;> by_cases hsilent : (f.locate s).severity != .silent <;>
          simp [hplace, hsilent]
      rw [hcons]
      exact passes_pure _
    rw [List.length_cons, Nat.add_comm]
    exact passes_checkpoint.bind hrest

theorem orHalt_ok {α β : Type} (a : α) (f : α → Checked β) : (orHalt (.ok a) >>= f) = f a :=
  pure_bind a f

theorem passes_orHalt_error {α β : Type} (fault : Fault) (f : α → Checked β) :
    Passes (orHalt (.error fault) >>= f) 0 (.error (.fault fault)) :=
  (passes_throw (.fault fault)).bind_error

theorem collectFindings_passes (s : Source) (program : Program σ) (r : References)
    (loaded : Loaded) :
    Passes (collectFindings s program r loaded) (phaseCheckpoints s program r loaded)
      ((findingsOf s program r loaded).mapError Halt.fault) := by
  unfold collectFindings phaseCheckpoints findingsOf
  rcases parseFindings s program.parse with fault | ⟨parsed, _ | tree⟩
  · exact passes_orHalt_error fault _
  · rw [orHalt_ok]
    exact passes_pure _
  · rw [orHalt_ok]
    show Passes (checkpoint >>= fun _ => ite _ _ _) _ (Except.mapError _ (ite _ _ _))
    by_cases herror : anyError (parsed ++ tree.analyze s r loaded) = true
    · simp only [if_pos herror]
      exact Passes.bind (m := 0) passes_checkpoint (passes_pure _)
    · simp only [if_neg herror]
      refine passes_checkpoint.bind (m := 1) (passes_checkpoint.bind (m := 0) ?_)
      rcases emitFindings s program.emit with fault | ⟨emitted, hasCode⟩
      · exact passes_orHalt_error fault _
      · rw [orHalt_ok]
        exact passes_pure _

theorem compile_passes (s : Source) (program : Program σ) (r : References) (loaded : Loaded) :
    Passes (compile s program r loaded : Checked (Compiled σ ν))
      (compileCheckpoints s program r loaded) (compileOutcome s program r loaded) := by
  unfold compile compileCheckpoints compileOutcome
  have hcollect := collectFindings_passes s program r loaded
  rcases hfound : findingsOf s program r loaded with fault | ⟨findings, tree?⟩
  · rw [hfound] at hcollect
    exact passes_checkpoint.bind
      (Passes.bind_error (n := phaseCheckpoints s program r loaded) hcollect)
  · rw [hfound] at hcollect
    refine passes_checkpoint.bind
      (Passes.bind (n := phaseCheckpoints s program r loaded) hcollect ?_)
    refine Passes.bind (m := 0) (locateAll_passes s findings) ?_
    unfold Compiled.ofFindings
    cases tree? with
    | none => exact passes_pure _
    | some tree =>
      dsimp only
      cases (Artifact.ofTree? tree program.start : Option (Artifact σ ν)) with
      | none => exact passes_pure _
      | some artifact => exact passes_pure _

/-! ## Compiles that are carried out -/

/-- A compile that nobody cancels gives what its findings come to. -/
theorem runFrom_none_of_findingsOf (program : Program σ) {findings : List Finding}
    {tree? : Option Node}
    (h : findingsOf s program r loaded = .ok (findings, tree?)) :
    ((compile s program r loaded : Checked (Compiled σ ν)).runFrom none).1 =
      .ok (.ofFindings s program.start findings tree?) := by
  rw [(compile_passes _ _ _ _).runFrom_none]
  unfold compileOutcome
  rw [h]

/-- What returns, if it can be seen by one thing that it gives. -/
theorem exists_ok_of_map {ε α β : Type} {x : Except ε α} {f : α → β} {b : β}
    (h : x.toOption.map f = some b) : ∃ a, x = .ok a ∧ f a = b := by
  cases x with
  | error fault => cases h
  | ok a => exact ⟨a, rfl, Option.some.inj h⟩

end LiveSketch

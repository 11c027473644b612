import LiveSketch.Proofs.Compile.Outcome
import LiveSketch.Proofs.Diagnostic.Order

/-!
# What becomes of a breakdown of the language

A phase of the language can break down over the text, over a value in it, or otherwise. A compile
reports some of these as an error of the text and is halted by all others; which of the two is
decided by the phase and the breakdown alone (`Breakdown.isReported`):

1. a reported breakdown leads to a result with an error and without an artifact
   (`compileOutcome_of_reported`);
2. any other leads to a fault and to no result (`compileOutcome_of_unreported`).
-/

namespace LiveSketch

variable {σ ν : Type} {s : Source} {program : Program σ} {r : References} {loaded : Loaded}

/-! ## Results -/

theorem compileOutcome_source {c : Compiled σ ν} (h : compileOutcome s program r loaded = .ok c) :
    c.source = s := by
  unfold compileOutcome at h
  split at h
  · obtain rfl := Except.ok.inj h
    unfold Compiled.ofFindings
    split
    · rfl
    · split <;> rfl
  · cases h

/-- The diagnostics of a result stand in reading order. -/
theorem compileOutcome_sorted {c : Compiled σ ν} (h : compileOutcome s program r loaded = .ok c) :
    sortDiagnostics c.diagnostics = c.diagnostics := by
  unfold compileOutcome at h
  split at h
  · obtain rfl := Except.ok.inj h
    unfold Compiled.ofFindings
    split
    · exact sortDiagnostics_idem _
    · split <;> exact sortDiagnostics_idem _
  · cases h

theorem compileOutcome_ne_cancelled :
    (compileOutcome s program r loaded : Except Halt (Compiled σ ν)) ≠ .error .cancelled := by
  unfold compileOutcome
  split <;> simp

/-- The findings hold an error with a place in the text. -/
def HasPlacedError (findings : List Finding) : Prop :=
  ∃ f ∈ findings, f.inSource = true ∧ f.level = .error

theorem HasPlacedError.append {findings : List Finding} (h : HasPlacedError findings)
    (before : List Finding) : HasPlacedError (before ++ findings) := by
  obtain ⟨f, hf, herror⟩ := h
  exact ⟨f, List.mem_append_right before hf, herror⟩

theorem HasPlacedError.any_isError {findings : List Finding} (h : HasPlacedError findings) :
    (diagnosticsOf s findings).any Diagnostic.isError = true := by
  obtain ⟨f, hf, hplace, hlevel⟩ := h
  have herror : (f.locate s).severity = .error := by
    show f.level.severity = .error
    rw [hlevel]
    rfl
  rw [List.any_eq_true]
  refine ⟨f.locate s, ?_, ?_⟩
  · unfold diagnosticsOf
    rw [List.mem_filter]
    refine ⟨List.mem_map_of_mem (List.mem_filter.mpr ⟨hf, hplace⟩), ?_⟩
    rw [herror]
    rfl
  · unfold Diagnostic.isError
    rw [herror]
    rfl

theorem HasPlacedError.hasErrors {start : σ} {findings : List Finding}
    (h : HasPlacedError findings) :
    (Compiled.ofFindings s start findings none : Compiled σ ν).hasErrors = true := by
  show (sortDiagnostics _).any _ = true
  rw [any_isError_sortDiagnostics]
  exact h.any_isError

/-! ## Breakdowns -/

/-- The phases of the language. -/
inductive Stage where
  | parse | emit
deriving DecidableEq, Repr

/-- A compile of the text comes to this phase, which breaks down. -/
def BreaksDown (s : Source) (program : Program σ) (r : References) (loaded : Loaded)
    (b : Breakdown) : Stage → Prop
  | .parse => program.parse.ended = .error b
  | .emit => reachesEmit s program r loaded = true ∧ program.emit.ended = .error b

namespace Breakdown

/-- A malformed text is malformed in this script and not in another file. -/
def InOwnText : Breakdown → Prop
  | malformed e => e.file = none ∨ e.file = some unitFile
  | _ => True

/-- The phase has the breakdown reported: a malformed text always, a bad value while parsing and if
it has words. -/
def isReported : Breakdown → Stage → Bool
  | malformed _, _ => true
  | badValue fault, .parse => fault.words.isOk
  | _, _ => false

end Breakdown

theorem Malformed.finding_inSource {e : Malformed} (h : e.file = none ∨ e.file = some unitFile)
    (unit : ColumnUnit) : (e.finding s unit).inSource = true := by
  have hfile : e.file.getD unitFile = unitFile := by
    rcases h with h | h <;> rw [h] <;> rfl
  unfold Finding.inSource Malformed.finding
  rw [hfile]
  simp

/-! ### While parsing -/

theorem parseFindings_of_reported {phase : Phase Node} {b : Breakdown}
    (hended : phase.ended = .error b) (hown : b.InOwnText)
    (hreported : b.isReported .parse = true) :
    ∃ findings, parseFindings s phase = .ok (findings, none) ∧ HasPlacedError findings := by
  unfold parseFindings
  rw [hended]
  cases b with
  | malformed e =>
    exact ⟨_, rfl, e.finding s .characters, List.mem_cons_self,
      Malformed.finding_inSource hown _, rfl⟩
  | badValue fault =>
    have hwords : fault.words.isOk = true := hreported
    cases hw : fault.words with
    | error other => rw [hw] at hwords; cases hwords
    | ok words =>
      show ∃ findings, Except.map _ fault.words = .ok (findings, none) ∧ HasPlacedError findings
      rw [hw]
      exact ⟨_, rfl, .ofSpan "E0001" .error words (0, 0), List.mem_cons_self, rfl, rfl⟩
  | other fault => cases hreported

theorem parseFindings_of_unreported {phase : Phase Node} {b : Breakdown}
    (hended : phase.ended = .error b) (hreported : b.isReported .parse = false) :
    ∃ fault, parseFindings s phase = .error fault := by
  unfold parseFindings
  rw [hended]
  cases b with
  | malformed e => cases hreported
  | badValue fault =>
    have hwords : fault.words.isOk = false := hreported
    cases hw : fault.words with
    | ok words => rw [hw] at hwords; cases hwords
    | error other =>
      show ∃ f, Except.map _ fault.words = .error f
      rw [hw]
      exact ⟨other, rfl⟩
  | other fault => exact ⟨fault, rfl⟩

/-! ### While generating code -/

theorem emitFindings_of_reported {phase : Phase Unit} {b : Breakdown}
    (hended : phase.ended = .error b) (hown : b.InOwnText) (hreported : b.isReported .emit = true) :
    ∃ findings, emitFindings s phase = .ok (findings, false) ∧ HasPlacedError findings := by
  unfold emitFindings
  rw [hended]
  cases b with
  | malformed e =>
    exact ⟨_, rfl, e.finding s .bytes, List.mem_cons_self, Malformed.finding_inSource hown _, rfl⟩
  | badValue fault => cases hreported
  | other fault => cases hreported

theorem emitFindings_of_unreported {phase : Phase Unit} {b : Breakdown}
    (hended : phase.ended = .error b) (hreported : b.isReported .emit = false) :
    ∃ fault, emitFindings s phase = .error fault := by
  unfold emitFindings
  rw [hended]
  cases b with
  | malformed e => cases hreported
  | badValue fault => exact ⟨fault, rfl⟩
  | other fault => exact ⟨fault, rfl⟩

/-- When it comes to code generation, what that finds is added to what was found before. -/
theorem findingsOf_of_reachesEmit (h : reachesEmit s program r loaded = true) :
    ∃ analysed tree, findingsOf s program r loaded =
      (emitFindings s program.emit).map fun (emitted, hasCode) =>
        (analysed ++ emitted, if hasCode then some tree else none) := by
  unfold reachesEmit at h
  split at h
  · rename_i parsed tree hparse
    have hclean : ¬ anyError (parsed ++ tree.analyze s r loaded) = true := by simpa using h
    refine ⟨parsed ++ tree.analyze s r loaded, tree, ?_⟩
    unfold findingsOf
    rw [hparse]
    show ite _ _ _ = _
    rw [if_neg hclean]
    cases emitFindings s program.emit <;> rfl
  · cases h

/-! ### The whole compile -/

/-- **Reported breakdowns.** The compile gives a result with an error and without an artifact. -/
theorem compileOutcome_of_reported {b : Breakdown} {stage : Stage}
    (hb : BreaksDown s program r loaded b stage) (hown : b.InOwnText)
    (hreported : b.isReported stage = true) :
    ∃ c : Compiled σ ν, compileOutcome s program r loaded = .ok c ∧ c.hasErrors = true ∧
      c.artifact = none := by
  have hfound : ∃ findings, findingsOf s program r loaded = .ok (findings, none) ∧
      HasPlacedError findings := by
    cases stage with
    | parse =>
      obtain ⟨findings, heq, herror⟩ := parseFindings_of_reported (s := s) hb hown hreported
      refine ⟨findings, ?_, herror⟩
      unfold findingsOf
      rw [heq]
      rfl
    | emit =>
      obtain ⟨hreach, hended⟩ := hb
      obtain ⟨analysed, tree, hfindings⟩ := findingsOf_of_reachesEmit hreach
      obtain ⟨emitted, heq, herror⟩ := emitFindings_of_reported (s := s) hended hown hreported
      refine ⟨analysed ++ emitted, ?_, herror.append analysed⟩
      rw [hfindings, heq]
      rfl
  obtain ⟨findings, heq, herror⟩ := hfound
  refine ⟨.ofFindings s program.start findings none, ?_, herror.hasErrors, rfl⟩
  unfold compileOutcome
  rw [heq]

/-- **Other breakdowns.** The compile is halted by a fault and gives no result. -/
theorem compileOutcome_of_unreported {b : Breakdown} {stage : Stage}
    (hb : BreaksDown s program r loaded b stage) (hreported : b.isReported stage = false) :
    ∃ fault, (compileOutcome s program r loaded : Except Halt (Compiled σ ν)) =
      .error (.fault fault) := by
  have hfault : ∃ fault, findingsOf s program r loaded = .error fault := by
    cases stage with
    | parse =>
      obtain ⟨fault, heq⟩ := parseFindings_of_unreported (s := s) hb hreported
      refine ⟨fault, ?_⟩
      unfold findingsOf
      rw [heq]
      rfl
    | emit =>
      obtain ⟨hreach, hended⟩ := hb
      obtain ⟨analysed, tree, hfindings⟩ := findingsOf_of_reachesEmit hreach
      obtain ⟨fault, heq⟩ := emitFindings_of_unreported (s := s) hended hreported
      refine ⟨fault, ?_⟩
      rw [hfindings, heq]
      rfl
  obtain ⟨fault, heq⟩ := hfault
  refine ⟨fault, ?_⟩
  unfold compileOutcome
  rw [heq]

end LiveSketch

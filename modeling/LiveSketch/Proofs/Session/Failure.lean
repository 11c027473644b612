import LiveSketch.Proofs.Session.Coherence

/-!
# Compiles that break down

When the language breaks down over the newest text, the session should show an error in its place.
Whether it does is decided by the breakdown (`Breakdown.isReported`):

1. a reported one leaves the session with the error shown (`failureShown_of_failed`);
2. any other ends the compile without a word, and leaves the session at work on a text that it does
   not take again (`stranded_of_halted`).
-/

namespace LiveSketch

variable {σ ν : Type}

namespace Session

/-- The failure of a request is shown: its result has an error and no artifact, was published and
sets the mode, and pictures can be drawn again. -/
structure FailureShown (s : Session σ ν) (k : Nat) (source : Source) : Prop where
  shown : s.shown? = s.current? ∧ s.current? = some k
  result : ∃ r, s.result = some r ∧ r.request = k ∧ r.source = source ∧ r.hasErrors = true ∧
    .diagnostics r.diagnostics source ∈ s.transcript
  artifact : s.artifactOf? k = none ∧ s.artifact ≠ some k
  mode : s.mode = .error

/-- The session is at work on a request of which it shows nothing; it neither draws again nor takes
the text again. -/
structure Stranded (s : Session σ ν) (k : Nat) (source : Source) : Prop where
  mode : s.mode = .working
  shown : s.current? = some k ∧ s.shown? ≠ some k
  render : ∀ origin, s.render origin = s.finish origin (.ok ())
  submit : s.submit source.text = s

variable {w : Workshop σ ν} {s : Session σ ν} {k : Nat} {q : Request}

theorem artifact_of_kept (hs : s.view.Coherent w) (hq : s.requests[k]? = some q)
    (hk : k ∈ s.view.artifacts.map Prod.fst) :
    ∃ c, w.outcome q.source = .ok c ∧ c.artifact.isSome = true := by
  rw [← sourceIn_of_getElem? hq]
  exact (hs.faithful.artifacts k hk).2

theorem no_artifact (hs : s.view.Coherent w) (hq : s.requests[k]? = some q) {c : Compiled σ ν}
    (hc : w.outcome q.source = .ok c) (hartifact : c.artifact = none) :
    s.artifactOf? k = none ∧ s.artifact ≠ some k := by
  have hnone : k ∉ s.view.artifacts.map Prod.fst := by
    intro hk
    obtain ⟨c', hc', hsome⟩ := artifact_of_kept hs hq hk
    obtain rfl := Except.ok.inj (hc.symm.trans hc')
    rw [hartifact] at hsome
    cases hsome
  refine ⟨?_, fun hshown => hnone (hs.faithful.artifact k hshown)⟩
  cases hkept : s.artifactOf? k with
  | none => rfl
  | some a => exact absurd (mem_artifacts_of_artifactOf? hkept) hnone

section Live

variable (hs : s.view.Coherent w) (hq : s.requests[k]? = some q) (hlive : q.cancelled = false)

include hs hq hlive

/-- The result of a failed text is shown once its run has ended. -/
theorem failureShown_of_failed (hended : k ∉ s.running) {c : Compiled σ ν}
    (hc : w.outcome q.source = .ok c) (herrors : c.hasErrors = true)
    (hartifact : c.artifact = none) : s.FailureShown k q.source := by
  have hr := result_of_live hs hq hlive hended hc
  have hcurrent := current?_of_live hs hq hlive
  have hsource : c.source = q.source := compileOutcome_source hc
  have hpublished : .diagnostics c.diagnostics c.source ∈ s.transcript :=
    (List.mem_filter.mp (hs.settled.published _ hr)).1
  rw [hsource] at hpublished
  have hmode : s.mode = .error := (mode_of_shown hs hr hcurrent).trans (if_pos herrors)
  exact ⟨⟨(shown?_of_result hr).trans hcurrent.symm, hcurrent⟩,
    ⟨c.resultOf k, hr, rfl, hsource, herrors, hpublished⟩, no_artifact hs hq hc hartifact, hmode⟩

theorem stranded_of_halted {halt : Halt} (hc : w.outcome q.source = .error halt) :
    s.Stranded k q.source := by
  have hcurrent := current?_of_live hs hq hlive
  have hshown : s.shown? ≠ some k := by
    intro h
    obtain ⟨r, hr, hk⟩ := Option.map_eq_some_iff.mp h
    obtain ⟨c, hc', -⟩ := outcome_of_shown hs hq hr hk
    rw [hc] at hc'
    cases hc'
  refine ⟨mode_of_not_shown hs hcurrent hshown, ⟨hcurrent, hshown⟩, fun origin => ?_, ?_⟩
  · unfold render
    split
    · rfl
    · rw [if_neg (by rw [hcurrent]; exact fun h => hshown h.symm)]
  · refine submit_of_not_accepts ?_
    unfold accepts
    rw [lastText_of_live hs hq hlive]
    simp

end Live

end Session

namespace Opening

open Session

/-- **Breakdowns.** When the language breaks down over a text, in parsing or in code generation,
and the run of its request ends while the request is live, its failure is shown exactly if the
breakdown is one that the phase has reported. Otherwise the session is stranded. -/
theorem failureShown_iff_isReported (o : Opening) (w : Workshop σ ν) (es : List Event) {k : Nat}
    {q : Request} (hq : (o.run w es).requests[k]? = some q) (hlive : q.cancelled = false)
    (hended : k ∉ (o.run w es).running) {b : Breakdown} {stage : Stage} (hown : b.InOwnText)
    (hb : BreaksDown q.source (w.programOf q.source) w.references w.loaded b stage) :
    ((o.run w es).FailureShown k q.source ↔ b.isReported stage = true) ∧
      (b.isReported stage = false → (o.run w es).Stranded k q.source) := by
  have hs := o.coherent_run w es
  have hstranded : b.isReported stage = false → (o.run w es).Stranded k q.source := by
    intro hreported
    obtain ⟨fault, hc⟩ := compileOutcome_of_unreported (ν := ν) hb hreported
    exact stranded_of_halted hs hq hlive hc
  refine ⟨⟨fun hshown => ?_, fun hreported => ?_⟩, hstranded⟩
  · cases hreported : b.isReported stage with
    | true => rfl
    | false =>
      have hmode := (hstranded hreported).mode
      rw [hshown.mode] at hmode
      cases hmode
  · obtain ⟨c, hc, herrors, hartifact⟩ := compileOutcome_of_reported hb hown hreported
    exact failureShown_of_failed hs hq hlive hended hc herrors hartifact

end Opening

/-! ## A text that is too deep -/

/-- The parser has run out of stack. -/
def Fault.tooDeep : Fault := .plain "MemoryError" ""

/-- A number with more signs in front of it than the parser can have open at once. -/
def deepText : String := String.ofList (List.replicate 7000 '-' ++ ['1'])

/-- What the language makes of that text. -/
def Program.tooDeep : Program Unit where
  parse := ⟨[], .error (.other .tooDeep)⟩
  emit := ⟨[], .ok ()⟩
  start := ()

/-- The session is given the text and does all it can. -/
def tooDeepRun : List Event := [.submit deepText, .turn 0, .complete none, .turn 0, .turn 0]

/-- In the end no run is left, and the session is stranded. -/
theorem stranded_tooDeep :
    (Opening.bare.run (.ofProgram .tooDeep) tooDeepRun).requests[0]? =
        some ⟨.ofString deepText, false⟩ ∧
      0 ∉ (Opening.bare.run (.ofProgram .tooDeep) tooDeepRun).running ∧
      (Opening.bare.run (.ofProgram .tooDeep) tooDeepRun).Stranded 0 (.ofString deepText) ∧
      ¬ (Opening.bare.run (.ofProgram .tooDeep) tooDeepRun).FailureShown 0 (.ofString deepText) := by
  have hq : (Opening.bare.run (.ofProgram .tooDeep) tooDeepRun).requests[0]? =
      some ⟨.ofString deepText, false⟩ := rfl
  have hended : 0 ∉ (Opening.bare.run (.ofProgram .tooDeep) tooDeepRun).running := by decide
  have hown : (Breakdown.other .tooDeep).InOwnText := trivial
  have hb : BreaksDown (.ofString deepText) Program.tooDeep ⟨[]⟩ ⟨[], []⟩ (.other .tooDeep) .parse :=
    rfl
  obtain ⟨hshown, hstranded⟩ := Opening.failureShown_iff_isReported .bare (.ofProgram .tooDeep)
    tooDeepRun hq rfl hended hown hb
  exact ⟨hq, hended, hstranded rfl, fun h => nomatch hshown.mp h⟩

/-- A run can end without its failure being shown. -/
theorem failure_not_always_shown :
    ¬ ∀ (o : Opening) (w : Workshop Unit Unit) (es : List Event) (k : Nat) (q : Request)
      (b : Breakdown) (stage : Stage), (o.run w es).requests[k]? = some q → q.cancelled = false →
      k ∉ (o.run w es).running → b.InOwnText →
      BreaksDown q.source (w.programOf q.source) w.references w.loaded b stage →
      (o.run w es).FailureShown k q.source := by
  intro h
  have hshown : (Opening.bare.run (.ofProgram .tooDeep) tooDeepRun).FailureShown 0
      (.ofString deepText) :=
    h .bare (.ofProgram .tooDeep) tooDeepRun 0 ⟨.ofString deepText, false⟩ (.other .tooDeep) .parse
      rfl rfl (by decide) trivial rfl
  exact absurd hshown.mode (by decide)

end LiveSketch

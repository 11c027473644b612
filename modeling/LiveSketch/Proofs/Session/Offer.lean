import LiveSketch.Proofs.Session.Coherence

/-!
# Texts offered for submission

A text is offered when it is submitted or when an edit has rested. It can be turned down as the one
submitted last, and its request can be superseded by the next one; still the last text offered is
never lost:

1. while the session is open, the last text offered is the last one submitted (`lastText_run`);
2. once no run is left, its result is the one shown (`last_offer_shown`).
-/

namespace LiveSketch

variable {σ ν : Type}

/-! ## Offers -/

/-- The text that was offered. -/
def Mark.offered? : Mark → Option String
  | offered text => some text
  | edited _ | adopted _ | shown _ _ => none

/-- The texts offered in the course of a history. -/
def offers (ms : List Mark) : List String := ms.filterMap Mark.offered?

@[simp]
theorem offers_snoc_offered (ms : List Mark) (text : String) :
    offers (ms ++ [.offered text]) = offers ms ++ [text] := List.filterMap_append ..

theorem offers_append_of_not_offered (ms : List Mark) {m : Option Mark}
    (h : ∀ text, m ≠ some (.offered text)) : offers (ms ++ m.toList) = offers ms := by
  cases m with
  | none => exact congrArg offers (List.append_nil ms)
  | some mark =>
    cases mark with
    | offered text => exact absurd rfl (h text)
    | _ => exact (List.filterMap_append ..).trans (List.append_nil _)

namespace View

variable {w : Workshop σ ν} {v v' : View σ ν} {m : Option Mark}

/-- A move takes a text offered to an open session as the last one submitted, or is offered
none. -/
theorem Move.offered_or_same (h : Move w v m v') :
    (∃ text, m = some (.offered text) ∧ (v'.closed = false → v'.lastText = some text)) ∨
      (∀ text, m ≠ some (.offered text)) ∧ v'.lastText = v.lastText ∧
        (v'.closed = false → v.closed = false) := by
  cases h with
  | submit text => exact .inl ⟨text, rfl, fun _ => rfl⟩
  | refuse text h =>
    refine .inl ⟨text, rfl, fun hopen => ?_⟩
    rcases h with hclosed | hsame
    · rw [hopen] at hclosed
      cases hclosed
    · exact hsame
  | close => exact .inr ⟨nofun, rfl, nofun⟩
  | _ => exact .inr ⟨nofun, rfl, id⟩

end View

namespace Opening

variable (o : Opening) (w : Workshop σ ν)

/-- While the session is open the last text offered is the last one submitted. -/
theorem lastText_run (es : List Event) (hopen : (o.run w es).closed = false) :
    (o.run w es).lastText = (offers (o.history w es)).getLast? := by
  refine o.run_induction w
    (P := fun ms s => s.closed = false → s.lastText = (offers ms).getLast?) (fun _ => rfl) ?_ es
    hopen
  intro ms s e ih hopen
  rcases (s.step_move w e).offered_or_same with ⟨text, hm, hlast⟩ | ⟨hnot, hlast, hstill⟩
  · rw [hm]
    show _ = (offers (ms ++ [.offered text])).getLast?
    rw [offers_snoc_offered, List.getLast?_concat]
    exact hlast hopen
  · rw [offers_append_of_not_offered ms hnot]
    exact Eq.trans hlast (ih (hstill hopen))

end Opening

/-! ## The last offer -/

/-- Compiles of the source give a result or find themselves cancelled. -/
def Workshop.Returns (w : Workshop σ ν) (source : Source) : Prop :=
  ∀ cancelAt fault, w.compileFrom source cancelAt ≠ .error (.fault fault)

/-- Compiles return exactly if the one that is left alone gives a result. -/
theorem Workshop.returns_iff {w : Workshop σ ν} {source : Source} :
    w.Returns source ↔ ∃ c, w.outcome source = .ok c := by
  constructor
  · intro h
    cases hout : w.outcome source with
    | ok c => exact ⟨c, rfl⟩
    | error halt =>
      cases halt with
      | cancelled => exact absurd hout compileOutcome_ne_cancelled
      | fault fault => exact absurd ((w.compileFrom_none source).trans hout) (h none fault)
  · rintro ⟨c, hc⟩ cancelAt fault h
    rcases w.compileFrom_eq_or source cancelAt with hcancelled | hend
    · rw [hcancelled] at h
      cases h
    · rw [hend, hc] at h
      cases h

namespace Opening

open Session

/-- **No lost edit.** In every run whose compiles return, once the session is open with no run left,
the last text offered is the last one submitted and the text of the result shown, which is that of
the newest request, and that is not cancelled. -/
theorem last_offer_shown (o : Opening) (w : Workshop σ ν) (es : List Event) {text : String}
    (hreturns : ∀ q ∈ (o.run w es).requests, q.cancelled = false → w.Returns q.source)
    (hoffered : (offers (o.history w es)).getLast? = some text)
    (hopen : (o.run w es).closed = false) (hended : (o.run w es).running = []) :
    (o.run w es).lastText = some text ∧ (o.run w es).shown? = (o.run w es).current? ∧
      ∃ r, (o.run w es).result = some r ∧ r.source.text = text ∧
        (o.run w es).isCancelled r.request = false := by
  have hs := o.coherent_run w es
  have hlast : (o.run w es).lastText = some text := (o.lastText_run w es hopen).trans hoffered
  obtain ⟨k, q, hq, hlive, htext⟩ := exists_live hs hopen hlast
  obtain ⟨c, hc⟩ := Workshop.returns_iff.mp (hreturns q (List.mem_of_getElem? hq) hlive)
  have hnot : k ∉ (o.run w es).running := by
    rw [hended]
    exact List.not_mem_nil
  have hr := result_of_live hs hq hlive hnot hc
  have hsource : c.source = q.source := compileOutcome_source hc
  refine ⟨hlast, ?_, c.resultOf k, hr, ?_, live_view.mp ⟨q, hq, hlive⟩⟩
  · rw [current?_of_live hs hq hlive]
    exact shown?_of_result hr
  · show c.source.text = text
    rw [hsource, htext]

end Opening

/-! ## Returning to an earlier text -/

/-- A text with an opening bracket too many. -/
def Program.unclosed : Program Unit where
  parse := ⟨[], .error (.malformed ⟨"unclosed", some 1, some 1, none, none, none⟩)⟩
  emit := ⟨[], .ok ()⟩
  start := ()

/-- A text is submitted, another one edited in and rested while the first is compiled, and the first
one submitted again before its own compile is noticed to be over. -/
def returningRun : List Event :=
  [.submit "(", .turn 0, .edit "((", .turn 0, .turn 0, .complete (some 1), .submit "(", .turn 0,
    .turn 0, .turn 0, .turn 0, .complete none, .turn 0, .turn 0]

/-- The first text was offered last, and its second result is shown. -/
theorem last_offer_returning :
    offers (Opening.bare.history (.ofProgram .unclosed) returningRun) = ["(", "((", "("] ∧
      (Opening.bare.run (.ofProgram .unclosed) returningRun).current? = some 2 ∧
      (Opening.bare.run (.ofProgram .unclosed) returningRun).running = [] ∧
      (Opening.bare.run (.ofProgram .unclosed) returningRun).lastText = some "(" ∧
      ∃ r, (Opening.bare.run (.ofProgram .unclosed) returningRun).result = some r ∧
        r.source.text = "(" := by
  have hoffers : offers (Opening.bare.history (.ofProgram .unclosed) returningRun) =
      ["(", "((", "("] := by decide
  have hended : (Opening.bare.run (.ofProgram .unclosed) returningRun).running = [] := by decide
  have hreturns : ∀ source, (Workshop.ofProgram .unclosed).Returns source :=
    fun source => Workshop.returns_iff.mpr ⟨_, rfl⟩
  obtain ⟨hlast, -, r, hr, htext, -⟩ := Opening.last_offer_shown .bare (.ofProgram .unclosed)
    returningRun (fun q _ _ => hreturns q.source) (congrArg List.getLast? hoffers) (by decide) hended
  exact ⟨hoffers, by decide, hended, hlast, r, hr, htext⟩

end LiveSketch

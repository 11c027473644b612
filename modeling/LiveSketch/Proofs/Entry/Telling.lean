import LiveSketch.Entry.Invoke

/-!
# What a fault tells

A host that reports a fault asks it one thing after the other. Every question can run code of the
script: it may leave the script in another state, and it may raise a fault instead of an answer.

1. `Engine.Answers` and `Engine.Refuses` are the two ways a question can end.
2. `Fault.StandsFor` leads from a wrapper to the fault that it stands for, asking every fault on the
   way (`unwrap_eq_ok_iff`).
3. `Fault.Told` lists the questions of a report, in their order, with their answers. A report comes
   about exactly if there are all of these answers (`handled_eq_ok_iff`).
4. A fault that always answers alike (`Fault.IsSteady`) is always reported alike
   (`Fault.IsSteady.handled`).
-/

namespace LiveSketch

variable {σ ν α β : Type}

/-! ## Requests one after the other -/

/-- A request that goes on to another one comes to an end exactly if both do. -/
theorem Act.bind_eq_ok_iff {x : Act σ α} {f : α → Act σ β} {b : β} {s s' : σ} :
    (x >>= f).run.run s = (.ok b, s') ↔
      ∃ a s₁, x.run.run s = (.ok a, s₁) ∧ (f a).run.run s₁ = (.ok b, s') := by
  rw [ExceptT.run_bind, StateT.run_bind]
  rcases hx : x.run.run s with ⟨fault | a, s₁⟩
  · refine iff_of_false (fun h => ?_) (fun ⟨_, _, h, _⟩ => ?_)
    · cases h
    · cases h
  · constructor
    · exact fun h => ⟨a, s₁, rfl, h⟩
    · rintro ⟨_, _, ⟨⟩, h⟩
      exact h

theorem Act.pure_eq_ok_iff {a b : α} {s s' : σ} :
    (pure a : Act σ α).run.run s = (.ok b, s') ↔ b = a ∧ s' = s := by
  constructor
  · rintro ⟨⟩
    exact ⟨rfl, rfl⟩
  · rintro ⟨rfl, rfl⟩
    rfl

theorem Act.discard_eq_ok_iff {x : Act σ α} {u : PUnit} {s s' : σ} :
    (discard x).run.run s = (.ok u, s') ↔ ∃ a, x.run.run s = (.ok a, s') := by
  show (Function.const α PUnit.unit <$> x).run.run s = _ ↔ _
  rw [map_eq_pure_bind, Act.bind_eq_ok_iff]
  constructor
  · rintro ⟨a, s₁, hx, h⟩
    obtain ⟨-, rfl⟩ := Act.pure_eq_ok_iff.mp h
    exact ⟨a, hx⟩
  · rintro ⟨a, hx⟩
    exact ⟨a, s', hx, rfl⟩

/-! ## Questions -/

namespace Engine

/-- Asked in the first state, the fault gives this answer and leaves the second state. -/
def Answers (engine : Engine σ ν) (fault : Fault) (q : Inquiry) (s : σ) (answer : q.Answer)
    (s' : σ) : Prop :=
  (engine.ask fault q).run.run s = (.ok answer, s')

/-- Asked in the first state, the fault raises another one and leaves the second state. -/
def Refuses (engine : Engine σ ν) (fault : Fault) (q : Inquiry) (s : σ) (other : Fault) (s' : σ) :
    Prop :=
  (engine.ask fault q).run.run s = (.error other, s')

end Engine

namespace Fault

variable {engine : Engine σ ν} {f g : Fault} {s s' : σ}

@[elab_as_elim]
theorem cause_induction {P : Fault → Prop}
    (step : ∀ f : Fault, (∀ cause, f.cause = some cause → P cause) → P f) (f : Fault) : P f := by
  induction f using Fault.unwrap.induct with
  | case1 name reach isWrapper words cause frames ih => exact step _ fun _ h => Option.some.inj h ▸ ih
  | case2 name reach cause handle ih => exact step _ fun _ h => Option.some.inj h ▸ ih
  | case3 f hmk hlive =>
    refine step f fun cause h => ?_
    cases f with
    | mk => cases h; exact (hmk _ _ _ _ _ _ rfl).elim
    | live => cases h; exact (hlive _ _ _ _ rfl).elim

/-- Asked in the first state what it wraps, and its causes as well as far as they are wrapped, the
fault comes down to another one, and leaves the second state. -/
inductive StandsFor (engine : Engine σ ν) : Fault → σ → Fault → σ → Prop
  | itself {f : Fault} {s s' : σ} {wraps : Bool} (asked : engine.Answers f .isWrapper s wraps s')
    (bare : wraps = true → f.cause = none) : StandsFor engine f s f s'
  | wrapped {f cause g : Fault} {s s₁ s' : σ} (asked : engine.Answers f .isWrapper s true s₁)
    (hcause : f.cause = some cause) (h : StandsFor engine cause s₁ g s') :
    StandsFor engine f s g s'

/-- A wrapper is asked for and its cause goes on; anything else is kept. -/
theorem unwrap_eq (engine : Engine σ ν) (f : Fault) :
    f.unwrap engine = (do
      if ← engine.ask f .isWrapper then
        match f.cause with
        | some cause => cause.unwrap engine
        | none => pure f
      else pure f) := by
  have hnone : ∀ f : Fault, (do discard (engine.ask f .isWrapper); pure f : Act σ Fault) =
      (do if ← engine.ask f .isWrapper then pure f else pure f) := by
    intro f
    simp only [ite_self]
    show (Function.const Bool PUnit.unit <$> engine.ask f .isWrapper >>= fun _ => pure f) = _
    rw [bind_map_left]
  obtain ⟨name, reach, isWrapper, words, cause, frames⟩ | ⟨name, reach, cause, handle⟩ := f <;>
    cases cause with
    | none =>
      rw [unwrap]
      · exact hnone _
      all_goals nofun
    | some cause =>
      rw [unwrap]
      rfl

theorem unwrap_eq_ok_iff :
    (f.unwrap engine).run.run s = (.ok g, s') ↔ f.StandsFor engine s g s' := by
  constructor
  · intro h
    induction f using cause_induction generalizing s with
    | step f ih =>
      rw [unwrap_eq, Act.bind_eq_ok_iff] at h
      obtain ⟨wraps, s₁, asked, h⟩ := h
      cases wraps with
      | false =>
        obtain ⟨rfl, rfl⟩ := Act.pure_eq_ok_iff.mp h
        exact .itself asked nofun
      | true =>
        cases hcause : f.cause with
        | none =>
          rw [hcause] at h
          obtain ⟨rfl, rfl⟩ := Act.pure_eq_ok_iff.mp h
          exact .itself asked fun _ => hcause
        | some cause =>
          rw [hcause] at h
          exact .wrapped asked hcause (ih cause hcause h)
  · intro h
    induction h with
    | @itself f s s' wraps asked bare =>
      rw [unwrap_eq, Act.bind_eq_ok_iff]
      refine ⟨wraps, s', asked, ?_⟩
      cases wraps with
      | true => rw [bare rfl]; rfl
      | false => rfl
    | wrapped asked hcause _ ih =>
      rw [unwrap_eq, Act.bind_eq_ok_iff, hcause]
      exact ⟨true, _, asked, ih⟩

/-! ## Reports -/

/-- Asked from the first state on for its frames, for its words and whether these count as any, and
for its class if they do not, the fault has these frames and this label, and leaves the second
state. -/
inductive IsLabelled (engine : Engine σ ν) (f : Fault) (s : σ) (frames : List Frame) :
    String → σ → Prop
  | byWords {s₁ s₂ s₃ : σ} {words : String} (framed : engine.Answers f .frames s frames s₁)
    (worded : engine.Answers f .words s₁ words s₂)
    (counts : engine.Answers f (.counts words) s₂ true s₃) : IsLabelled engine f s frames words s₃
  | byClass {s₁ s₂ s₃ s₄ : σ} {words name : String}
    (framed : engine.Answers f .frames s frames s₁)
    (worded : engine.Answers f .words s₁ words s₂)
    (counts : engine.Answers f (.counts words) s₂ false s₃)
    (named : engine.Answers f .className s₃ name s₄) : IsLabelled engine f s frames name s₄

theorem report_eq_ok_iff {line : Int} {d : Diagnostic} :
    (f.report engine line).run.run s = (.ok d, s') ↔
      ∃ frames label, f.IsLabelled engine s frames label s' ∧
        d = .fault label ((scriptLine? frames).getD line) := by
  unfold report
  simp only [Act.bind_eq_ok_iff]
  constructor
  · rintro ⟨frames, s₁, framed, words, s₂, worded, counts, s₃, counted, h⟩
    cases counts with
    | true =>
      obtain ⟨rfl, rfl⟩ := Act.pure_eq_ok_iff.mp h
      exact ⟨frames, words, .byWords framed worded counted, rfl⟩
    | false =>
      obtain ⟨name, s₄, named, h⟩ := Act.bind_eq_ok_iff.mp h
      obtain ⟨rfl, rfl⟩ := Act.pure_eq_ok_iff.mp h
      exact ⟨frames, name, .byClass framed worded counted named, rfl⟩
  · rintro ⟨frames, label, hlabel, rfl⟩
    cases hlabel with
    | byWords framed worded counts => exact ⟨frames, _, framed, _, _, worded, true, _, counts, rfl⟩
    | byClass framed worded counts named =>
      exact ⟨frames, _, framed, _, _, worded, false, _, counts,
        Act.bind_eq_ok_iff.mpr ⟨_, _, named, rfl⟩⟩

/-- A fault that was raised stands for another one, which is asked for its class, for how it reads
in a line of the log and for what a report needs, and gives these frames and this label. -/
inductive Told (engine : Engine σ ν) (raised : Fault) (s : σ) (f : Fault) (frames : List Frame)
    (label : String) (s' : σ) : Prop
  | intro {s₁ s₂ s₃ : σ} {name text : String} (stands : raised.StandsFor engine s f s₁)
    (named : engine.Answers f .className s₁ name s₂) (logged : engine.Answers f .line s₂ text s₃)
    (labelled : f.IsLabelled engine s₃ frames label s')

end Fault

/-- A fault becomes a report exactly if the host stops it and every question of the report is
answered. -/
theorem handled_eq_ok_iff {engine : Engine σ ν} {entry : EntryPoint} {raised : Fault} {s s' : σ}
    {ds : List Diagnostic} :
    (handled engine entry raised).run.run s = (.ok ds, s') ↔
      raised.isStopped = true ∧ ∃ f frames label, raised.Told engine s f frames label s' ∧
        ds = [.fault label ((scriptLine? frames).getD entry.line)] := by
  unfold handled
  cases hs : raised.isStopped with
  | false =>
    refine iff_of_false (fun h => ?_) (fun h => Bool.false_ne_true h.1)
    cases h
  | true =>
    rw [if_pos rfl]
    simp only [Act.bind_eq_ok_iff, Act.pure_eq_ok_iff, Act.discard_eq_ok_iff,
      Fault.unwrap_eq_ok_iff, Fault.report_eq_ok_iff, true_and]
    constructor
    · rintro ⟨f, s₁, stands, -, s₂, ⟨name, named⟩, -, s₃, ⟨text, logged⟩, d, s₄,
        ⟨frames, label, labelled, rfl⟩, rfl, rfl⟩
      exact ⟨f, frames, label, ⟨stands, named, logged, labelled⟩, rfl⟩
    · rintro ⟨f, frames, label, ⟨stands, named, logged, labelled⟩, rfl⟩
      exact ⟨f, _, stands, (), _, ⟨_, named⟩, (), _, ⟨_, logged⟩, _, _,
        ⟨frames, label, labelled, rfl⟩, rfl, rfl⟩

/-! ## Faults that always answer alike -/

/-- The request comes to the same end from every state. -/
def Act.IsSteady (x : Act σ α) : Prop := ∀ s s', (x.run.run s).1 = (x.run.run s').1

theorem Act.IsSteady.bind {x : Act σ α} {f : α → Act σ β} (hx : x.IsSteady)
    (hf : ∀ a s s', x.run.run s = (.ok a, s') → (f a).IsSteady) : (x >>= f).IsSteady := by
  intro s s'
  have hsame := hx s s'
  rw [ExceptT.run_bind, StateT.run_bind, StateT.run_bind]
  rcases hs : x.run.run s with ⟨fault | a, s₁⟩ <;> rcases hs' : x.run.run s' with ⟨fault' | a', s₂⟩ <;>
    rw [hs, hs'] at hsame <;> cases hsame
  · rfl
  · exact hf a s s₁ hs s₁ s₂

theorem Act.isSteady_pure (a : α) : (pure a : Act σ α).IsSteady := fun _ _ => rfl

theorem Act.isSteady_throw (fault : Fault) : (throw fault : Act σ α).IsSteady := fun _ _ => rfl

theorem Act.IsSteady.discard {x : Act σ α} (hx : x.IsSteady) :
    (Functor.discard x).IsSteady := by
  show (Function.const α PUnit.unit <$> x).IsSteady
  rw [map_eq_pure_bind]
  exact hx.bind fun _ _ _ _ => isSteady_pure _

namespace Fault

/-- Whenever it is asked, the fault gives the same answers, and so do its causes and whatever fault
it raises when it is asked for its words. -/
inductive IsSteady (engine : Engine σ ν) : Fault → Prop
  | intro {f : Fault} (asked : ∀ q, (engine.ask f q).IsSteady)
    (cause : ∀ cause, f.cause = some cause → IsSteady engine cause)
    (refused : ∀ s other s', engine.Refuses f .words s other s' → IsSteady engine other) :
    IsSteady engine f

variable {engine : Engine σ ν} {f g : Fault} {s s' : σ}

theorem IsSteady.asked (h : f.IsSteady engine) (q : Inquiry) : (engine.ask f q).IsSteady := by
  cases h with
  | intro asked _ _ => exact asked q

theorem isSteady_mk {name : String} {reach : Reach} {isWrapper : Bool}
    {words : Except Fault String} {cause : Option Fault} {frames : List Frame}
    (hwords : ∀ other, words = .error other → other.IsSteady engine)
    (hcause : ∀ f, cause = some f → f.IsSteady engine) :
    (mk name reach isWrapper words cause frames).IsSteady engine :=
  .intro (fun _ _ _ => rfl) hcause fun _ other _ h => hwords other (congrArg Prod.fst h)

theorem IsSteady.wrapping (h : f.IsSteady engine) (words : String) :
    (Fault.wrapping words f).IsSteady engine :=
  isSteady_mk nofun fun _ hcause => Option.some.inj hcause ▸ h

theorem IsSteady.of_standsFor (h : f.IsSteady engine) (hg : f.StandsFor engine s g s') :
    g.IsSteady engine := by
  induction hg with
  | itself => exact h
  | wrapped _ hcause _ ih =>
    cases h with
    | intro _ cause _ => exact ih (cause _ hcause)

theorem IsSteady.unwrap (h : f.IsSteady engine) : (f.unwrap engine).IsSteady := by
  induction h with
  | @intro f asked cause refused ihcause _ =>
    rw [unwrap_eq]
    refine (asked _).bind fun wraps _ _ _ => ?_
    cases wraps with
    | false => exact Act.isSteady_pure _
    | true =>
      cases hcause : f.cause with
      | none => exact Act.isSteady_pure _
      | some inner => exact ihcause inner hcause

theorem IsSteady.report (h : f.IsSteady engine) (line : Int) : (f.report engine line).IsSteady := by
  unfold Fault.report
  refine (h.asked _).bind fun frames _ _ _ => (h.asked _).bind fun words _ _ _ =>
    (h.asked _).bind fun counts _ _ _ => ?_
  cases counts with
  | true => exact Act.isSteady_pure _
  | false => exact (h.asked _).bind fun _ _ _ _ => Act.isSteady_pure _

theorem IsSteady.handled (h : f.IsSteady engine) (entry : EntryPoint) :
    (handled engine entry f).IsSteady := by
  unfold LiveSketch.handled
  cases f.isStopped with
  | false => exact Act.isSteady_throw f
  | true =>
    refine h.unwrap.bind fun g _ _ hg => ?_
    have hg := h.of_standsFor (unwrap_eq_ok_iff.mp hg)
    exact (hg.asked _).discard.bind fun _ _ _ _ => (hg.asked _).discard.bind fun _ _ _ _ =>
      (hg.report _).bind fun _ _ _ _ => Act.isSteady_pure _

end Fault

end LiveSketch

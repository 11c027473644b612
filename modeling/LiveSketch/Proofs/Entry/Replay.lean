import LiveSketch.Proofs.Entry.Containment

/-!
# Which faults of binding are told again

An artifact binds in its first draw. When that raises a fault the host keeps it and tells it in every
later draw, if it is one that the host stops. A fault that goes through the host leaves nothing
behind: the later draws call a target that is not there.

1. What the first draw leaves in the binding stays in all later ones (`Artifact.after_binding`).
2. A target is bound only after it was found to be callable (`createTarget_isCallable`), so a binding
   is sound but for the one that a fault went through (`Binding.IsSound`).
3. A kept fault is asked for its words and reported anew in every draw (`retell`), with one answer
   for all draws if it always answers alike (`Fault.IsSteady.retell`).
-/

namespace LiveSketch

variable {σ ν : Type}

/-! ## Sound bindings -/

/-- The end of binding: what was found is the target, if it can be called. -/
def checkTarget (engine : Engine σ ν) (entry : EntryPoint) : Option ν → Act σ ν
  | none => throw (notCallable entry.qualifiedName)
  | some target => do
    if ← engine.isCallable target then pure target else throw (notCallable entry.qualifiedName)

theorem checkTarget_isCallable {engine : Engine σ ν} {entry : EntryPoint} {found : Option ν}
    {target : ν} {s s' : σ}
    (h : (checkTarget engine entry found).run.run s = (.ok target, s')) :
    (engine.isCallable target).run.run s = (.ok true, s') := by
  cases found with
  | none => cases h
  | some target' =>
    obtain ⟨callable, s₁, hcallable, h⟩ := Act.bind_eq_ok_iff.mp h
    cases callable with
    | false => cases h
    | true =>
      cases h
      exact hcallable

theorem createTarget_isCallable {engine : Engine σ ν} {entry : EntryPoint} {target : ν} {s s' : σ}
    (h : (createTarget engine entry).run.run s = (.ok target, s')) :
    ∃ s₁, (engine.isCallable target).run.run s₁ = (.ok true, s') := by
  unfold createTarget at h
  obtain ⟨-, s₁, -, h⟩ := Act.bind_eq_ok_iff.mp h
  dsimp only at h
  split at h
  · obtain ⟨owner, s₂, -, h⟩ := Act.bind_eq_ok_iff.mp h
    cases owner with
    | none => cases h
    | some owner =>
      dsimp only at h
      split at h
      · obtain ⟨found, s₃, -, h⟩ := Act.bind_eq_ok_iff.mp h
        exact ⟨s₃, checkTarget_isCallable h⟩
      · obtain ⟨object, s₃, -, h⟩ := Act.bind_eq_ok_iff.mp h
        obtain ⟨found, s₄, -, h⟩ := Act.bind_eq_ok_iff.mp h
        exact ⟨s₄, checkTarget_isCallable h⟩
  · obtain ⟨found, s₂, -, h⟩ := Act.bind_eq_ok_iff.mp h
    exact ⟨s₂, checkTarget_isCallable h⟩

namespace Binding

/-- There is nothing yet, a target that could be called, or a fault to tell again. -/
def IsSound (engine : Engine σ ν) : Binding ν → Prop
  | .unbound => True
  | .bound target => ∃ s s', (engine.isCallable target).run.run s = (.ok true, s')
  | .failed fault => fault.isStopped = true
  | .lost => False

end Binding

theorem Resolution.eq_found {r : Resolution} {entry : EntryPoint} (h : r.entry? = some entry) :
    r = .found entry := by
  cases r with
  | found entry' => exact congrArg found (Option.some.inj h)
  | unresolved => cases h
  | missing => cases h

/-! ## Draws after the first -/

/-- A fault that always answers alike is told again alike. -/
theorem Fault.IsSteady.retell {engine : Engine σ ν} {fault : Fault} (h : fault.IsSteady engine)
    (entry : EntryPoint) (s s' : σ) :
    ((retell engine entry fault).run s).1 = ((retell engine entry fault).run s').1 := by
  have hsame := h.asked .words s s'
  rcases hs : (engine.ask fault .words).run.run s with ⟨other | words, s₁⟩ <;>
    rcases hs' : (engine.ask fault .words).run.run s' with ⟨other' | words', s₂⟩ <;>
    rw [hs, hs'] at hsame <;> cases hsame
  · rw [retell_of_refuses hs, retell_of_refuses hs']
    cases h with
    | intro _ _ refused => exact (refused s other s₁ hs).handled entry s₁ s₂
  · rw [retell_of_answers hs, retell_of_answers hs']
    exact (h.wrapping words).handled entry s₁ s₂

namespace Artifact

variable {engine : Engine σ ν} {a : Artifact σ ν} {entry : EntryPoint} {fault : Fault} {s : σ}
  {q : DrawRequest σ}

theorem after_entry (hentry : Resolution.entry? (a.resolution.settle a.tree) = some entry)
    (qs : List (DrawRequest σ)) :
    Resolution.entry? ((a.after engine qs).resolution.settle (a.after engine qs).tree) =
      some entry := by
  refine after_induction (P := fun a => Resolution.entry? (a.resolution.settle a.tree) = some entry)
    hentry (fun a q ha => ?_) qs
  rw [drawn_of_entry ha, Resolution.eq_found ha]
  rfl

theorem drawn_binding (hb : a.binding ≠ .unbound) (q : DrawRequest σ) :
    (a.drawn engine q).1.binding = a.binding := by
  cases hentry : Resolution.entry? (a.resolution.settle a.tree) with
  | none => rw [drawn_of_no_entry hentry]
  | some entry =>
    rw [drawn_of_entry hentry]
    exact invoke_binding_of_settled _ _ _ hb

theorem after_binding (hb : a.binding ≠ .unbound) (qs : List (DrawRequest σ)) :
    (a.after engine qs).binding = a.binding := by
  refine after_induction (P := fun b => b.binding = a.binding) rfl (fun b q hsame => ?_) qs
  rw [drawn_binding (by rwa [hsame]), hsame]

/-- A first draw that raised a fault keeps it, if the host stops it. -/
theorem after_of_raised (hnew : a.binding = .unbound)
    (hentry : Resolution.entry? (a.resolution.settle a.tree) = some entry)
    (hraised : (createTarget engine entry).run.run (q.meanwhile a.state) = (.error fault, s))
    (qs : List (DrawRequest σ)) :
    (a.after engine (q :: qs)).binding = if fault.isStopped then .failed fault else .lost := by
  have hfirst : (a.drawn engine q).1.binding =
      if fault.isStopped then .failed fault else .lost := by
    rw [drawn_of_entry hentry, hnew]
    dsimp only
    cases hs : fault.isStopped with
    | true => rw [invoke_of_stopped _ _ _ hraised hs, invoke_failed]; rfl
    | false => rw [invoke_of_beyond _ _ _ hraised hs]; rfl
  refine (after_binding ?_ qs).trans hfirst
  rw [hfirst]
  split <;> nofun

theorem after_of_created {target : ν} (hnew : a.binding = .unbound)
    (hentry : Resolution.entry? (a.resolution.settle a.tree) = some entry)
    (hcreated : (createTarget engine entry).run.run (q.meanwhile a.state) = (.ok target, s))
    (qs : List (DrawRequest σ)) : (a.after engine (q :: qs)).binding = .bound target := by
  have hfirst : (a.drawn engine q).1.binding = .bound target := by
    rw [drawn_of_entry hentry, hnew]
    dsimp only
    rw [invoke_of_created _ _ _ hcreated, invoke_bound]
  refine (after_binding ?_ qs).trans hfirst
  rw [hfirst]
  nofun

/-- The first draw tells a fault of binding that the host stops, and lets any other through. -/
theorem answer_of_raised (hnew : a.binding = .unbound)
    (hentry : Resolution.entry? (a.resolution.settle a.tree) = some entry)
    (hraised : (createTarget engine entry).run.run (q.meanwhile a.state) = (.error fault, s)) :
    a.answer engine q = ⟨[], if fault.isStopped then ((retell engine entry fault).run s).1
      else .error fault⟩ := by
  unfold answer
  rw [drawn_of_entry hentry, hnew]
  dsimp only
  cases hs : fault.isStopped with
  | true => rw [invoke_of_stopped _ _ _ hraised hs, invoke_failed]; rfl
  | false => rw [invoke_of_beyond _ _ _ hraised hs]; rfl

theorem answer_of_failed (hb : a.binding = .failed fault)
    (hentry : Resolution.entry? (a.resolution.settle a.tree) = some entry) (q : DrawRequest σ) :
    a.answer engine q = ⟨[], ((retell engine entry fault).run (q.meanwhile a.state)).1⟩ := by
  unfold answer
  rw [drawn_of_entry hentry, hb]
  rfl

/-- A draw after a fault that went through the host calls a target that is not there. -/
theorem answer_of_lost (hb : a.binding = .lost)
    (hentry : Resolution.entry? (a.resolution.settle a.tree) = some entry) (q : DrawRequest σ) :
    a.answer engine q =
      ⟨[], .ok [.fault "'NoneType' object is not callable" entry.line]⟩ := by
  unfold answer
  rw [drawn_of_entry hentry, hb]
  rfl

theorem scriptEnd_of_entry (hentry : Resolution.entry? (a.resolution.settle a.tree) = some entry)
    (q : DrawRequest σ) :
    a.scriptEnd engine q = a.binding.scriptEnd engine entry q (q.meanwhile a.state) := by
  unfold scriptEnd
  rw [hentry]

/-- Nothing that binding raises in a first draw goes through the host. -/
def BindsInside (engine : Engine σ ν) (a : Artifact σ ν) (entry : EntryPoint)
    (q : DrawRequest σ) : Prop :=
  ∀ fault s, (createTarget engine entry).run.run (q.meanwhile a.state) = (.error fault, s) →
    fault.isStopped = true

/-- Between draws the binding is sound, unless in the first one a fault of binding went through the
host. -/
theorem isSound_after_iff (hnew : a.binding = .unbound)
    (hentry : Resolution.entry? (a.resolution.settle a.tree) = some entry)
    (qs : List (DrawRequest σ)) :
    (a.after engine qs).binding.IsSound engine ↔ ∀ q ∈ qs.head?, a.BindsInside engine entry q := by
  cases qs with
  | nil =>
    refine iff_of_true ?_ nofun
    show a.binding.IsSound engine
    rw [hnew]
    trivial
  | cons q qs =>
    have hhead : (∀ q' ∈ (q :: qs).head?, a.BindsInside engine entry q') ↔
        a.BindsInside engine entry q := by
      rw [List.head?_cons]
      exact ⟨fun h => h q rfl, by rintro h _ ⟨⟩; exact h⟩
    rw [hhead]
    rcases hcreated : (createTarget engine entry).run.run (q.meanwhile a.state) with
      ⟨fault | target, s⟩
    · have hinside : a.BindsInside engine entry q ↔ fault.isStopped = true := by
        unfold BindsInside
        rw [hcreated]
        exact ⟨fun h => h fault s rfl, by rintro h _ _ ⟨⟩; exact h⟩
      rw [after_of_raised hnew hentry hcreated, hinside]
      cases hs : fault.isStopped with
      | true => exact iff_of_true hs rfl
      | false => exact iff_of_false id (by simp)
    · rw [after_of_created hnew hentry hcreated]
      obtain ⟨s', hcallable⟩ := createTarget_isCallable hcreated
      refine iff_of_true ⟨s', s, hcallable⟩ ?_
      unfold BindsInside
      rw [hcreated]
      nofun

/-- **Faults of binding.** Between draws the binding is sound exactly if nothing that binding raises
goes through the host. The first draw tells a fault that it meets while it binds. Every later draw
comes to the same fault exactly if the host stops it: then it tells the fault again, whatever other
scripts did meanwhile, and answers the same if the fault always answers alike. After any other fault
the later draws call a target that is not there. -/
theorem replayed_iff_isStopped (hnew : a.binding = .unbound)
    (hentry : Resolution.entry? (a.resolution.settle a.tree) = some entry) :
    (∀ qs, (a.after engine qs).binding.IsSound engine ↔
      ∀ q ∈ qs.head?, a.BindsInside engine entry q) ∧
    ∀ (q : DrawRequest σ) fault s,
      (createTarget engine entry).run.run (q.meanwhile a.state) = (.error fault, s) →
      a.answer engine q = ⟨[], if fault.isStopped then ((retell engine entry fault).run s).1
          else .error fault⟩ ∧
        ((∀ qs q', ((a.after engine (q :: qs)).scriptEnd engine q').1 = .atBinding fault) ↔
          fault.isStopped = true) ∧
        (fault.isStopped = true → ∀ qs q', (a.after engine (q :: qs)).answer engine q' =
          ⟨[], ((retell engine entry fault).run
            (q'.meanwhile (a.after engine (q :: qs)).state)).1⟩) ∧
        (fault.IsSteady engine →
          ((∀ qs q', (a.after engine (q :: qs)).answer engine q' = a.answer engine q) ↔
            fault.isStopped = true)) ∧
        (fault.isStopped = false → ∀ qs q', (a.after engine (q :: qs)).answer engine q' =
          ⟨[], .ok [.fault "'NoneType' object is not callable" entry.line]⟩) := by
  refine ⟨isSound_after_iff hnew hentry, fun q fault s hraised => ?_⟩
  have hfirst := answer_of_raised hnew hentry hraised
  have hbinding := after_of_raised hnew hentry hraised
  have hlater : ∀ qs, Resolution.entry? ((a.after engine (q :: qs)).resolution.settle
      (a.after engine (q :: qs)).tree) = some entry := fun qs => after_entry hentry (q :: qs)
  cases hs : fault.isStopped with
  | true =>
    rw [hs, if_pos rfl] at hfirst hbinding
    have hanswer : ∀ qs q', (a.after engine (q :: qs)).answer engine q' = _ :=
      fun qs => answer_of_failed (hbinding qs) (hlater qs)
    refine ⟨hfirst, iff_of_true (fun qs q' => ?_) rfl, fun _ => hanswer,
      fun hsteady => iff_of_true (fun qs q' => ?_) rfl, nofun⟩
    · rw [scriptEnd_of_entry (hlater qs), hbinding]
      rfl
    · rw [hanswer, hfirst, hsteady.retell entry]
  | false =>
    rw [hs, if_neg Bool.false_ne_true] at hfirst hbinding
    have hanswer : ∀ qs q', (a.after engine (q :: qs)).answer engine q' = _ :=
      fun qs => answer_of_lost (hbinding qs) (hlater qs)
    refine ⟨hfirst, iff_of_false (fun hsame => ?_) nofun, nofun,
      fun _ => iff_of_false (fun hsame => ?_) nofun, fun _ => hanswer⟩
    · have hcalm := hsame [] q
      rw [scriptEnd_of_entry (hlater []), hbinding] at hcalm
      cases hcalm
    · have hsame := (hanswer [] q).symm.trans ((hsame [] q).trans hfirst)
      cases congrArg DrawOutcome.answer hsame

end Artifact

/-! ## An interrupted body -/

/-- A request to stop the whole program. -/
def Fault.interrupt : Fault := .mk "KeyboardInterrupt" .beyond false (.ok "stop") none []

/-- A script whose body raises it in front of its drawing function. -/
def Artifact.interrupted : Artifact Rehearsal.State Rehearsal.Value where
  tree := .mk .unknown (.module [.drawDefinition 3])
  resolution := .unresolved
  binding := .unbound
  state := Rehearsal.start ⟨1, [], some .interrupt, []⟩

/-- The entry point of the script. -/
def EntryPoint.interrupted : EntryPoint := ⟨false, true, 3⟩

/-- The interrupt that leaves the body. -/
def Fault.interruptThrough : Fault := Fault.interrupt.through [⟨unitFile, 1⟩]

theorem createTarget_interrupted (accepts : Canvas → CanvasCall → Except Fault Unit) :
    (createTarget (rehearsalEngine accepts) .interrupted).run.run Artifact.interrupted.state =
      (.error .interruptThrough, { Artifact.interrupted.state with log := [.body] }) := rfl

/-- The first draw lets the interrupt through, and the second one blames the drawing function for a
target that is not there. -/
theorem interrupted_not_replayed :
    Artifact.interrupted.binding = .unbound ∧
      (Artifact.interrupted.answer (rehearsalEngine fun _ _ => .ok ()) .small).answer =
        .error .interruptThrough ∧
      ((Artifact.interrupted.after (rehearsalEngine fun _ _ => .ok ()) [.small]).answer
        (rehearsalEngine fun _ _ => .ok ()) .small).answer =
        .ok [.fault "'NoneType' object is not callable" 3] ∧
      ¬ (Artifact.interrupted.after (rehearsalEngine fun _ _ => .ok ()) [.small]).binding.IsSound
        (rehearsalEngine fun _ _ => .ok ()) := by
  obtain ⟨hsound, hraised⟩ := @Artifact.replayed_iff_isStopped _ _
    (rehearsalEngine fun _ _ => .ok ()) .interrupted .interrupted rfl rfl
  obtain ⟨hfirst, -, -, -, hlater⟩ := hraised .small _ _ (createTarget_interrupted _)
  refine ⟨rfl, congrArg DrawOutcome.answer hfirst,
    congrArg DrawOutcome.answer (hlater rfl [] .small), fun h => ?_⟩
  cases (hsound [.small]).mp h .small rfl _ _ (createTarget_interrupted _)

/-- A fault of binding that goes through the host is not told again, though it always answers
alike. -/
theorem fault_not_always_replayed :
    ¬ ∀ (engine : Engine Rehearsal.State Rehearsal.Value)
      (a : Artifact Rehearsal.State Rehearsal.Value) (entry : EntryPoint) (fault : Fault)
      (s : Rehearsal.State) (qs : List (DrawRequest Rehearsal.State))
      (q q' : DrawRequest Rehearsal.State), a.binding = .unbound →
      Resolution.entry? (a.resolution.settle a.tree) = some entry →
      (createTarget engine entry).run.run (q.meanwhile a.state) = (.error fault, s) →
      fault.IsSteady engine →
      (a.after engine (q :: qs)).answer engine q' = a.answer engine q := by
  intro h
  have hsame := h (rehearsalEngine fun _ _ => .ok ()) .interrupted .interrupted _ _ [] .small .small
    rfl rfl (createTarget_interrupted _) (Fault.isSteady_mk nofun nofun)
  cases congrArg DrawOutcome.answer hsame

end LiveSketch

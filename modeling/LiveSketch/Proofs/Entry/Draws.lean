import LiveSketch.Proofs.Entry.Telling
import LiveSketch.Tree.Place

/-!
# Draws one after the other

An artifact is drawn any number of times, each draw starting from what the one before left
(`Artifact.after`). What a draw does depends on its binding alone: the first draw binds
(`invoke_of_created`, `invoke_of_stopped`, `invoke_of_beyond`), all others find a target
(`invoke_bound`), a fault (`invoke_failed`) or nothing (`invoke_lost`).

What binding comes to is settled once: `Artifact.after_induction` carries a property of bindings
through all draws.
-/

namespace LiveSketch

variable {σ ν : Type}

/-! ## One invocation -/

/-- Raises a kept fault of binding again, and reports what comes of it. -/
def retell (engine : Engine σ ν) (entry : EntryPoint) (fault : Fault) :
    StateM σ (Except Fault (List Diagnostic)) := do
  answerOf engine entry (← (replay engine fault).run)

section Invoke

variable {engine : Engine σ ν} {entry : EntryPoint} {s s' : σ} {fault : Fault}

/-! ### Binding -/

theorem settle_of_created {target : ν}
    (h : (createTarget engine entry).run.run s = (.ok target, s')) :
    (Binding.settle engine entry .unbound).run s = ((.bound target, .ok ()), s') := by
  unfold Binding.settle
  rw [StateT.run_bind, h]
  rfl

theorem settle_of_stopped (h : (createTarget engine entry).run.run s = (.error fault, s'))
    (hs : fault.isStopped = true) :
    (Binding.settle engine entry .unbound).run s = ((.failed fault, .ok ()), s') := by
  unfold Binding.settle
  rw [StateT.run_bind, h]
  change StateT.run (ite _ _ _) s' = _
  rw [if_pos hs]
  rfl

theorem settle_of_beyond (h : (createTarget engine entry).run.run s = (.error fault, s'))
    (hs : fault.isStopped = false) :
    (Binding.settle engine entry .unbound).run s = ((.lost, .error fault), s') := by
  unfold Binding.settle
  rw [StateT.run_bind, h]
  change StateT.run (ite _ _ _) s' = _
  rw [if_neg (by simp [hs])]
  rfl

/-- The host lets a fault through that it does not stop. -/
theorem handled_of_beyond (hs : fault.isStopped = false) :
    handled engine entry fault = throw fault := by
  unfold handled
  rw [if_neg (by simp [hs])]

/-! ### Calling -/

theorem retell_of_answers {words : String} (h : engine.Answers fault .words s words s') :
    (retell engine entry fault).run s =
      (answerOf engine entry (.error (.wrapping words fault))).run s' := by
  unfold retell replay
  rw [StateT.run_bind, ExceptT.run_bind, StateT.run_bind, h]
  rfl

theorem retell_of_refuses {other : Fault} (h : engine.Refuses fault .words s other s') :
    (retell engine entry fault).run s = (answerOf engine entry (.error other)).run s' := by
  unfold retell replay
  rw [StateT.run_bind, ExceptT.run_bind, StateT.run_bind, h]
  rfl

variable (canvas : Canvas) (width height : Int)

theorem invoke_bound (target : ν) :
    (invoke engine entry (.bound target) canvas width height).run s =
      let ended := (engine.call target canvas width height).run s
      let told := (answerOf engine entry ended.1.2).run ended.2
      ((.bound target, ⟨ended.1.1, told.1⟩), told.2) := rfl

theorem invoke_failed :
    (invoke engine entry (.failed fault : Binding ν) canvas width height).run s =
      let told := (retell engine entry fault).run s
      ((.failed fault, ⟨[], told.1⟩), told.2) := rfl

theorem invoke_lost :
    (invoke engine entry (.lost : Binding ν) canvas width height).run s =
      ((.lost, ⟨[], .ok [.fault "'NoneType' object is not callable" entry.line]⟩), s) := rfl

theorem invoke_binding_of_settled {b : Binding ν} (hb : b ≠ .unbound) :
    ((invoke engine entry b canvas width height).run s).1.1 = b := by
  cases b with
  | unbound => exact absurd rfl hb
  | bound target => rw [invoke_bound]
  | failed fault => rw [invoke_failed]
  | lost => rw [invoke_lost]

/-- A first draw that finds a target goes on like every later one. -/
theorem invoke_of_created {target : ν}
    (h : (createTarget engine entry).run.run s = (.ok target, s')) :
    (invoke engine entry .unbound canvas width height).run s =
      (invoke engine entry (.bound target) canvas width height).run s' := by
  unfold invoke
  rw [StateT.run_bind, settle_of_created h]
  rfl

theorem invoke_of_stopped (h : (createTarget engine entry).run.run s = (.error fault, s'))
    (hs : fault.isStopped = true) :
    (invoke engine entry (.unbound : Binding ν) canvas width height).run s =
      (invoke engine entry (.failed fault) canvas width height).run s' := by
  unfold invoke
  rw [StateT.run_bind, settle_of_stopped h hs]
  rfl

/-- A first draw lets any other fault of binding through. -/
theorem invoke_of_beyond (h : (createTarget engine entry).run.run s = (.error fault, s'))
    (hs : fault.isStopped = false) :
    (invoke engine entry (.unbound : Binding ν) canvas width height).run s =
      ((.lost, ⟨[], .error fault⟩), s') := by
  unfold invoke
  rw [StateT.run_bind, settle_of_beyond h hs]
  show ((Binding.lost, DrawOutcome.mk [] ((handled engine entry fault).run.run s').1),
    ((handled engine entry fault).run.run s').2) = _
  rw [handled_of_beyond hs]
  rfl

end Invoke

/-! ## A row of draws -/

/-- What a host asks an artifact to draw, and what other scripts do meanwhile, before it draws, to
what they share with its script. -/
structure DrawRequest (σ : Type) where
  canvas : Canvas
  width : Int
  height : Int
  meanwhile : σ → σ := id

namespace Artifact

def meanwhile (a : Artifact σ ν) (q : DrawRequest σ) : Artifact σ ν :=
  { a with state := q.meanwhile a.state }

variable (engine : Engine σ ν)

/-- The artifact after a draw, and what comes of the draw. -/
def drawn (a : Artifact σ ν) (q : DrawRequest σ) : Artifact σ ν × DrawOutcome :=
  (a.meanwhile q).draw engine q.canvas q.width q.height

def answer (a : Artifact σ ν) (q : DrawRequest σ) : DrawOutcome := (a.drawn engine q).2

def after (a : Artifact σ ν) (qs : List (DrawRequest σ)) : Artifact σ ν :=
  qs.foldl (fun a q => (a.drawn engine q).1) a

variable {engine} {a : Artifact σ ν}

/-- What holds of an artifact and is kept by every draw holds after all draws. -/
theorem after_induction {P : Artifact σ ν → Prop} (hstart : P a)
    (hdraw : ∀ a (q : DrawRequest σ), P a → P (a.drawn engine q).1)
    (qs : List (DrawRequest σ)) : P (a.after engine qs) := by
  induction qs generalizing a with
  | nil => exact hstart
  | cons q qs ih => exact ih (hdraw a q hstart)

theorem drawn_of_entry {entry : EntryPoint}
    (h : Resolution.entry? (a.resolution.settle a.tree) = some entry) (q : DrawRequest σ) :
    a.drawn engine q =
      let drawn := (invoke engine entry a.binding q.canvas q.width q.height).run
        (q.meanwhile a.state)
      ({ a with resolution := a.resolution.settle a.tree, binding := drawn.1.1, state := drawn.2 },
        drawn.1.2) := by
  unfold drawn meanwhile draw
  dsimp only
  rw [h]
  rfl

theorem drawn_of_no_entry (h : Resolution.entry? (a.resolution.settle a.tree) = none)
    (q : DrawRequest σ) :
    a.drawn engine q =
      ({ a with resolution := a.resolution.settle a.tree, state := q.meanwhile a.state },
        ⟨[], .ok [entryMissing]⟩) := by
  unfold drawn meanwhile draw
  dsimp only
  rw [h]

theorem after_resolution {entry : EntryPoint} (h : a.resolution = .found entry)
    (qs : List (DrawRequest σ)) : (a.after engine qs).resolution = .found entry := by
  refine after_induction (P := fun a => a.resolution = .found entry) h (fun a q ha => ?_) qs
  have hentry : Resolution.entry? (a.resolution.settle a.tree) = some entry := by rw [ha]; rfl
  rw [drawn_of_entry hentry, ha]
  rfl

theorem answer_of_found {entry : EntryPoint} (h : a.resolution = .found entry)
    (q : DrawRequest σ) :
    a.answer engine q = ((invoke engine entry a.binding q.canvas q.width q.height).run
      (q.meanwhile a.state)).1.2 := by
  have hentry : Resolution.entry? (a.resolution.settle a.tree) = some entry := by rw [h]; rfl
  unfold answer
  rw [drawn_of_entry hentry]

end Artifact

/-- A drawing function that does nothing, defined on a line and the next. -/
def Node.drawDefinition (line : Int) : Node :=
  .mk ⟨some line, some 0, some (line + 1), some 8⟩ (.functionDef false entryName
    (.mk .unknown (.arguments [] [.mk .unknown (.argument "canvas" none),
      .mk .unknown (.argument "width" none), .mk .unknown (.argument "height" none)]
      none [] [] none []))
    [.mk .unknown .pass] [] none [])

end LiveSketch

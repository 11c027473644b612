import LiveSketch.Proofs.Session.Event
import LiveSketch.Studio.Command

/-!
# Runs of a studio

As for one session, an event is anything that can happen to a studio next: a call of the editor, time
that goes on, a turn or the end of a job of any one session. The order in which a studio itself takes
turns and works is one of many (`drain_eq_run`, `settle_eq_run`).
-/

namespace LiveSketch

variable {σ ν : Type}

/-- What can happen to a studio next. -/
inductive StudioEvent where
  /-- A document is opened with a text, or has a new one. -/
  | edit (address text : String)
  | close (address : String)
  /-- All documents are closed. -/
  | shutdown
  | command (name : String) (arguments : List Datum)
  /-- The editor is told what scripts may import. -/
  | greet
  /-- Time goes on. -/
  | pass (span : Int)
  /-- The session under a key takes the turn at a place of its queue. -/
  | turn (key place : Nat)
  /-- The worker of the session under a key ends its next job. If it compiles a cancelled request it
  finds so from checkpoint `foundAt` on. -/
  | complete (key : Nat) (foundAt : Option Nat)

namespace Studio

/-- What a studio makes of an event. An edit that is refused changes nothing. -/
def step (p : StudioPlan σ ν) (s : Studio σ ν) : StudioEvent → Studio σ ν
  | .edit address text => match s.edit p address text with
    | .ok after => after
    | .error _ => s
  | .close address => s.close p address
  | .shutdown => s.closeAll p
  | .command name arguments => s.command p name arguments
  | .greet => s.greet p
  | .pass span => s.advance p span
  | .turn key place =>
    { s with turns := s.turns.erase key }.within p key fun w session =>
      session.step w (.turn place)
  | .complete key foundAt =>
    { s with jobs := s.jobs.erase key }.within p key fun w session =>
      session.step w (.complete foundAt)

/-- What a studio makes of a sequence of events. -/
def run (p : StudioPlan σ ν) (s : Studio σ ν) (es : List StudioEvent) : Studio σ ν :=
  es.foldl (step p) s

theorem run_append (p : StudioPlan σ ν) (s : Studio σ ν) (es es' : List StudioEvent) :
    s.run p (es ++ es') = (s.run p es).run p es' := List.foldl_append

end Studio

namespace StudioPlan

def run (p : StudioPlan σ ν) (es : List StudioEvent) : Studio σ ν := Studio.empty.run p es

end StudioPlan

/-! ## The studio's own ways of running -/

/-- The worker ends a job during which nothing is submitted. -/
theorem Session.work_none_eq_step (w : Workshop σ ν) (s : Session σ ν) :
    s.work w none = s.step w (.complete (some 1)) := by
  unfold work
  cases hjobs : s.jobs with
  | nil =>
    show s = s.complete w (some 1)
    unfold complete
    rw [hjobs]
  | cons job rest => exact perform_none_eq_step w s job rest hjobs

namespace Studio

variable (p : StudioPlan σ ν)

theorem turn_eq_run (s : Studio σ ν) : ∃ es, s.turn p = s.run p es := by
  unfold turn
  cases hturns : s.turns with
  | nil => exact ⟨[], rfl⟩
  | cons key rest =>
    have hrest : s.turns.erase key = rest := by rw [hturns, List.erase_cons_head]
    refine ⟨[.turn key 0], ?_⟩
    show Studio.within p { s with turns := rest } key Session.turn =
      Studio.within p { s with turns := s.turns.erase key } key
        fun w session => session.step w (.turn 0)
    rw [hrest]
    congr 1
    funext w session
    exact session.turn_eq_step w

/-- The first job that was begun ends first. -/
theorem work_eq_run (s : Studio σ ν) : ∃ es, s.work p = s.run p es := by
  unfold work
  cases hjobs : s.jobs with
  | nil => exact ⟨[], rfl⟩
  | cons key rest =>
    have hrest : s.jobs.erase key = rest := by rw [hjobs, List.erase_cons_head]
    refine ⟨[.complete key (some 1)], ?_⟩
    show Studio.within p { s with jobs := rest } key (fun w session => session.work w none) =
      Studio.within p { s with jobs := s.jobs.erase key } key
        fun w session => session.step w (.complete (some 1))
    rw [hrest]
    congr 1
    funext w session
    exact session.work_none_eq_step w

variable {p}

theorem repeat_eq_run {f : Studio σ ν → Studio σ ν} (hf : ∀ s, ∃ es, f s = s.run p es) (n : Nat)
    (s : Studio σ ν) : ∃ es, Nat.repeat f n s = s.run p es := by
  induction n with
  | zero => exact ⟨[], rfl⟩
  | succ n ih =>
    obtain ⟨es, hes⟩ := ih
    obtain ⟨es', hes'⟩ := hf (s.run p es)
    refine ⟨es ++ es', ?_⟩
    show f (Nat.repeat f n s) = _
    rw [hes, hes', run_append]

variable (p)

theorem drain_eq_run (s : Studio σ ν) : ∃ es, s.drain p = s.run p es :=
  repeat_eq_run (turn_eq_run p) _ s

/-- **Settling as events.** A studio that goes on until no job is left makes a run. -/
theorem settle_eq_run (s : Studio σ ν) : ∃ es, s.settle p = s.run p es := by
  have hround : ∀ s : Studio σ ν, ∃ es, (s.drain p).work p = s.run p es := by
    intro s
    obtain ⟨es, hes⟩ := drain_eq_run p s
    obtain ⟨es', hes'⟩ := work_eq_run p (s.run p es)
    refine ⟨es ++ es', ?_⟩
    rw [hes, hes', run_append]
  unfold settle
  obtain ⟨es, hes⟩ := repeat_eq_run hround (s.documents.map fun d => d.session.rounds).sum s
  obtain ⟨es', hes'⟩ := drain_eq_run p (s.run p es)
  refine ⟨es ++ es', ?_⟩
  rw [hes, hes', run_append]

end Studio

end LiveSketch

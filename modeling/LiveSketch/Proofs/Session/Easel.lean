import LiveSketch.Proofs.Session.Event
import Mathlib.Data.List.Induction

/-!
# Pictures in the order they were begun

The view of a session keeps the pictures under way as a multiset, without their sizes. Which picture
is shown last depends on both, so the easel of a session keeps them in two rows:

1. pictures that are finished, those noticed to be so in front of those not noticed yet;
2. drafts, which are the pictures that the worker has still to make.

The rows stay in order as long as no picture overtakes another (`Session.inOrder`) and every draft
becomes a picture (`Session.succeeds`). Most small changes of a session do nothing to its easel.
-/

namespace LiveSketch

variable {σ ν : Type}

/-! ## Rows of pictures -/

/-- A picture to be made: what for, and how large. -/
structure Draft where
  rendering : Rendering
  width : Int
  height : Int
deriving DecidableEq

/-- A finished picture with what it was made for. -/
structure Exhibit where
  rendering : Rendering
  picture : Picture

def Exhibit.draft (x : Exhibit) : Draft := ⟨x.rendering, x.picture.width, x.picture.height⟩

namespace Turn

/-- The finished picture that the turn has to show. -/
def noticed? : Turn σ ν → Option Exhibit
  | present r (.ok p) => some ⟨r, p⟩
  | _ => none

/-- The finished picture that the turn has to notice. -/
def unnoticed? : Turn σ ν → Option Exhibit
  | later next => next.noticed?
  | _ => none

/-- The turn waits for at most one round. -/
def isPlain : Turn σ ν → Bool
  | later (later _) => false
  | _ => true

/-- The turn has no picture to show or to notice. -/
structure Quiet (t : Turn σ ν) : Prop where
  noticed : t.noticed? = none
  unnoticed : t.unnoticed? = none
  plain : t.isPlain = true

end Turn

/-- The picture that a job is to make. -/
def Job.draft? : Job → Option Draft
  | compile _ => none
  | draw r width height => some ⟨r, width, height⟩

/-- What matters of a session for the pictures it shows. -/
structure Easel (σ ν : Type) where
  result : Option Result
  artifact : Option Nat
  artifacts : List (Nat × Artifact σ ν)
  requests : List Request
  width : Int
  height : Int
  equipped : Bool
  finished : List Exhibit
  drafts : List Draft
  plain : Bool

namespace Session

/-- The finished pictures, in the order in which they were finished. -/
def finished (s : Session σ ν) : List Exhibit :=
  s.ready.filterMap Turn.noticed? ++ s.ready.filterMap Turn.unnoticed?

/-- What matters of the session for the pictures it shows. -/
def easel (s : Session σ ν) : Easel σ ν :=
  ⟨s.result, s.artifact, s.artifacts, s.requests, s.width, s.height, s.surface.isSome, s.finished,
    s.jobs.filterMap Job.draft?, s.ready.all Turn.isPlain⟩

/-! ## Orderly steps -/

/-- The turn at a place has something to do that one in front of it has to do as well. -/
def overtakes (s : Session σ ν) (task? : Turn σ ν → Option Exhibit) (place : Nat) : Bool :=
  (s.ready[place]?.bind task?).isSome && (s.ready.take place).any fun t => (task? t).isSome

/-- The step lets no picture overtake one that was finished before it. -/
def inOrder (s : Session σ ν) : Event → Bool
  | .turn place => !s.overtakes Turn.noticed? place && !s.overtakes Turn.unnoticed? place
  | _ => true

/-- The step does not end a draw with a fault that reaches the host. -/
def succeeds (w : Workshop σ ν) (s : Session σ ν) : Event → Bool
  | .complete _ => match s.jobs with
    | .draw r width height :: rest => ({ s with jobs := rest }.runDraw w r width height).2.isOk
    | _ => true
  | _ => true

/-- Each event of a run meets a condition where it happens. -/
def always (w : Workshop σ ν) (C : Session σ ν → Event → Bool) (s : Session σ ν) :
    List Event → Bool
  | [] => true
  | e :: es => C s e && (s.step w e).always w C es

theorem always_append {w : Workshop σ ν} {C : Session σ ν → Event → Bool} {s : Session σ ν}
    {es es' : List Event} :
    s.always w C (es ++ es') = (s.always w C es && (s.run w es).always w C es') := by
  induction es generalizing s with
  | nil => simp [always, run]
  | cons e es ih =>
    show (C s e && (s.step w e).always w C (es ++ es')) = _
    rw [ih, ← Bool.and_assoc]
    rfl

end Session

/-- Each event of a run meets a condition where it happens. -/
def Opening.always (o : Opening) (w : Workshop σ ν) (C : Session σ ν → Event → Bool)
    (es : List Event) : Bool := (o.session : Session σ ν).always w C es

namespace Session

variable (s : Session σ ν)

theorem easel_of_ready_append {s s' : Session σ ν} {more : List (Turn σ ν)}
    (hready : s'.ready = s.ready ++ more) (hmore : ∀ t ∈ more, t.Quiet)
    (hrest : { s'.easel with finished := s.finished, plain := s.ready.all Turn.isPlain } = s.easel) :
    s'.easel = s.easel := by
  have hnoticed : more.filterMap Turn.noticed? = [] :=
    List.filterMap_eq_nil_iff.mpr fun t ht => (hmore t ht).noticed
  have hunnoticed : more.filterMap Turn.unnoticed? = [] :=
    List.filterMap_eq_nil_iff.mpr fun t ht => (hmore t ht).unnoticed
  have hfinished : s'.finished = s.finished := by
    unfold finished
    rw [hready, List.filterMap_append, List.filterMap_append, hnoticed, hunnoticed,
      List.append_nil, List.append_nil]
  have hplain : s'.ready.all Turn.isPlain = s.ready.all Turn.isPlain := by
    have hmore' : more.all Turn.isPlain = true := List.all_eq_true.mpr fun t ht => (hmore t ht).plain
    rw [hready, List.all_append, hmore', Bool.and_true]
  rw [← hrest, ← hfinished, ← hplain]
  rfl

@[simp]
theorem easel_announce (n : Notice) : (s.announce n).easel = s.easel := rfl

theorem easel_lineUp {t : Turn σ ν} (ht : t.Quiet) : (s.lineUp t).easel = s.easel :=
  easel_of_ready_append rfl (by simpa using ht) rfl

@[simp]
theorem easel_release : s.release.easel = s.easel := by
  unfold release
  split
  · refine easel_of_ready_append rfl (fun t ht => ?_) rfl
    obtain ⟨id, -, rfl⟩ := List.mem_map.mp ht
    exact ⟨rfl, rfl, rfl⟩
  · rfl

@[simp]
theorem easel_recheck (id : Nat) : (s.recheck id).easel = s.easel := by
  unfold recheck
  split <;> rfl

@[simp]
theorem easel_finish (origin : Origin) (outcome : Except Fault Unit) :
    (s.finish origin outcome).easel = s.easel := by
  cases origin with
  | run request => exact easel_release _
  | command id => rfl

theorem easel_hire_compile (request : Nat) : (s.hire (.compile request)).easel = s.easel := by
  unfold easel hire
  rw [List.filterMap_append]
  exact congrArg (Easel.mk _ _ _ _ _ _ _ _ · _) (List.append_nil _)

theorem easel_hire_draw (r : Rendering) (width height : Int) :
    (s.hire (.draw r width height)).easel =
      { s.easel with drafts := s.easel.drafts ++ [⟨r, width, height⟩] } := by
  unfold easel hire
  rw [List.filterMap_append]
  rfl

theorem easel_edit (w : Workshop σ ν) (text : String) : (s.edit w text).easel = s.easel := by
  unfold edit
  split
  · rfl
  · dsimp only
    split
    · exact easel_lineUp _ ⟨rfl, rfl, rfl⟩
    · rfl

theorem easel_advance (span : Int) : (s.advance span).easel = s.easel := by
  unfold advance
  dsimp only
  split
  · split
    · exact easel_lineUp _ ⟨rfl, rfl, rfl⟩
    · rfl
  · rfl

theorem easel_submit_of_accepts {text : String} (h : s.accepts text = true) :
    (s.submit text).easel = { s.easel with
      requests := Request.withdrawn s.requests ++ [⟨.ofString text, false⟩] } := by
  rw [submit_of_accepts h]
  exact easel_lineUp { s with
    requests := Request.withdrawn s.requests ++ [⟨.ofString text, false⟩] }
    (t := .begin s.requests.length) ⟨rfl, rfl, rfl⟩

theorem easel_close :
    s.close.easel = { s.easel with requests := Request.withdrawn s.requests } := by
  unfold close
  rw [easel_release, cancelCurrent_eq]
  rfl

/-- The shown artifact is drawn in the current size, if the session is open. -/
theorem easel_startRender (hequipped : s.surface.isSome = true) (origin : Origin)
    (request : Option Nat) (result : Result) :
    (s.startRender origin request result).easel = s.easel ∧
        (s.artifact = none ∨ s.closed = true) ∨
      ∃ k, s.artifact = some k ∧ (s.startRender origin request result).easel =
        { s.easel with drafts := s.easel.drafts ++
          [⟨⟨origin, request, result, k⟩, s.width, s.height⟩] } := by
  obtain ⟨plan, hplan⟩ := Option.isSome_iff_exists.mp hequipped
  unfold startRender
  cases hartifact : s.artifact with
  | none => exact .inl ⟨easel_finish s _ _, .inl rfl⟩
  | some k =>
    dsimp only
    rw [hplan]
    dsimp only
    by_cases hclosed : s.closed = true
    · rw [if_pos hclosed]
      exact .inl ⟨by simp, .inr hclosed⟩
    · rw [if_neg hclosed]
      exact .inr ⟨k, rfl, easel_hire_draw s _ _ _⟩

end Session

end LiveSketch

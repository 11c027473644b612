import Mathlib.Data.Multiset.Filter
import LiveSketch.Proofs.Session.Event

/-!
# What matters of a session

A session keeps turns, jobs and waiting callers in queues. Its promises are about less:

1. its face, which is all that an editor can see of it, with the calls that told the editor so;
2. what it was asked: the requests, the last text, whether it is closed;
3. its errands, which are the compiles and pictures under way, wherever they wait, as a multiset.

The view of a session is these three, the runs under way and the artifacts. Each small change of a
session has a lemma here that says what it does to the view; most do nothing to it.
-/

namespace LiveSketch

variable {σ ν : Type}

/-! ## Errands -/

/-- A compile that has not ended, one whose outcome has not been taken over, or a picture. -/
inductive Errand (σ ν : Type) where
  | compiling (request : Nat)
  | adopting (request : Nat) (outcome : Except Halt (Compiled σ ν))
  | drawing (rendering : Rendering)

namespace Errand

def request? : Errand σ ν → Option Nat
  | compiling request | adopting request _ => some request
  | drawing _ => none

/-- The requests whose compiles are among some errands. -/
def requests (errands : Multiset (Errand σ ν)) : Multiset Nat := errands.filterMap request?

variable {errands : Multiset (Errand σ ν)}

theorem requests_cons_of_some {errand : Errand σ ν} {k : Nat} (h : errand.request? = some k) :
    requests (errand ::ₘ errands) = k ::ₘ requests errands := Multiset.filterMap_cons_some _ _ _ h

theorem mem_requests {errand : Errand σ ν} {k : Nat} (h : errand ∈ errands)
    (hk : errand.request? = some k) : k ∈ requests errands :=
  (Multiset.mem_filterMap _ _).mpr ⟨errand, h, hk⟩

@[simp]
theorem requests_cons_drawing (r : Rendering) :
    requests (.drawing r ::ₘ errands) = requests errands := Multiset.filterMap_cons_none _ _ rfl

end Errand

/-- The errand that a turn carries on. -/
def Turn.errand? : Turn σ ν → Option (Errand σ ν)
  | .begin request => some (.compiling request)
  | .adopt request outcome => some (.adopting request outcome)
  | .present r _ => some (.drawing r)
  | .later next => next.errand?
  | .wake _ | .command _ _ | .recheck _ => none

/-- The errand that a job carries on. -/
def Job.errand : Job → Errand σ ν
  | .compile request => .compiling request
  | .draw r _ _ => .drawing r

def Session.errands (s : Session σ ν) : Multiset (Errand σ ν) :=
  Multiset.filterMap Turn.errand? s.ready + Multiset.map Job.errand s.jobs

/-! ## Views -/

/-- The notice is a call to the editor. -/
def Notice.isCall : Notice → Bool
  | .mode _ | .diagnostics _ _ | .picture _ => true
  | .failure _ | .ended _ _ => false

/-- What an editor can see of a session, and the calls it had. -/
structure Face where
  mode : Mode
  diagnostics : List Diagnostic
  result : Option Result
  artifact : Option Nat
  calls : List Notice

/-- What matters of a session. -/
structure View (σ ν : Type) extends Face where
  requests : List Request
  lastText : Option String
  closed : Bool
  running : List Nat
  artifacts : List (Nat × Artifact σ ν)
  errands : Multiset (Errand σ ν)

/-- A request was made that is not cancelled. -/
def Request.Live (requests : List Request) (request : Nat) : Prop :=
  ∃ q, requests[request]? = some q ∧ q.cancelled = false

namespace View

/-- The request was neither superseded nor cancelled by closing. -/
def Live (v : View σ ν) (request : Nat) : Prop := Request.Live v.requests request

/-- The view with one more errand under way. -/
def beside (v : View σ ν) (errand : Errand σ ν) : View σ ν :=
  { v with errands := errand ::ₘ v.errands }

@[simp]
theorem beside_errands (v : View σ ν) (errand : Errand σ ν) :
    (v.beside errand).errands = errand ::ₘ v.errands := rfl

/-- The requests whose compile is under way. -/
def compiling (v : View σ ν) : Multiset Nat := Errand.requests v.errands

end View

namespace Session

/-- What an editor can see of the session. -/
def face (s : Session σ ν) : Face :=
  ⟨s.mode, s.diagnostics, s.result, s.artifact, s.transcript.filter Notice.isCall⟩

def view (s : Session σ ν) : View σ ν :=
  ⟨s.face, s.requests, s.lastText, s.closed, s.running, s.artifacts, s.errands⟩

theorem live_view {s : Session σ ν} {request : Nat} :
    s.view.Live request ↔ s.isCancelled request = false := by
  show (∃ q, s.requests[request]? = some q ∧ _) ↔ _
  unfold isCancelled
  cases s.requests[request]? <;> simp

theorem not_live_view {s : Session σ ν} {request : Nat} :
    ¬ s.view.Live request ↔ s.isCancelled request = true := by
  rw [live_view, Bool.not_eq_false]

theorem current?_eq_some {s : Session σ ν} {request : Nat} :
    s.current? = some request ↔ request + 1 = s.requests.length := by
  unfold current?
  cases s.requests with
  | nil => simp
  | cons q rest => simp [eq_comm]

theorem mem_artifacts_of_artifactOf? {s : Session σ ν} {request : Nat} {a : Artifact σ ν}
    (h : s.artifactOf? request = some a) : request ∈ s.view.artifacts.map Prod.fst := by
  obtain ⟨kept, hfind, -⟩ := Option.map_eq_some_iff.mp h
  have hkey : kept.1 = request := by simpa using List.find?_some hfind
  rw [← hkey]
  exact List.mem_map_of_mem (List.mem_of_find?_eq_some hfind)

/-! ## Changes of the queues -/

section Errands

variable {s : Session σ ν} {t : Turn σ ν} {errand : Errand σ ν}

theorem errands_lineUp_of_some (h : t.errand? = some errand) :
    (s.lineUp t).errands = errand ::ₘ s.errands := by
  unfold errands lineUp
  dsimp only
  rw [← Multiset.coe_add, Multiset.coe_singleton, Multiset.add_comm _ {t},
    Multiset.singleton_add, Multiset.filterMap_cons_some _ _ _ h, Multiset.cons_add]

theorem errands_of_ready_append {s' : Session σ ν} {more : List (Turn σ ν)}
    (hready : s'.ready = s.ready ++ more) (hjobs : s'.jobs = s.jobs)
    (hmore : ∀ t ∈ more, t.errand? = none) : s'.errands = s.errands := by
  have hnone : Multiset.filterMap Turn.errand? (more : Multiset (Turn σ ν)) = 0 := by
    rw [Multiset.filterMap_coe, List.filterMap_eq_nil_iff.mpr hmore]
    rfl
  unfold errands
  rw [hready, hjobs, ← Multiset.coe_add, Multiset.filterMap_add, hnone, Multiset.add_zero]

theorem errands_hire (j : Job) : (s.hire j).errands = j.errand ::ₘ s.errands := by
  unfold errands hire
  dsimp only
  rw [← Multiset.coe_add, Multiset.coe_singleton, Multiset.add_comm _ {j},
    Multiset.singleton_add, Multiset.map_cons, Multiset.add_cons]

theorem ready_eq_cons {place : Nat} (h : s.ready[place]? = some t) :
    (s.ready : Multiset (Turn σ ν)) = t ::ₘ ↑(s.ready.eraseIdx place) := by
  obtain ⟨hlt, rfl⟩ := List.getElem?_eq_some_iff.mp h
  rw [Multiset.cons_coe]
  exact Multiset.coe_eq_coe.mpr (List.getElem_cons_eraseIdx_perm hlt).symm

/-- A turn that is taken leaves the queue with its errand. -/
theorem view_of_ready_some {place : Nat} (h : s.ready[place]? = some t)
    (ht : t.errand? = some errand) :
    s.view = { s with ready := s.ready.eraseIdx place }.view.beside errand := by
  have herrands : s.errands = errand ::ₘ { s with ready := s.ready.eraseIdx place }.errands := by
    unfold errands
    rw [ready_eq_cons h, Multiset.filterMap_cons_some _ _ _ ht, Multiset.cons_add]
  unfold view
  rw [herrands]
  rfl

theorem view_of_ready_none {place : Nat} (h : s.ready[place]? = some t) (ht : t.errand? = none) :
    s.view = { s with ready := s.ready.eraseIdx place }.view := by
  have herrands : s.errands = { s with ready := s.ready.eraseIdx place }.errands := by
    unfold errands
    rw [ready_eq_cons h, Multiset.filterMap_cons_none _ _ ht]
  unfold view
  rw [herrands]
  rfl

theorem view_of_jobs {j : Job} {rest : List Job} (h : s.jobs = j :: rest) :
    s.view = { s with jobs := rest }.view.beside j.errand := by
  have herrands : s.errands = j.errand ::ₘ { s with jobs := rest }.errands := by
    unfold errands
    rw [h, ← Multiset.cons_coe, Multiset.map_cons, Multiset.add_cons]
  unfold view
  rw [herrands]
  rfl

end Errands

/-! ## Changes of the view -/

variable (s : Session σ ν)

theorem view_announce {n : Notice} (h : n.isCall = false) : (s.announce n).view = s.view := by
  have hcalls : (s.transcript ++ [n]).filter Notice.isCall = s.transcript.filter Notice.isCall := by
    rw [List.filter_append, List.filter_cons_of_neg (by rw [h]; exact Bool.false_ne_true),
      List.filter_nil, List.append_nil]
  unfold view face announce
  rw [hcalls]
  rfl

theorem view_lineUp_of_some {t : Turn σ ν} {errand : Errand σ ν} (h : t.errand? = some errand) :
    (s.lineUp t).view = s.view.beside errand := by
  show { s.view with errands := (s.lineUp t).errands } = _
  rw [errands_lineUp_of_some h]
  rfl

theorem view_lineUp_of_none {t : Turn σ ν} (h : t.errand? = none) : (s.lineUp t).view = s.view := by
  have herrands : (s.lineUp t).errands = s.errands :=
    errands_of_ready_append rfl rfl (by simpa using h)
  show { s.view with errands := (s.lineUp t).errands } = _
  rw [herrands]
  rfl

@[simp]
theorem view_hire (j : Job) : (s.hire j).view = s.view.beside j.errand := by
  show { s.view with errands := (s.hire j).errands } = _
  rw [errands_hire]
  rfl

@[simp]
theorem view_release : s.release.view = s.view := by
  unfold release
  split
  · unfold view
    congr 1
    refine errands_of_ready_append rfl rfl fun t ht => ?_
    obtain ⟨id, -, rfl⟩ := List.mem_map.mp ht
    rfl
  · rfl

@[simp]
theorem view_recheck (id : Nat) : (s.recheck id).view = s.view := by
  unfold recheck
  split
  · exact view_announce s rfl
  · rfl

end Session

/-- The runs under way once one that waited for a picture, or a caller that did, has ended. -/
def Origin.leave : Origin → List Nat → List Nat
  | .run request, running => running.filter (· != request)
  | .command _, running => running

namespace Session

/-- Ending what waited for a picture ends at most its run. -/
@[simp]
theorem view_finish (s : Session σ ν) (origin : Origin) (outcome : Except Fault Unit) :
    (s.finish origin outcome).view = { s.view with running := origin.leave s.view.running } := by
  cases origin with
  | run request => exact view_release _
  | command id => exact view_announce s rfl

/-- To have the shown artifact drawn is to give the worker a picture to make, or to end. -/
theorem view_startRender (s : Session σ ν) (origin : Origin) (request : Option Nat)
    (result : Result) :
    (s.startRender origin request result).view =
        { s.view with running := origin.leave s.view.running } ∨
      ∃ artifact, s.artifact = some artifact ∧ s.closed = false ∧
        (s.startRender origin request result).view =
          s.view.beside (.drawing ⟨origin, request, result, artifact⟩) := by
  unfold startRender
  split
  · rename_i artifact _ hartifact _
    split
    · left
      rw [view_finish, view_announce s rfl]
    · rename_i hclosed
      exact .inr ⟨artifact, hartifact, by simpa using hclosed, view_hire s _⟩
  · exact .inl (view_finish s origin _)

end Session

end LiveSketch

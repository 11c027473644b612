import Mathlib.Data.List.InsertIdx
import LiveSketch.Proofs.Session.Event

/-!
# The numbers of commands

A caller's command is known to a session by a number, which the session keeps and gives back when
the command ends. What the number is makes no difference: numbering the commands of a run otherwise
numbers its outcome otherwise, and changes nothing else (`Session.renumber_step`).

Of what scripts share only draws take notice. So a session may be given another state of it along
with other numbers: what is left of that at the end is read off `Session.Hands`.
-/

namespace LiveSketch

variable {σ ν : Type}

/-! ## Numbering otherwise -/

/-- The origin with the command numbered otherwise. -/
def Origin.renumber (f : Nat → Nat) : Origin → Origin
  | run request => .run request
  | command id => .command (f id)

/-- The picture being made for the command of another number. -/
def Rendering.renumber (f : Nat → Nat) (r : Rendering) : Rendering :=
  { r with origin := r.origin.renumber f }

def Job.renumber (f : Nat → Nat) : Job → Job
  | compile request => .compile request
  | draw rendering width height => .draw (rendering.renumber f) width height

/-- The turn with its command numbered otherwise. -/
def Turn.renumber (f : Nat → Nat) : Turn σ ν → Turn σ ν
  | begin request => .begin request
  | adopt request outcome => .adopt request outcome
  | present rendering outcome => .present (rendering.renumber f) outcome
  | wake serial => .wake serial
  | command id c => .command (f id) c
  | recheck id => .recheck (f id)
  | later next => .later (next.renumber f)

/-- The announcement with its command numbered otherwise. -/
def Notice.renumber (f : Nat → Nat) : Notice → Notice
  | mode m => .mode m
  | diagnostics ds source => .diagnostics ds source
  | picture shown => .picture shown
  | failure line => .failure line
  | ended id outcome => .ended (f id) outcome

/-- The event with its command numbered otherwise. -/
def Event.renumber (f : Nat → Nat) : Event → Event
  | order id command => .order (f id) command
  | start id command => .start (f id) command
  | e => e

/-- The worker ends a job. -/
def Event.endsJob : Event → Bool
  | complete _ => true
  | _ => false

/-! ## Each command under its own number -/

@[simp]
theorem Origin.renumber_id (origin : Origin) : origin.renumber id = origin := by
  cases origin <;> rfl

@[simp]
theorem Rendering.renumber_id (r : Rendering) : r.renumber id = r := by
  unfold renumber
  rw [r.origin.renumber_id]

@[simp]
theorem Job.renumber_id (j : Job) : j.renumber id = j := by
  cases j with
  | compile request => rfl
  | draw rendering width height => exact congrArg (draw · width height) rendering.renumber_id

@[simp]
theorem Turn.renumber_id (t : Turn σ ν) : t.renumber id = t := by
  induction t with
  | present rendering outcome => exact congrArg (present · outcome) rendering.renumber_id
  | later next ih => exact congrArg later ih
  | _ => rfl

@[simp]
theorem Notice.renumber_id (n : Notice) : n.renumber id = n := by
  cases n <;> rfl

@[simp]
theorem Event.renumber_id (e : Event) : e.renumber id = e := by
  cases e <;> rfl

namespace Session

/-- The session with all commands numbered otherwise, and what scripts share in this state. -/
def renumber (f : Nat → Nat) (x : Option σ) (s : Session σ ν) : Session σ ν :=
  { s with
    shared := x
    jobs := s.jobs.map (Job.renumber f)
    ready := s.ready.map (Turn.renumber f)
    waiting := s.waiting.map f
    transcript := s.transcript.map (Notice.renumber f) }

variable (f : Nat → Nat) (x : Option σ) (s : Session σ ν)

theorem renumber_id : s.renumber id s.shared = s := by
  have hjob : Job.renumber id = id := funext Job.renumber_id
  have hturn : (Turn.renumber id : Turn σ ν → Turn σ ν) = id := funext Turn.renumber_id
  have hnotice : Notice.renumber id = id := funext Notice.renumber_id
  unfold renumber
  rw [hjob, hturn, hnotice, List.map_id, List.map_id, List.map_id, List.map_id]

/-! ## Small changes -/

theorem renumber_announce (n : Notice) :
    (s.announce n).renumber f x = (s.renumber f x).announce (n.renumber f) := by
  simp only [announce, renumber, List.map_append, List.map_cons, List.map_nil]

theorem renumber_lineUp (t : Turn σ ν) :
    (s.lineUp t).renumber f x = (s.renumber f x).lineUp (t.renumber f) := by
  simp only [lineUp, renumber, List.map_append, List.map_cons, List.map_nil]

theorem renumber_hire (j : Job) : (s.hire j).renumber f x = (s.renumber f x).hire (j.renumber f) := by
  simp only [hire, renumber, List.map_append, List.map_cons, List.map_nil]

theorem renumber_setMode (m : Mode) : (s.setMode m).renumber f x = (s.renumber f x).setMode m :=
  renumber_announce f x { s with mode := m } (.mode m)

theorem renumber_publish (ds : List Diagnostic) (source : Source) :
    (s.publish ds source).renumber f x = (s.renumber f x).publish ds source :=
  renumber_announce f x { s with diagnostics := ds } (.diagnostics ds source)

theorem renumber_cancelCurrent : s.cancelCurrent.renumber f x = (s.renumber f x).cancelCurrent := by
  rw [cancelCurrent_eq, cancelCurrent_eq]
  rfl

theorem renumber_release : s.release.renumber f x = (s.renumber f x).release := by
  have hidle : (s.renumber f x).isIdle = s.isIdle := rfl
  unfold release
  rw [hidle]
  split
  · simp only [renumber, List.map_append, List.map_map, List.map_nil]
    rfl
  · rfl

theorem renumber_recheck (id : Nat) :
    (s.recheck id).renumber f x = (s.renumber f x).recheck (f id) := by
  have hidle : (s.renumber f x).isIdle = s.isIdle := rfl
  unfold recheck
  rw [hidle]
  split
  · exact renumber_announce f x s _
  · simp only [renumber, List.map_append, List.map_cons, List.map_nil]

theorem renumber_finish (origin : Origin) (outcome : Except Fault Unit) :
    (s.finish origin outcome).renumber f x = (s.renumber f x).finish (origin.renumber f) outcome := by
  cases origin with
  | run request => exact renumber_release f x _
  | command id => exact renumber_announce f x s _

/-! ## Texts -/

theorem renumber_submit (text : String) :
    (s.submit text).renumber f x = (s.renumber f x).submit text := by
  cases h : s.accepts text with
  | true =>
    rw [submit_of_accepts h, submit_of_accepts (s := s.renumber f x) h]
    simp only [renumber, List.map_append, List.map_cons, List.map_nil]
    rfl
  | false => rw [submit_of_not_accepts h, submit_of_not_accepts (s := s.renumber f x) h]

theorem renumber_edit (w : Workshop σ ν) (text : String) :
    (s.edit w text).renumber f x = (s.renumber f x).edit w text := by
  have hclosed : (s.renumber f x).closed = s.closed := rfl
  unfold edit
  rw [hclosed]
  split
  · rfl
  · dsimp only
    split
    · exact renumber_lineUp f x _ _
    · rfl

theorem renumber_advance (span : Int) :
    (s.advance span).renumber f x = (s.renumber f x).advance span := by
  have htimer : (s.renumber f x).timer = s.timer := rfl
  have hnow : (s.renumber f x).now = s.now := rfl
  unfold advance
  dsimp only
  rw [htimer, hnow]
  cases s.timer with
  | none => rfl
  | some timer =>
    dsimp only
    split
    · exact renumber_lineUp f x _ _
    · rfl

theorem renumber_close : s.close.renumber f x = (s.renumber f x).close := by
  unfold close
  rw [renumber_release, renumber_cancelCurrent]
  rfl

/-! ## Pictures -/

theorem renumber_startRender (origin : Origin) (request : Option Nat) (result : Result) :
    (s.startRender origin request result).renumber f x =
      (s.renumber f x).startRender (origin.renumber f) request result := by
  have hartifact : (s.renumber f x).artifact = s.artifact := rfl
  have hsurface : (s.renumber f x).surface = s.surface := rfl
  have hclosed : (s.renumber f x).closed = s.closed := rfl
  unfold startRender
  rw [hartifact, hsurface, hclosed]
  split
  · split
    · dsimp only
      rw [renumber_finish, renumber_announce]
      rfl
    · exact renumber_hire f x s _
  · exact renumber_finish f x s _ _

theorem renumber_render (origin : Origin) :
    (s.render origin).renumber f x = (s.renumber f x).render (origin.renumber f) := by
  have hresult : (s.renumber f x).result = s.result := rfl
  have hcurrent : (s.renumber f x).current? = s.current? := rfl
  have hshown : (s.renumber f x).shown? = s.shown? := rfl
  unfold render
  rw [hresult, hcurrent, hshown]
  split
  · exact renumber_finish f x s _ _
  · split
    · exact renumber_startRender f x s _ _ _
    · exact renumber_finish f x s _ _

theorem renumber_startCommand (id : Nat) (command : Command) :
    (s.startCommand id command).renumber f x = (s.renumber f x).startCommand (f id) command := by
  cases command with
  | render => exact renumber_render f x s _
  | resize width height =>
    unfold startCommand
    dsimp only
    split
    · exact renumber_announce f x s _
    · exact renumber_render f x _ _
  | flush => exact renumber_recheck f x s id

theorem renumber_present (w : Workshop σ ν) (r : Rendering) (outcome : Except Fault Picture) :
    (s.present w r outcome).renumber f x = (s.renumber f x).present w (r.renumber f) outcome := by
  have hcancelled : (s.renumber f x).isCancelled = s.isCancelled := rfl
  have hdiagnostics : (s.renumber f x).diagnostics = s.diagnostics := rfl
  have horigin : (r.renumber f).origin = r.origin.renumber f := rfl
  have hrequest : (r.renumber f).request = r.request := rfl
  have hresult : (r.renumber f).result = r.result := rfl
  have hartifact : (r.renumber f).artifact = r.artifact := rfl
  unfold present
  cases outcome with
  | error fault =>
    dsimp only
    split
    · cases fault.words with
      | ok words =>
        dsimp only
        rw [renumber_finish, renumber_announce, horigin]
        rfl
      | error other => exact renumber_finish f x s _ _
    · exact renumber_finish f x s _ _
  | ok picture =>
    dsimp only
    rw [hrequest, hcancelled, hartifact, hresult, hdiagnostics, horigin]
    split
    · exact renumber_finish f x s _ _
    · rw [renumber_finish, renumber_announce, apply_ite (renumber f x), renumber_publish]
      rfl

/-! ## Compiles -/

theorem renumber_begin (request : Nat) :
    (s.begin request).renumber f x = (s.renumber f x).begin request := by
  have hcancelled : (s.renumber f x).isCancelled = s.isCancelled := rfl
  have hclosed : (s.renumber f x).closed = s.closed := rfl
  unfold begin
  rw [hcancelled, hclosed]
  split
  · exact renumber_finish f x s _ _
  · exact renumber_hire f x s _

theorem renumber_adopt (request : Nat) (outcome : Except Halt (Compiled σ ν)) :
    (s.adopt request outcome).renumber f x = (s.renumber f x).adopt request outcome := by
  have hcancelled : (s.renumber f x).isCancelled = s.isCancelled := rfl
  unfold adopt
  cases outcome with
  | error halt => exact renumber_finish f x s _ _
  | ok compiled =>
    dsimp only
    rw [hcancelled]
    split
    · exact renumber_finish f x s _ _
    · rw [renumber_startRender, renumber_setMode, renumber_publish]
      cases compiled.artifact <;> rfl

/-! ## Turns -/

theorem renumber_take (w : Workshop σ ν) (t : Turn σ ν) :
    (s.take w t).renumber f x = (s.renumber f x).take w (t.renumber f) := by
  cases t with
  | begin request => exact renumber_begin f x s request
  | adopt request outcome => exact renumber_adopt f x s request outcome
  | present rendering outcome => exact renumber_present f x s w rendering outcome
  | wake serial =>
    have htimer : (s.renumber f x).timer = s.timer := rfl
    unfold take
    dsimp only [Turn.renumber]
    rw [htimer]
    cases s.timer with
    | none => rfl
    | some timer =>
      dsimp only
      split
      · rw [renumber_release, renumber_submit]
        rfl
      · rfl
  | command id command => exact renumber_startCommand f x s id command
  | recheck id => exact renumber_recheck f x s id
  | later next => exact renumber_lineUp f x s next

theorem renumber_turnAt (w : Workshop σ ν) (place : Nat) :
    (s.turnAt w place).renumber f x = (s.renumber f x).turnAt w place := by
  have hready : (s.renumber f x).ready = s.ready.map (Turn.renumber f) := rfl
  unfold turnAt
  rw [hready, List.getElem?_map]
  cases hturn : s.ready[place]? with
  | none => rfl
  | some t =>
    dsimp only [Option.map_some]
    rw [renumber_take, List.eraseIdx_map]
    rfl

/-! ## Draws

A draw reads what scripts share and leaves it as it likes; nothing else does either. -/

/-- From one session to the next what scripts share stays as it was, and stays `x` elsewhere, or
comes to be the same in both. -/
def Hands (s s' : Session σ ν) (x x' : Option σ) : Prop :=
  x' = x ∧ s'.shared = s.shared ∨ x' = s'.shared

variable {x} in
theorem renumber_runDraw {w : Workshop σ ν} (hx : w.enter x = w.enter s.shared) (r : Rendering)
    (width height : Int) :
    ∃ x', (s.renumber f x).runDraw w (r.renumber f) width height =
        ((s.runDraw w r width height).1.renumber f x', (s.runDraw w r width height).2) ∧
      s.Hands (s.runDraw w r width height).1 x x' := by
  have hsurface : (s.renumber f x).surface = s.surface := rfl
  have hartifact : (s.renumber f x).artifactOf? (r.renumber f).artifact = s.artifactOf? r.artifact :=
    rfl
  have hdrawn : ∀ (a : Artifact σ ν) (canvas : Canvas),
      drawShared w (s.renumber f x).shared a canvas width height =
        drawShared w s.shared a canvas width height := by
    intro a canvas
    unfold drawShared
    rw [show (s.renumber f x).shared = x from rfl, hx]
  unfold runDraw
  rw [hsurface, hartifact]
  split
  · split
    · exact ⟨x, rfl, .inl ⟨rfl, rfl⟩⟩
    · rw [hdrawn]
      exact ⟨_, rfl, .inr rfl⟩
  · exact ⟨x, rfl, .inl ⟨rfl, rfl⟩⟩

variable {x} in
theorem renumber_complete {w : Workshop σ ν} (hx : w.enter x = w.enter s.shared)
    (foundAt : Option Nat) :
    ∃ x', (s.complete w foundAt).renumber f x' = (s.renumber f x).complete w foundAt ∧
      s.Hands (s.complete w foundAt) x x' := by
  have hjobs : (s.renumber f x).jobs = s.jobs.map (Job.renumber f) := rfl
  unfold complete
  rw [hjobs]
  cases s.jobs with
  | nil => exact ⟨x, rfl, .inl ⟨rfl, rfl⟩⟩
  | cons job rest =>
    cases job with
    | compile request => exact ⟨x, renumber_lineUp f x _ _, .inl ⟨rfl, rfl⟩⟩
    | draw r width height =>
      obtain ⟨x', hdraw, hhands⟩ := renumber_runDraw f { s with jobs := rest } hx r width height
      refine ⟨x', ?_, hhands⟩
      show _ = (runDraw w ({ s with jobs := rest }.renumber f x) (r.renumber f) width
        height).1.lineUpLater (.present (r.renumber f)
          (runDraw w ({ s with jobs := rest }.renumber f x) (r.renumber f) width height).2)
      rw [hdraw]
      exact renumber_lineUp f x' ({ s with jobs := rest }.runDraw w r width height).1 _

/-! ## Every event -/

theorem renumber_step_of_not_endsJob (w : Workshop σ ν) {e : Event} (he : e.endsJob = false) :
    (s.step w e).renumber f x = (s.renumber f x).step w (e.renumber f) := by
  cases e with
  | edit text => exact renumber_edit f x s w text
  | submit text => exact renumber_submit f x s text
  | pass span => exact renumber_advance f x s span
  | turn place => exact renumber_turnAt f x s w place
  | order id command => exact renumber_lineUp f x s _
  | start id command => exact renumber_startCommand f x s id command
  | complete foundAt => cases he
  | equip plan => rfl
  | close => exact renumber_close f x s

theorem shared_step (w : Workshop σ ν) {e : Event} (he : e.endsJob = false) :
    (s.step w e).shared = s.shared := by
  have hsame := renumber_step_of_not_endsJob id s.shared s w he
  rw [renumber_id, e.renumber_id] at hsame
  exact (congrArg Session.shared hsame).symm

variable {x} in
/-- **Numbers do not matter.** A step on commands that are numbered otherwise is the same step,
numbered otherwise. Nor does it matter in which state what scripts share is, if a draw would find it
the same. -/
theorem renumber_step {w : Workshop σ ν} (hx : w.enter x = w.enter s.shared) (e : Event) :
    ∃ x', (s.step w e).renumber f x' = (s.renumber f x).step w (e.renumber f) ∧
      s.Hands (s.step w e) x x' := by
  cases he : e.endsJob with
  | false => exact ⟨x, renumber_step_of_not_endsJob f x s w he, .inl ⟨rfl, s.shared_step w he⟩⟩
  | true =>
    cases e with
    | complete foundAt => exact renumber_complete f s hx foundAt
    | _ => cases he

end Session

end LiveSketch

import LiveSketch.Proofs.Session.Coherence
import LiveSketch.Proofs.Session.Supersession
import Mathlib.Data.List.Infix

/-!
# Closed sessions

Closing a session cancels its newest request, so none is live any more and none will be. What is
still under way comes to its end all the same, unseen: after a session was closed its face stays as
it was, and no request is made (`Opening.final_run`).

A session announces things one after the other and takes none back (`prefix_step`). So what a step
of a closed session announces is no call to the editor (`calls_of_closed`).
-/

namespace LiveSketch

variable {σ ν : Type}

/-! ## Moves of a closed session -/

namespace View

variable {w : Workshop σ ν} {v v' : View σ ν} {m : Option Mark}

theorem not_live_of_closed (hv : v.InOrder) (hclosed : v.closed = true) (k : Nat) : ¬ v.Live k := by
  intro hlive
  have hopen := ((hv.live_iff k).mp hlive).2
  rw [hclosed] at hopen
  cases hopen

/-- Nothing that happens to a closed session can be seen, and no request is made. -/
theorem Move.of_closed (h : Move w v m v') (hv : v.Regular) (hclosed : v.closed = true) :
    v'.toFace = v.toFace ∧ v'.closed = true ∧ v'.requests.length = v.requests.length := by
  have hdead := not_live_of_closed hv.inOrder hclosed
  cases h with
  | submit text hopen =>
    rw [hclosed] at hopen
    cases hopen
  | adopt _ hlive => exact absurd hlive (hdead _)
  | adoptDraw _ hlive => exact absurd hlive (hdead _)
  | redraw _ _ _ hopen =>
    rw [hclosed] at hopen
    cases hopen
  | @display r rest herrands hlive p =>
    have hb := hv.scheduled.drawing r (by rw [herrands]; exact Multiset.mem_cons_self _ _)
    exact absurd (hlive _ hb.request) (hdead _)
  | close => exact ⟨rfl, rfl, Request.length_withdrawn⟩
  | _ => exact ⟨rfl, hclosed, rfl⟩

end View

/-! ## Announcements are never taken back -/

namespace Session

variable (w : Workshop σ ν) (s : Session σ ν)

theorem prefix_announce (n : Notice) : s.transcript <+: (s.announce n).transcript :=
  List.prefix_append _ _

theorem prefix_release : s.transcript <+: s.release.transcript := by
  unfold release
  split <;> exact List.prefix_rfl

theorem prefix_recheck (id : Nat) : s.transcript <+: (s.recheck id).transcript := by
  unfold recheck
  split
  · exact prefix_announce s _
  · exact List.prefix_rfl

theorem prefix_finish (origin : Origin) (outcome : Except Fault Unit) :
    s.transcript <+: (s.finish origin outcome).transcript := by
  cases origin with
  | run request => exact prefix_release { s with running := s.running.filter (· != request) }
  | command id => exact prefix_announce s _

theorem prefix_submit (text : String) : s.transcript <+: (s.submit text).transcript := by
  cases h : s.accepts text with
  | true =>
    rw [submit_of_accepts h]
    exact List.prefix_append _ _
  | false => rw [submit_of_not_accepts h]

theorem prefix_edit (text : String) : s.transcript <+: (s.edit w text).transcript := by
  unfold edit
  split
  · exact List.prefix_rfl
  · dsimp only
    split <;> exact List.prefix_rfl

theorem prefix_advance (span : Int) : s.transcript <+: (s.advance span).transcript := by
  unfold advance
  dsimp only
  split
  · split <;> exact List.prefix_rfl
  · exact List.prefix_rfl

theorem prefix_close : s.transcript <+: s.close.transcript := by
  unfold close
  rw [cancelCurrent_eq]
  exact prefix_release
    { s with closed := true, timer := none, requests := Request.withdrawn s.requests }

theorem prefix_startRender (origin : Origin) (request : Option Nat) (result : Result) :
    s.transcript <+: (s.startRender origin request result).transcript := by
  unfold startRender
  split
  · split
    · exact (prefix_announce s _).trans (prefix_finish _ _ _)
    · exact List.prefix_rfl
  · exact prefix_finish s _ _

theorem prefix_render (origin : Origin) : s.transcript <+: (s.render origin).transcript := by
  unfold render
  split
  · exact prefix_finish s _ _
  · split
    · exact prefix_startRender s _ _ _
    · exact prefix_finish s _ _

theorem prefix_startCommand (id : Nat) (command : Command) :
    s.transcript <+: (s.startCommand id command).transcript := by
  cases command with
  | render => exact prefix_render s _
  | resize width height =>
    show _ <+: (ite _ _ _ : Session σ ν).transcript
    split
    · exact prefix_announce s _
    · exact prefix_render { s with width := width, height := height } _
  | flush => exact prefix_recheck s _

theorem prefix_displayed (r : Rendering) (p : Picture) :
    s.transcript <+: (s.displayed r p).transcript := by
  unfold displayed
  split
  · exact prefix_announce s _
  · exact (prefix_announce { s with diagnostics := r.diagnostics p } _).trans (prefix_announce _ _)

theorem prefix_present (r : Rendering) (outcome : Except Fault Picture) :
    s.transcript <+: (s.present w r outcome).transcript := by
  cases outcome with
  | error fault =>
    rcases present_error w s r fault with ⟨line, h⟩ | ⟨other, h⟩ <;> rw [h]
    · exact (prefix_announce s _).trans (prefix_finish _ _ _)
    · exact prefix_finish s _ _
  | ok p =>
    by_cases hcancelled : r.request.any s.isCancelled = true
    · have hfinish : s.present w r (.ok p) = s.finish r.origin (.ok ()) := if_pos hcancelled
      rw [hfinish]
      exact prefix_finish s _ _
    · have hdisplay : s.present w r (.ok p) =
          (s.displayed r p).finish r.origin _ := if_neg hcancelled
      rw [hdisplay]
      exact (prefix_displayed s r p).trans (prefix_finish _ _ _)

theorem prefix_adopt (k : Nat) (outcome : Except Halt (Compiled σ ν)) :
    s.transcript <+: (s.adopt k outcome).transcript := by
  cases outcome with
  | error halt => exact prefix_finish s _ _
  | ok c =>
    by_cases hlive : s.view.Live k
    · rw [adopt_of_live s c hlive]
      refine List.IsPrefix.trans ?_ (prefix_startRender _ _ _ _)
      unfold adopted
      cases c.artifact <;> exact (List.prefix_append _ _).trans (List.prefix_append _ _)
    · have hfinish : s.adopt k (.ok c) = s.finish (.run k) (.ok ()) :=
        if_pos (not_live_view.mp hlive)
      rw [hfinish]
      exact prefix_finish s _ _

theorem prefix_take (t : Turn σ ν) : s.transcript <+: (s.take w t).transcript := by
  cases t with
  | begin k =>
    show _ <+: (ite _ _ _ : Session σ ν).transcript
    split
    · exact prefix_finish s _ _
    · exact List.prefix_rfl
  | adopt k outcome => exact prefix_adopt s k outcome
  | present r outcome => exact prefix_present w s r outcome
  | wake serial =>
    unfold take
    dsimp only
    split
    · rename_i timer _
      split
      · exact (prefix_submit { s with timer := none } timer.text).trans (prefix_release _)
      · exact List.prefix_rfl
    · exact List.prefix_rfl
  | command id command => exact prefix_startCommand s id command
  | recheck id => exact prefix_recheck s id
  | later next => exact List.prefix_rfl

theorem prefix_complete (foundAt : Option Nat) :
    s.transcript <+: (s.complete w foundAt).transcript := by
  unfold complete
  split
  · exact List.prefix_rfl
  · exact List.prefix_rfl
  · rename_i r width height rest hjobs
    have hdraw : ({ s with jobs := rest }.runDraw w r width height).1.transcript = s.transcript := by
      unfold runDraw
      split
      · split <;> rfl
      · rfl
    show _ <+: ({ s with jobs := rest }.runDraw w r width height).1.transcript
    rw [hdraw]

theorem prefix_step (e : Event) : s.transcript <+: (s.step w e).transcript := by
  cases e with
  | edit text => exact prefix_edit w s text
  | submit text => exact prefix_submit s text
  | pass span => exact prefix_advance s span
  | turn place =>
    show _ <+: (s.turnAt w place).transcript
    unfold turnAt
    split
    · exact prefix_take w { s with ready := s.ready.eraseIdx place } _
    · exact List.prefix_rfl
  | order id command => exact List.prefix_rfl
  | start id command => exact prefix_startCommand s id command
  | complete foundAt => exact prefix_complete w s foundAt
  | equip plan => exact List.prefix_rfl
  | close => exact prefix_close s

variable {w s}

theorem calls_of_face_eq {e : Event} (hface : (s.step w e).face = s.face) :
    ((s.step w e).transcript.drop s.transcript.length).filter Notice.isCall = [] := by
  obtain ⟨more, hmore⟩ := prefix_step w s e
  have hcalls : (s.step w e).transcript.filter Notice.isCall =
      s.transcript.filter Notice.isCall := congrArg Face.calls hface
  rw [← hmore, List.filter_append] at hcalls
  rw [← hmore, List.drop_left]
  exact List.append_right_eq_self.mp hcalls

theorem calls_of_unmarked {e : Event} (hmark : s.mark? e = none) :
    ((s.step w e).transcript.drop s.transcript.length).filter Notice.isCall = [] := by
  have hmove := s.step_move w e
  rw [hmark] at hmove
  exact calls_of_face_eq hmove.face_of_none

theorem calls_of_closed (hs : s.view.Regular) (hclosed : s.closed = true) (e : Event) :
    ((s.step w e).transcript.drop s.transcript.length).filter Notice.isCall = [] :=
  calls_of_face_eq ((s.step_move w e).of_closed hs hclosed).1

end Session

/-! ## Runs that go on after the end -/

/-- After a session was closed its face stays as it was, and no request is made. -/
theorem Opening.final_run (o : Opening) (w : Workshop σ ν) (es es' : List Event) :
    (o.run w (es ++ .close :: es')).face = (o.run w es).face ∧
      (o.run w (es ++ .close :: es')).requests.length = (o.run w es).requests.length := by
  have hrun : o.run w (es ++ .close :: es') = (o.run w es).close.run w es' :=
    Session.run_append w _ es (.close :: es')
  have hclose := (o.run w es).view_close
  have hstart : (o.run w es).close.view.Regular :=
    (o.regular_run w es).move ((o.run w es).close_move w)
  rw [hrun]
  refine (Session.run_invariant (P := fun s => s.view.Regular ∧ s.closed = true ∧
    s.face = (o.run w es).face ∧ s.requests.length = (o.run w es).requests.length)
    ?_ ⟨hstart, congrArg View.closed hclose, congrArg View.toFace hclose, ?_⟩ es').2.2
  · rintro s e ⟨hs, hclosed, hface, hlength⟩
    have hmove := s.step_move w e
    obtain ⟨hface', hclosed', hlength'⟩ := hmove.of_closed hs hclosed
    exact ⟨hs.move hmove, hclosed', hface'.trans hface, hlength'.trans hlength⟩
  · have hrequests : (o.run w es).close.requests = Request.withdrawn (o.run w es).requests :=
      congrArg View.requests hclose
    rw [hrequests, Request.length_withdrawn]

end LiveSketch

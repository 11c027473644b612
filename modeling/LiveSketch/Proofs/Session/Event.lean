import LiveSketch.Session.Run

/-!
# Runs of a session

An event is anything that can happen to a session next: a call from outside, time that goes on, a
turn that the loop takes, a job that the worker ends. `Session.step` is what the session makes of
one event and `Opening.run` what it makes of a sequence of them, so a statement about every run
holds under every interleaving.

1. Turns may be taken in any order; the loop takes the first one (`turn_eq_step`).
2. A job ends at an event of its own, with calls and turns in between as they come, and the compile
   of a cancelled request may find so at any of its checkpoints or at none (`work_eq_run`).
3. Taking turns until none is ready and settling are runs (`drain_eq_run`, `settle_eq_run`).

What a run did so far is kept in its history.
-/

namespace LiveSketch

variable {σ ν : Type}

/-- What can happen to a session next. -/
inductive Event where
  /-- The text is edited. -/
  | edit (text : String)
  /-- A text is submitted. -/
  | submit (text : String)
  /-- Time goes on. -/
  | pass (span : Int)
  /-- The turn at a place of the queue is taken. -/
  | turn (place : Nat)
  /-- A caller lines up a command. -/
  | order (id : Nat) (command : Command)
  /-- A caller starts a command at once. -/
  | start (id : Nat) (command : Command)
  /-- The worker ends its next job. If it compiles a cancelled request it finds so from checkpoint
  `foundAt` on. -/
  | complete (foundAt : Option Nat)
  /-- Surfaces are made in another way from now on. -/
  | equip (plan : SurfacePlan)
  /-- The session is closed. -/
  | close
deriving DecidableEq, Repr

/-! ## Steps -/

/-- The source of a request among those made so far. -/
def Request.sourceIn (requests : List Request) (request : Nat) : Source :=
  (requests[request]?.map Request.source).getD ⟨[]⟩

/-- What the compile of a source comes to when a cancellation is found from checkpoint `cancelAt`
on. -/
def Workshop.compileFrom (w : Workshop σ ν) (source : Source) (cancelAt : Option Nat) :
    Except Halt (Compiled σ ν) :=
  ((compile source (w.programOf source) w.references w.loaded).runFrom cancelAt).1

namespace Session

/-- Takes the turn at a place of the queue. -/
def turnAt (w : Workshop σ ν) (s : Session σ ν) (place : Nat) : Session σ ν :=
  match s.ready[place]? with
  | some t => { s with ready := s.ready.eraseIdx place }.take w t
  | none => s

/-- The worker ends its next job. Only a compile of a cancelled request can find a cancellation. -/
def complete (w : Workshop σ ν) (s : Session σ ν) (foundAt : Option Nat) : Session σ ν :=
  match s.jobs with
  | [] => s
  | .compile request :: rest =>
    let cancelAt := if s.isCancelled request then foundAt else none
    { s with jobs := rest }.lineUpLater
      (.adopt request (w.compileFrom (Request.sourceIn s.requests request) cancelAt))
  | .draw r width height :: rest =>
    let (after, outcome) := { s with jobs := rest }.runDraw w r width height
    after.lineUpLater (.present r outcome)

def step (w : Workshop σ ν) (s : Session σ ν) : Event → Session σ ν
  | .edit text => s.edit w text
  | .submit text => s.submit text
  | .pass span => s.advance span
  | .turn place => s.turnAt w place
  | .order id command => s.lineUp (.command id command)
  | .start id command => s.startCommand id command
  | .complete foundAt => s.complete w foundAt
  | .equip plan => { s with surface := some plan }
  | .close => s.close

/-- What a session makes of a sequence of events. -/
def run (w : Workshop σ ν) (s : Session σ ν) (es : List Event) : Session σ ν := es.foldl (step w) s

theorem run_append (w : Workshop σ ν) (s : Session σ ν) (es es' : List Event) :
    s.run w (es ++ es') = (s.run w es).run w es' := List.foldl_append

theorem run_invariant {w : Workshop σ ν} {P : Session σ ν → Prop}
    (hstep : ∀ s e, P s → P (s.step w e)) {s : Session σ ν} (hs : P s) (es : List Event) :
    P (s.run w es) := by
  induction es generalizing s with
  | nil => exact hs
  | cons e es ih => exact ih (hstep s e hs)

end Session

/-! ## Histories -/

/-- What a step did that later steps depend on: a text was edited, a text was offered for
submission, a result was adopted, a picture was shown. -/
inductive Mark where
  | edited (text : String)
  | offered (text : String)
  | adopted (result : Result)
  | shown (rendering : Rendering) (picture : Picture)

def Mark.adopted? : Mark → Option Result
  | adopted r => some r
  | edited _ | offered _ | shown _ _ => none

namespace Session

/-- What taking a turn does. A result or a picture counts unless its request was cancelled. -/
def turnMark? (s : Session σ ν) : Turn σ ν → Option Mark
  | .adopt request (.ok compiled) =>
    if s.isCancelled request then none
    else some (.adopted ⟨request, compiled.source, compiled.diagnostics⟩)
  | .present r (.ok picture) =>
    if r.request.any s.isCancelled then none else some (.shown r picture)
  | .wake serial => match s.timer with
    | some timer => if timer.serial = serial then some (.offered timer.text) else none
    | none => none
  | _ => none

def mark? (s : Session σ ν) : Event → Option Mark
  | .edit text => some (.edited text)
  | .submit text => some (.offered text)
  | .turn place => s.ready[place]?.bind s.turnMark?
  | _ => none

theorem mark?_turn_of_none {s : Session σ ν} {place : Nat} (h : s.ready[place]? = none) :
    s.mark? (.turn place) = none := by
  show s.ready[place]?.bind _ = _
  rw [h]
  rfl

theorem mark?_turn_of_some {s : Session σ ν} {place : Nat} {t : Turn σ ν}
    (h : s.ready[place]? = some t) : s.mark? (.turn place) = s.turnMark? t := by
  show s.ready[place]?.bind _ = _
  rw [h]
  rfl

/-- What the steps of a run do, in order. -/
def history (w : Workshop σ ν) (s : Session σ ν) : List Event → List Mark
  | [] => []
  | e :: es => (s.mark? e).toList ++ (s.step w e).history w es

theorem history_append (w : Workshop σ ν) (s : Session σ ν) (es es' : List Event) :
    s.history w (es ++ es') = s.history w es ++ (s.run w es).history w es' := by
  induction es generalizing s with
  | nil => rfl
  | cons e es ih =>
    show _ ++ (s.step w e).history w (es ++ es') = _ ++ _ ++ _
    rw [ih, List.append_assoc]
    rfl

end Session

/-! ## Openings -/

/-- How a session is opened. -/
structure Opening where
  surface : Option SurfacePlan
  width : Int
  height : Int
  now : Int
deriving DecidableEq, Repr

namespace Opening

def session (o : Opening) : Session σ ν := .new o.surface o.width o.height o.now

def run (o : Opening) (w : Workshop σ ν) (es : List Event) : Session σ ν := o.session.run w es

/-- What the session did in the course of some events. -/
def history (o : Opening) (w : Workshop σ ν) (es : List Event) : List Mark :=
  (o.session : Session σ ν).history w es

theorem run_snoc (o : Opening) (w : Workshop σ ν) (es : List Event) (e : Event) :
    o.run w (es ++ [e]) = (o.run w es).step w e := Session.run_append w _ es [e]

theorem history_snoc (o : Opening) (w : Workshop σ ν) (es : List Event) (e : Event) :
    o.history w (es ++ [e]) = o.history w es ++ ((o.run w es).mark? e).toList := by
  unfold history
  rw [Session.history_append]
  show _ ++ (_ ++ []) = _
  rw [List.append_nil]
  rfl

/-- What holds of a new session and is kept by each step holds after every run, together with the
history of the run. -/
theorem run_induction (o : Opening) (w : Workshop σ ν) {P : List Mark → Session σ ν → Prop}
    (hnew : P [] o.session)
    (hstep : ∀ ms s e, P ms s → P (ms ++ (s.mark? e).toList) (s.step w e)) (es : List Event) :
    P (o.history w es) (o.run w es) := by
  -- from the end of the run, where the history grows
  rw [← es.reverse_reverse]
  induction es.reverse with
  | nil => exact hnew
  | cons e es ih =>
    rw [List.reverse_cons, run_snoc, history_snoc]
    exact hstep _ _ e ih

end Opening

/-! ## The session's own ways of running -/

/-- The requests with the newest one cancelled. -/
def Request.withdrawn (requests : List Request) : List Request :=
  requests.modify (requests.length - 1) fun r => { r with cancelled := true }

namespace Session

theorem turn_eq_step (w : Workshop σ ν) (s : Session σ ν) : s.turn w = s.step w (.turn 0) := by
  show s.turn w = s.turnAt w 0
  unfold turn turnAt
  cases hready : s.ready with
  | nil => rfl
  | cons t rest => simp

theorem cancelCurrent_eq (s : Session σ ν) :
    s.cancelCurrent = { s with requests := Request.withdrawn s.requests } := by
  unfold cancelCurrent current? Request.withdrawn
  cases hrequests : s.requests with
  | nil =>
    show s = { s with requests := [] }
    rw [← hrequests]
  | cons q rest => rfl

theorem submit_of_accepts {s : Session σ ν} {text : String} (h : s.accepts text = true) :
    s.submit text = { s with
      mode := .working
      requests := Request.withdrawn s.requests ++ [⟨.ofString text, false⟩]
      lastText := some text
      running := s.running ++ [s.requests.length]
      ready := s.ready ++ [.begin s.requests.length]
      transcript := s.transcript ++ [.mode .working] } := by
  have hopen : (s.closed || s.lastText = some text) = false := by
    simpa only [accepts, Bool.not_eq_true'] using h
  unfold submit
  rw [if_neg (by rw [hopen]; exact Bool.false_ne_true), cancelCurrent_eq]
  rfl

theorem submit_of_not_accepts {s : Session σ ν} {text : String} (h : s.accepts text = false) :
    s.submit text = s := by
  have hclosed : (s.closed || s.lastText = some text) = true := by
    simpa only [accepts, Bool.not_eq_false'] using h
  unfold submit
  rw [if_pos hclosed]

theorem submit_jobs (s : Session σ ν) (text : String) : (s.submit text).jobs = s.jobs := by
  cases h : s.accepts text with
  | true => rw [submit_of_accepts h]
  | false => rw [submit_of_not_accepts h]

theorem submit_with_jobs (s : Session σ ν) (text : String) (jobs : List Job) :
    { s with jobs := jobs }.submit text = { s.submit text with jobs := jobs } := by
  cases h : s.accepts text with
  | true => rw [submit_of_accepts h, submit_of_accepts (s := { s with jobs := jobs }) h]
  | false => rw [submit_of_not_accepts h, submit_of_not_accepts (s := { s with jobs := jobs }) h]

/-- A picture that could not be made ends what waited for it, with a note or with a fault. -/
theorem present_error (w : Workshop σ ν) (s : Session σ ν) (r : Rendering) (fault : Fault) :
    (∃ line, s.present w r (.error fault) =
        (s.announce (.failure line)).finish r.origin (.ok ())) ∨
      ∃ other, s.present w r (.error fault) = s.finish r.origin (.error other) := by
  show (∃ line, ite _ _ _ = _) ∨ ∃ other, ite _ _ _ = _
  split
  · cases fault.words with
    | ok words => exact .inl ⟨_, rfl⟩
    | error other => exact .inr ⟨other, rfl⟩
  · exact .inr ⟨fault, rfl⟩

/-- A compile comes to none of its places when its request is cancelled. -/
theorem not_isCancelled_of_reaches {w : Workshop σ ν} {s : Session σ ν} {request : Nat}
    {moment : Moment} (h : s.reaches w (.compile request) moment = true) :
    s.isCancelled request = false := by
  cases moment with
  | parse => simpa [reaches] using h
  | emit =>
    unfold reaches at h
    rw [Bool.and_eq_true] at h
    simpa using h.1
  | draw => cases h

/-- A job during which nothing is submitted is the end of the job. -/
theorem perform_none_eq_step (w : Workshop σ ν) (s : Session σ ν) (job : Job) (rest : List Job)
    (hjobs : s.jobs = job :: rest) :
    { s with jobs := rest }.perform w job none = s.step w (.complete (some 1)) := by
  show _ = s.complete w (some 1)
  unfold complete
  rw [hjobs]
  cases job with
  | compile request =>
    have hcancel : (if s.isCancelled request then some 1 else none) =
        if s.isCancelled request then some 1 else if s.isCancelled request then none else none := by
      split <;> rfl
    show _ = Session.lineUpLater _ (.adopt request (w.compileFrom _ _))
    rw [hcancel]
    rfl
  | draw r width height => rfl

/-- A job at one place of which a text is submitted is that submission and the end of the job. -/
theorem perform_some_eq_run (w : Workshop σ ν) (s : Session σ ν) (job : Job) (rest : List Job)
    (hjobs : s.jobs = job :: rest) (moment : Moment) (text : String)
    (hreach : { s with jobs := rest }.reaches w job moment = true) :
    { s with jobs := rest }.perform w job (some (moment, text)) =
      s.run w [.submit text, .complete (some (checkpointAfter moment))] := by
  have hjobs' : (s.submit text).jobs = job :: rest := (submit_jobs s text).trans hjobs
  show _ = (s.submit text).complete w _
  unfold perform complete
  rw [Option.filter_some, if_pos hreach, hjobs']
  dsimp only
  rw [submit_with_jobs]
  cases job with
  | compile request =>
    have hbefore : s.isCancelled request = false := not_isCancelled_of_reaches hreach
    show Session.lineUpLater _ (.adopt request
      (w.compileFrom _ (if s.isCancelled request then _ else _))) = _
    rw [if_neg (by rw [hbefore]; exact Bool.false_ne_true)]
    rfl
  | draw r width height => rfl

/-- A text is not submitted at a place to which the job does not come. -/
theorem perform_of_not_reaches {w : Workshop σ ν} {s : Session σ ν} {job : Job} {moment : Moment}
    {text : String} (h : ¬ s.reaches w job moment = true) :
    s.perform w job (some (moment, text)) = s.perform w job none := by
  have hfilter : (some (moment, text)).filter (fun a => s.reaches w job a.1) = none := by
    rw [Option.filter_some, if_neg h]
  unfold perform
  rw [hfilter]
  rfl

/-- **Jobs as events.** What the worker does next is a run. -/
theorem work_eq_run (w : Workshop σ ν) (s : Session σ ν) (aside : Option (Moment × String)) :
    ∃ es, s.work w aside = s.run w es := by
  unfold work
  cases hjobs : s.jobs with
  | nil => exact ⟨[], rfl⟩
  | cons job rest =>
    have hnone : { s with jobs := rest }.perform w job none = s.run w [.complete (some 1)] :=
      perform_none_eq_step w s job rest hjobs
    cases aside with
    | none => exact ⟨_, hnone⟩
    | some a =>
      obtain ⟨moment, text⟩ := a
      by_cases hreach : { s with jobs := rest }.reaches w job moment = true
      · exact ⟨_, perform_some_eq_run w s job rest hjobs moment text hreach⟩
      · exact ⟨_, (perform_of_not_reaches hreach).trans hnone⟩

theorem repeat_eq_run {w : Workshop σ ν} {f : Session σ ν → Session σ ν}
    (hf : ∀ s, ∃ es, f s = s.run w es) (n : Nat) (s : Session σ ν) :
    ∃ es, Nat.repeat f n s = s.run w es := by
  induction n with
  | zero => exact ⟨[], rfl⟩
  | succ n ih =>
    obtain ⟨es, hes⟩ := ih
    obtain ⟨es', hes'⟩ := hf (s.run w es)
    refine ⟨es ++ es', ?_⟩
    show f (Nat.repeat f n s) = _
    rw [hes, hes', run_append]

theorem drain_eq_run (w : Workshop σ ν) (s : Session σ ν) : ∃ es, s.drain w = s.run w es :=
  repeat_eq_run (fun s => ⟨[.turn 0], turn_eq_step w s⟩) s.effort s

theorem round_eq_run (w : Workshop σ ν) (s : Session σ ν) : ∃ es, s.round w = s.run w es := by
  obtain ⟨es, hes⟩ := drain_eq_run w s
  unfold round
  rw [hes]
  dsimp only
  split
  · split
    · refine ⟨es ++ [.pass w.delay], ?_⟩
      rw [run_append]
      rfl
    · exact ⟨es, rfl⟩
  · obtain ⟨es', hes'⟩ := work_eq_run w (s.run w es) none
    refine ⟨es ++ es', ?_⟩
    rw [hes', run_append]

/-- **Settling as events.** A session that goes on until nothing is left to do makes a run. -/
theorem settle_eq_run (w : Workshop σ ν) (s : Session σ ν) : ∃ es, s.settle w = s.run w es := by
  obtain ⟨es, hes⟩ := repeat_eq_run (round_eq_run w) s.rounds s
  obtain ⟨es', hes'⟩ := drain_eq_run w (s.run w es)
  refine ⟨es ++ es', ?_⟩
  unfold settle
  rw [hes, hes', run_append]

end Session

/-! ## A small workshop -/

/-- A script that does nothing. -/
def Engine.idle : Engine Unit Unit where
  runBody := pure ()
  global? _ := pure none
  member? _ _ := pure none
  construct _ := pure ()
  isCallable _ := pure false
  call _ _ _ _ := pure ([], .ok ())
  inquire _ _ := throw (.plain "LookupError" "nothing was raised")

/-- A workshop in which every text is the same program. -/
def Workshop.ofProgram (program : Program Unit) : Workshop Unit Unit where
  programOf _ := program
  engine := .idle
  references := ⟨[]⟩
  loaded := ⟨[], []⟩
  enter _ s := s
  delay := 0
  presenting _ := none

/-- A session that makes no pictures. -/
def Opening.bare : Opening := ⟨none, 4, 4, 0⟩

/-- A session that draws on sheets. -/
def Opening.sheets : Opening := ⟨some (.sheets none), 4, 4, 0⟩

end LiveSketch

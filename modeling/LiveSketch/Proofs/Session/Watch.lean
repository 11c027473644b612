import LiveSketch.Proofs.Session.View

/-!
# What matters for when compiles begin

An edit waits for the text to rest. When its wait is over the text is offered, which makes a request
unless the text is the last one submitted, and a turn later the worker is given the compile of the
request. All that this depends on is on the watch of a session:

1. the edit that waits, the time, and what was asked so far;
2. the cues, which are the ends of waits and the beginnings of compiles that stand in the queue;
3. the compiles among the jobs that the worker has still to take up.

`Tick` lists what a step can do to it, with the beat that this makes, and `step_tick` says that there
is no more to it as long as a session is neither closed nor given a text at once.
-/

namespace LiveSketch

variable {σ ν : Type}

/-! ## Watches -/

/-- The end of a wait, or the beginning of a compile. -/
inductive Cue where
  | wait (serial : Nat)
  | start (request : Nat)
deriving DecidableEq

/-- The request whose compile is about to begin. -/
def Cue.start? : Cue → Option Nat
  | wait _ => none
  | start request => some request

/-- The wait that is over. -/
def Cue.wait? : Cue → Option Nat
  | wait serial => some serial
  | start _ => none

/-- The cue that a turn gives. -/
def Turn.cue? : Turn σ ν → Option Cue
  | wake serial => some (.wait serial)
  | begin request => some (.start request)
  | later next => next.cue?
  | adopt _ _ | present _ _ | command _ _ | recheck _ => none

/-- The request whose compile the turn begins, at once or later. -/
def Turn.start? (t : Turn σ ν) : Option Nat := t.cue?.bind Cue.start?

/-- The wait whose end the turn acts on, at once or later. -/
def Turn.wait? (t : Turn σ ν) : Option Nat := t.cue?.bind Cue.wait?

/-- The request that the job compiles. -/
def Job.compile? : Job → Option Nat
  | compile request => some request
  | draw _ _ _ => none

/-- What matters of a session for when compiles begin. -/
structure Watch where
  timer : Option Timer
  timerCount : Nat
  now : Int
  closed : Bool
  requests : List Request
  lastText : Option String
  cues : Multiset Cue
  compiles : List Nat

namespace Watch

/-- The requests whose compiles are about to begin. -/
def starts (v : Watch) : Multiset Nat := v.cues.filterMap Cue.start?

variable {v : Watch} {rest : Multiset Cue}

theorem starts_of_wait {serial : Nat} (h : v.cues = .wait serial ::ₘ rest) :
    v.starts = rest.filterMap Cue.start? := by
  unfold starts
  rw [h]
  exact Multiset.filterMap_cons_none _ _ rfl

theorem starts_of_start {request : Nat} (h : v.cues = .start request ::ₘ rest) :
    v.starts = request ::ₘ rest.filterMap Cue.start? := by
  unfold starts
  rw [h]
  exact Multiset.filterMap_cons_some Cue.start? _ _ rfl

def beside (v : Watch) (cue : Cue) : Watch := { v with cues := cue ::ₘ v.cues }

end Watch

namespace Session

/-- The cues that the turns in the queue give. -/
def cues (s : Session σ ν) : Multiset Cue := (s.ready : Multiset (Turn σ ν)).filterMap Turn.cue?

/-- The requests whose compiles the worker has still to take up. -/
def compiles (s : Session σ ν) : List Nat := s.jobs.filterMap Job.compile?

/-- What matters of the session for when compiles begin. -/
def watch (s : Session σ ν) : Watch :=
  ⟨s.timer, s.timerCount, s.now, s.closed, s.requests, s.lastText, s.cues, s.compiles⟩

/-- The requests whose compiles are about to begin. -/
def starts (s : Session σ ν) : List Nat := s.ready.filterMap Turn.start?

theorem watch_starts (s : Session σ ν) : s.watch.starts = ↑s.starts := by
  show s.cues.filterMap Cue.start? = _
  unfold cues
  rw [Multiset.filterMap_filterMap, Multiset.filterMap_coe]
  rfl

/-! ## Changes of the queue -/

section Cues

variable {s : Session σ ν} {t : Turn σ ν} {cue : Cue}

theorem watch_lineUp_of_some (h : t.cue? = some cue) : (s.lineUp t).watch = s.watch.beside cue := by
  have hcues : (s.lineUp t).cues = cue ::ₘ s.cues := by
    unfold cues lineUp
    dsimp only
    rw [← Multiset.coe_add, Multiset.coe_singleton, Multiset.add_comm _ {t},
      Multiset.singleton_add, Multiset.filterMap_cons_some _ _ _ h]
  unfold watch
  rw [hcues]
  rfl

theorem watch_of_ready_append {s' : Session σ ν} {more : List (Turn σ ν)}
    (hready : s'.ready = s.ready ++ more) (hmore : ∀ t ∈ more, t.cue? = none)
    (hrest : { s'.watch with cues := s.cues } = s.watch) : s'.watch = s.watch := by
  have hnone : Multiset.filterMap Turn.cue? (more : Multiset (Turn σ ν)) = 0 := by
    rw [Multiset.filterMap_coe, List.filterMap_eq_nil_iff.mpr hmore]
    rfl
  have hcues : s'.cues = s.cues := by
    unfold cues
    rw [hready, ← Multiset.coe_add, Multiset.filterMap_add, hnone, Multiset.add_zero]
  rw [← hrest, ← hcues]
  rfl

theorem watch_lineUp_of_none (h : t.cue? = none) : (s.lineUp t).watch = s.watch :=
  watch_of_ready_append rfl (by simpa using h) rfl

/-- A turn that is taken leaves the queue with its cue. -/
theorem watch_of_ready_some {place : Nat} (h : s.ready[place]? = some t) (ht : t.cue? = some cue) :
    s.watch = { s with ready := s.ready.eraseIdx place }.watch.beside cue := by
  have hcues : s.cues = cue ::ₘ { s with ready := s.ready.eraseIdx place }.cues := by
    unfold cues
    rw [ready_eq_cons h, Multiset.filterMap_cons_some _ _ _ ht]
  unfold watch
  rw [hcues]
  rfl

theorem watch_of_ready_none {place : Nat} (h : s.ready[place]? = some t) (ht : t.cue? = none) :
    s.watch = { s with ready := s.ready.eraseIdx place }.watch := by
  have hcues : s.cues = { s with ready := s.ready.eraseIdx place }.cues := by
    unfold cues
    rw [ready_eq_cons h, Multiset.filterMap_cons_none _ _ ht]
  unfold watch
  rw [hcues]
  rfl

end Cues

/-! ## Changes that the watch does not show -/

variable (w : Workshop σ ν) (s : Session σ ν)

@[simp]
theorem watch_release : s.release.watch = s.watch := by
  unfold release
  split
  · refine watch_of_ready_append rfl (fun t ht => ?_) rfl
    obtain ⟨id, -, rfl⟩ := List.mem_map.mp ht
    rfl
  · rfl

@[simp]
theorem watch_recheck (id : Nat) : (s.recheck id).watch = s.watch := by
  unfold recheck
  split <;> rfl

@[simp]
theorem watch_finish (origin : Origin) (outcome : Except Fault Unit) :
    (s.finish origin outcome).watch = s.watch := by
  cases origin with
  | run request => exact watch_release _
  | command id => rfl

theorem compiles_hire (j : Job) : (s.hire j).compiles = s.compiles ++ j.compile?.toList := by
  show (s.jobs ++ [j]).filterMap _ = _
  rw [List.filterMap_append]
  cases h : j.compile? <;> simp [compiles, h]

@[simp]
theorem watch_hire_draw (r : Rendering) (width height : Int) :
    (s.hire (.draw r width height)).watch = s.watch := by
  unfold watch
  rw [compiles_hire]
  exact congrArg (Watch.mk s.timer s.timerCount s.now s.closed s.requests s.lastText s.cues)
    (List.append_nil _)

@[simp]
theorem watch_startRender (origin : Origin) (request : Option Nat) (result : Result) :
    (s.startRender origin request result).watch = s.watch := by
  unfold startRender
  split
  · split
    · exact watch_finish _ _ _
    · exact watch_hire_draw _ _ _ _
  · exact watch_finish _ _ _

@[simp]
theorem watch_render (origin : Origin) : (s.render origin).watch = s.watch := by
  unfold render
  split
  · exact watch_finish _ _ _
  · split
    · exact watch_startRender _ _ _ _
    · exact watch_finish _ _ _

@[simp]
theorem watch_startCommand (id : Nat) (command : Command) :
    (s.startCommand id command).watch = s.watch := by
  cases command with
  | render => exact watch_render s _
  | resize width height =>
    show (ite _ _ _ : Session σ ν).watch = _
    split
    · rfl
    · exact watch_render { s with width := width, height := height } _
  | flush => exact watch_recheck s id

@[simp]
theorem watch_adopt (request : Nat) (outcome : Except Halt (Compiled σ ν)) :
    (s.adopt request outcome).watch = s.watch := by
  cases outcome with
  | error halt => exact watch_finish _ _ _
  | ok compiled =>
    unfold adopt
    dsimp only
    split
    · exact watch_finish _ _ _
    · rw [watch_startRender]
      cases compiled.artifact <;> rfl

@[simp]
theorem watch_present (r : Rendering) (outcome : Except Fault Picture) :
    (s.present w r outcome).watch = s.watch := by
  cases outcome with
  | error fault =>
    rcases present_error w s r fault with ⟨line, h⟩ | ⟨other, h⟩ <;> rw [h]
    · exact watch_finish _ _ _
    · exact watch_finish _ _ _
  | ok picture =>
    show (ite _ _ _ : Session σ ν).watch = _
    split
    · exact watch_finish _ _ _
    · have hpublish : ∀ ds : List Diagnostic,
          (if ds = s.diagnostics then s else s.publish ds r.result.source).watch = s.watch := by
        intro ds
        split <;> rfl
      rw [watch_finish]
      exact hpublish _

theorem watch_runDraw (r : Rendering) (width height : Int) :
    (s.runDraw w r width height).1.watch = s.watch := by
  unfold runDraw
  split
  · split <;> rfl
  · rfl

end Session

/-! ## Beats -/

/-- What a step did that compiles depend on: a text was edited, a text was offered for submission,
the worker took up the compile of a request. -/
inductive Beat where
  | edited (text : String)
  | offered (text : String)
  | taken (request : Nat)

/-- The beat that a mark of the history stands for. -/
def Mark.beat? : Mark → Option Beat
  | edited text => some (.edited text)
  | offered text => some (.offered text)
  | adopted _ | shown _ _ => none

namespace Session

/-- The beat that taking a turn makes. -/
def turnBeat? (s : Session σ ν) (t : Turn σ ν) : Option Beat := (s.turnMark? t).bind Mark.beat?

/-- The beat that the step of an event makes. -/
def beat? (s : Session σ ν) : Event → Option Beat
  | .turn place => s.ready[place]?.bind s.turnBeat?
  | .complete _ => (s.jobs.head?.bind Job.compile?).map .taken
  | e => (s.mark? e).bind Mark.beat?

/-- The session goes by the clock, is not closed, and is given no text at once: time does not pass
the end of a wait, nor a compile that is about to begin. -/
def attends (s : Session σ ν) : Event → Bool
  | .submit _ | .close => false
  | .pass span => decide (0 ≤ span) && s.timer.all (fun timer => s.now + span ≤ timer.deadline) &&
      s.starts.isEmpty
  | _ => true

end Session

/-! ## Ticks -/

namespace Watch

/-- What a step can do to a watch, with the beat that it makes. -/
inductive Tick (w : Workshop σ ν) (v : Watch) : Option Beat → Watch → Prop where
  /-- Nothing that matters. -/
  | stay : Tick w v none v
  /-- An edit begins to wait in place of the one before. -/
  | edit (text : String) : Tick w v (some (.edited text))
      { v with timer := some ⟨v.timerCount, v.now + w.delay, text⟩, timerCount := v.timerCount + 1 }
  /-- Time passes, and nobody who is asleep is woken. -/
  | pass (span : Int) (hspan : 0 ≤ span)
    (htimer : ∀ timer, v.timer = some timer → v.now + span ≤ timer.deadline)
    (hstarts : v.starts = 0)
    (hasleep : ∀ timer, v.timer = some timer → v.now < timer.deadline →
      v.now + span < timer.deadline) :
    Tick w v none { v with now := v.now + span }
  /-- Time passes until the end of a wait, for which there is a cue. -/
  | rouse (span : Int) (hspan : 0 ≤ span) {timer : Timer} (htimer : v.timer = some timer)
    (hstarts : v.starts = 0) (hasleep : v.now < timer.deadline)
    (hdue : v.now + span = timer.deadline) :
    Tick w v none { v with now := v.now + span, cues := .wait timer.serial ::ₘ v.cues }
  /-- A wait ends that another edit came in place of. -/
  | lapse {serial : Nat} {rest : Multiset Cue} (hcues : v.cues = .wait serial ::ₘ rest)
    (htimer : ∀ timer, v.timer = some timer → timer.serial ≠ serial) :
    Tick w v none { v with cues := rest }
  /-- A text that has rested is turned down: it is the last one submitted. -/
  | refuse {timer : Timer} {rest : Multiset Cue} (htimer : v.timer = some timer)
    (hcues : v.cues = .wait timer.serial ::ₘ rest) (hlast : v.lastText = some timer.text) :
    Tick w v (some (.offered timer.text)) { v with timer := none, cues := rest }
  /-- A text that has rested is submitted. -/
  | submit {timer : Timer} {rest : Multiset Cue} (htimer : v.timer = some timer)
    (hcues : v.cues = .wait timer.serial ::ₘ rest) (hlast : v.lastText ≠ some timer.text) :
    Tick w v (some (.offered timer.text)) { v with
      timer := none
      requests := Request.withdrawn v.requests ++ [⟨.ofString timer.text, false⟩]
      lastText := some timer.text
      cues := .start v.requests.length ::ₘ rest }
  /-- The compile of a request begins: the worker is given it. -/
  | begin {request : Nat} {rest : Multiset Cue} (hcues : v.cues = .start request ::ₘ rest)
    (hlive : Request.Live v.requests request) :
    Tick w v none { v with cues := rest, compiles := v.compiles ++ [request] }
  /-- The compile of a cancelled request does not begin. -/
  | skip {request : Nat} {rest : Multiset Cue} (hcues : v.cues = .start request ::ₘ rest)
    (hlive : ¬ Request.Live v.requests request) :
    Tick w v none { v with cues := rest }
  /-- The worker takes up the compile of a request. -/
  | take {request : Nat} {rest : List Nat} (hcompiles : v.compiles = request :: rest) :
    Tick w v (some (.taken request)) { v with compiles := rest }

end Watch

/-! ## Every step is a tick -/

namespace Session

open Watch (Tick)

variable (w : Workshop σ ν) (s : Session σ ν)

theorem watch_submit_of_accepts {text : String} (h : s.accepts text = true) :
    (s.submit text).watch = { s.watch with
      requests := Request.withdrawn s.requests ++ [⟨.ofString text, false⟩]
      lastText := some text
      cues := .start s.requests.length ::ₘ s.cues } := by
  rw [submit_of_accepts h]
  exact watch_lineUp_of_some (t := .begin s.requests.length) (s := { s with
    requests := Request.withdrawn s.requests ++ [⟨.ofString text, false⟩]
    lastText := some text }) rfl

theorem edit_tick (hdelay : 0 < w.delay) (hopen : s.closed = false) (text : String) :
    Tick w s.watch (some (.edited text)) (s.edit w text).watch := by
  have hedit : s.edit w text = { s with
      timer := some ⟨s.timerCount, s.now + w.delay, text⟩, timerCount := s.timerCount + 1 } := by
    unfold edit
    rw [if_neg (by rw [hopen]; exact Bool.false_ne_true)]
    dsimp only
    rw [if_neg (Int.not_le.mpr hdelay), Int.max_eq_left (Int.le_of_lt hdelay)]
  rw [hedit]
  exact .edit text

theorem advance_tick {span : Int} (h : s.attends (.pass span) = true) :
    Tick w s.watch none (s.advance span).watch := by
  obtain ⟨⟨hspan, hall⟩, hstarts⟩ :
      (0 ≤ span ∧ s.timer.all (fun timer => s.now + span ≤ timer.deadline) = true) ∧
        s.watch.starts = 0 := by simpa [attends, watch_starts] using h
  have htimer : ∀ timer, s.timer = some timer → s.now + span ≤ timer.deadline := by
    intro timer heq
    rw [heq] at hall
    simpa using hall
  unfold advance
  dsimp only
  split
  · rename_i timer heq
    split
    · rename_i hdue
      unfold lineUpLater
      rw [watch_lineUp_of_some (t := .later (.wake timer.serial)) rfl]
      exact .rouse span hspan heq hstarts hdue.1 (Int.le_antisymm (htimer timer heq) hdue.2)
    · rename_i hdue
      refine .pass (v := s.watch) span hspan htimer hstarts fun timer' heq' hasleep => ?_
      obtain rfl := Option.some.inj (heq.symm.trans heq')
      exact Int.not_le.mp fun hle => hdue ⟨hasleep, hle⟩
  · rename_i hnone
    exact .pass (v := s.watch) span hspan htimer hstarts fun _ heq =>
      absurd heq (by simp [watch, hnone])

/-! ### Turns

The session is the one that a turn is taken from: the cue of the turn stands beside its own. -/

theorem wake_tick (hopen : s.closed = false) (serial : Nat) :
    Tick w (s.watch.beside (.wait serial)) (s.turnBeat? (.wake serial))
      (s.take w (.wake serial)).watch := by
  by_cases hlive : ∃ timer, s.timer = some timer ∧ timer.serial = serial
  · obtain ⟨timer, htimer, rfl⟩ := hlive
    have hbeat : s.turnBeat? (.wake timer.serial) = some (.offered timer.text) := by
      simp [turnBeat?, turnMark?, htimer, Mark.beat?]
    have htake : s.take w (.wake timer.serial) =
        ({ s with timer := none }.submit timer.text).release := by
      simp [take, htimer]
    rw [hbeat, htake, watch_release]
    by_cases hlast : s.lastText = some timer.text
    · rw [submit_of_not_accepts (by simp [accepts, hlast])]
      exact .refuse htimer rfl hlast
    · rw [watch_submit_of_accepts _ (by simp [accepts, hlast, hopen])]
      exact .submit htimer rfl hlast
  · have hother : ∀ timer, s.timer = some timer → timer.serial ≠ serial :=
      fun timer htimer hserial => hlive ⟨timer, htimer, hserial⟩
    have hstay : s.turnBeat? (.wake serial) = none ∧ s.take w (.wake serial) = s := by
      cases htimer : s.timer with
      | none => simp [turnBeat?, turnMark?, take, htimer]
      | some timer => simp [turnBeat?, turnMark?, take, htimer, hother timer htimer]
    rw [hstay.1, hstay.2]
    exact .lapse (v := s.watch.beside (.wait serial)) rfl hother

/-- The worker is given the compile of a request that is still live. -/
theorem begin_tick (hopen : s.closed = false) (request : Nat) :
    Tick w (s.watch.beside (.start request)) (s.turnBeat? (.begin request))
      (s.begin request).watch := by
  show Tick w _ none _
  unfold begin
  rw [hopen, Bool.or_false]
  split
  · rename_i hcancelled
    rw [watch_finish]
    exact .skip (v := s.watch.beside (.start request)) rfl (not_live_view.mpr hcancelled)
  · rename_i hcancelled
    have hwatch : (s.hire (.compile request)).watch =
        { s.watch with compiles := s.watch.compiles ++ [request] } :=
      congrArg (Watch.mk s.timer s.timerCount s.now s.closed s.requests s.lastText s.cues)
        (compiles_hire s (.compile request))
    rw [hwatch]
    exact .begin (v := s.watch.beside (.start request)) rfl
      (live_view.mpr (Bool.eq_false_iff.mpr hcancelled))

theorem take_tick_of_none {t : Turn σ ν} (ht : t.cue? = none) :
    Tick w s.watch (s.turnBeat? t) (s.take w t).watch := by
  have hstay : s.turnBeat? t = none ∧ (s.take w t).watch = s.watch := by
    cases t with
    | adopt request outcome =>
      refine ⟨?_, watch_adopt s request outcome⟩
      cases outcome with
      | error halt => rfl
      | ok compiled =>
        simp only [turnBeat?, turnMark?]
        split <;> rfl
    | present r outcome =>
      refine ⟨?_, watch_present w s r outcome⟩
      cases outcome with
      | error fault => rfl
      | ok picture =>
        simp only [turnBeat?, turnMark?]
        split <;> rfl
    | command id command => exact ⟨rfl, watch_startCommand s id command⟩
    | recheck id => exact ⟨rfl, watch_recheck s id⟩
    | later next => exact ⟨rfl, watch_lineUp_of_none (t := next) ht⟩
    | wake serial => cases ht
    | begin request => cases ht
  rw [hstay.1, hstay.2]
  exact .stay

theorem take_tick_of_some (hopen : s.closed = false) {t : Turn σ ν} {cue : Cue}
    (ht : t.cue? = some cue) :
    Tick w (s.watch.beside cue) (s.turnBeat? t) (s.take w t).watch := by
  cases t with
  | wake serial =>
    obtain rfl := Option.some.inj ht
    exact wake_tick w s hopen serial
  | begin request =>
    obtain rfl := Option.some.inj ht
    exact begin_tick w s hopen request
  | later next =>
    show Tick w _ none (s.lineUp next).watch
    rw [watch_lineUp_of_some (t := next) ht]
    exact .stay
  | adopt request outcome => cases ht
  | present r outcome => cases ht
  | command id command => cases ht
  | recheck id => cases ht

theorem turnAt_tick (hopen : s.closed = false) (place : Nat) :
    Tick w s.watch (s.beat? (.turn place)) (s.turnAt w place).watch := by
  show Tick w _ (s.ready[place]?.bind s.turnBeat?) _
  unfold turnAt
  cases hready : s.ready[place]? with
  | none => exact .stay
  | some t =>
    let rest : Session σ ν := { s with ready := s.ready.eraseIdx place }
    show Tick w s.watch (rest.turnBeat? t) (rest.take w t).watch
    cases ht : t.cue? with
    | some cue =>
      rw [watch_of_ready_some hready ht]
      exact take_tick_of_some w rest hopen ht
    | none =>
      rw [watch_of_ready_none hready ht]
      exact take_tick_of_none w rest ht

/-- The worker takes up its jobs in the order in which it was given them. -/
theorem complete_tick (foundAt : Option Nat) :
    Tick w s.watch (s.beat? (.complete foundAt)) (s.complete w foundAt).watch := by
  show Tick w _ ((s.jobs.head?.bind Job.compile?).map .taken) _
  unfold complete
  cases hjobs : s.jobs with
  | nil => exact .stay
  | cons job rest =>
    have hcompiles : s.compiles = job.compile?.toList ++ { s with jobs := rest }.compiles := by
      unfold compiles
      rw [hjobs, List.filterMap_cons]
      cases job.compile? <;> rfl
    cases job with
    | compile request =>
      show Tick w _ (some (.taken request)) (lineUp _ (.later (.adopt _ _))).watch
      rw [watch_lineUp_of_none rfl]
      exact .take hcompiles
    | draw r width height =>
      have hrest : { s with jobs := rest }.watch = s.watch :=
        congrArg (Watch.mk s.timer s.timerCount s.now s.closed s.requests s.lastText s.cues)
          hcompiles.symm
      show Tick w _ none (lineUp (runDraw w { s with jobs := rest } r width height).1 _).watch
      rw [watch_lineUp_of_none rfl, watch_runDraw, hrest]
      exact .stay

/-- **Steps as ticks.** Every step of an open session that goes by the clock does one of the ticks
to the watch, with its beat. -/
theorem step_tick (hdelay : 0 < w.delay) (hopen : s.closed = false) {e : Event}
    (he : s.attends e = true) : Tick w s.watch (s.beat? e) (s.step w e).watch := by
  cases e with
  | edit text => exact edit_tick w s hdelay hopen text
  | submit text => cases he
  | pass span => exact advance_tick w s he
  | turn place => exact turnAt_tick w s hopen place
  | order id command =>
    show Tick w _ none (s.lineUp _).watch
    rw [watch_lineUp_of_none rfl]
    exact .stay
  | start id command =>
    show Tick w _ none (s.startCommand id command).watch
    rw [watch_startCommand]
    exact .stay
  | complete foundAt => exact complete_tick w s foundAt
  | equip plan => exact .stay
  | close => cases he

end Session

end LiveSketch

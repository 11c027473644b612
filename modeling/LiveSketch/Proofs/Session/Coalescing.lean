import LiveSketch.Proofs.Session.Rest

/-!
# Edits that coalesce

A session that goes by the clock offers an edit when its text has rested, if no other edit comes
before, and begins a compile if that text is not the last one submitted. So all that it submits and
compiles can be read off the edits and their times (`Opening.edits_coalesce`).

1. `Coalesces` says what runs do: it holds of every run, whatever else happens in it.
2. There are such runs for all edits that come one after the other
   (`Session.Calm.exists_schedule`). They are made from calm states, in which nothing but an edit
   waits: until the next edit, or until the text has rested and its compile has begun.
-/

namespace LiveSketch

variable {σ ν : Type}

/-! ## Waits -/

namespace Session

/-- The waits that can still offer their text: the one that is asleep, and those that are over and
whose end stands in the queue. -/
def waits (s : Session σ ν) : List Nat :=
  (s.timer.filter fun timer => s.now < timer.deadline).toList.map Timer.serial ++
    (s.ready.filterMap Turn.wait?).filter fun serial => (s.turnMark? (.wake serial)).isSome

theorem count_wait?_ready (s : Session σ ν) (serial : Nat) :
    (s.ready.filterMap Turn.wait?).count serial = s.cues.count (.wait serial) := by
  have hready : (s.ready.filterMap Turn.wait? : Multiset Nat) = s.cues.filterMap Cue.wait? := by
    unfold cues
    rw [Multiset.filterMap_filterMap, Multiset.filterMap_coe]
    rfl
  rw [← Multiset.coe_count, hready]
  induction s.cues using Multiset.induction with
  | empty => rfl
  | cons cue cues ih =>
    cases cue with
    | start request =>
      have hne : Cue.wait serial ≠ .start request := nofun
      rw [Multiset.filterMap_cons_none _ _ rfl, Multiset.count_cons_of_ne hne, ih]
    | wait other =>
      rw [Multiset.filterMap_cons_some Cue.wait? _ _ rfl, Multiset.count_cons, Multiset.count_cons, ih]
      simp only [Cue.wait.injEq]

/-- Only the newest edit waits, asleep or with its end in the queue, which stands there once. -/
theorem waits_of_keeps {s : Session σ ν} {d : Int} {edits offers : List TimedText}
    {taken : List Nat} (h : s.watch.Keeps d edits offers taken) :
    s.waits = (s.timer.map Timer.serial).toList := by
  unfold waits
  cases htimer : s.timer with
  | none => simp [turnMark?, htimer]
  | some timer =>
    have hlive : (fun serial => (s.turnMark? (.wake serial)).isSome) = (· == timer.serial) := by
      funext serial
      by_cases hserial : timer.serial = serial
      · simp [turnMark?, htimer, hserial]
      · simp [turnMark?, htimer, hserial, Ne.symm hserial]
    have honce : s.cues.count (.wait timer.serial) = if s.now < timer.deadline then 0 else 1 :=
      h.once timer htimer
    rw [hlive, List.filter_beq, count_wait?_ready, honce]
    rcases Int.lt_or_le s.now timer.deadline with hasleep | hover
    · simp [hasleep]
    · simp [hover, Int.not_lt.mpr hover]

end Session

/-! ## Every run -/

/-- What a run submits and compiles, from its edits. -/
structure Opening.Coalesces (o : Opening) (w : Workshop σ ν) (es : List Event) : Prop where
  /-- At most one wait can still offer its text, and that is the wait of the newest edit. -/
  oneWait : (o.run w es).waits.length ≤ 1 ∧
    ∀ serial ∈ (o.run w es).waits, serial + 1 = (o.edits w es).length
  /-- Exactly those edits are offered after which the text rests, at the time when it has; the last
  of them may still wait. -/
  offers : o.offers w es ++ (o.run w es).watch.pending?.toList =
    TimedText.rested w.delay none (o.edits w es)
  inTime : ∀ x, (o.run w es).watch.pending? = some x → (o.run w es).now ≤ x.time
  /-- Of edits that follow each other early at most the last one is offered. -/
  burst : ∀ before burst after, o.edits w es = before ++ burst ++ after →
    (burst.IsChain fun a b => b.time < a.time + w.delay) →
    ∃ last, (last = [] ∨ ∃ x, burst.getLast? = some x ∧ last = [x.after w.delay]) ∧
      o.offers w es ++ (o.run w es).watch.pending?.toList =
        TimedText.rested w.delay (TimedText.follower (burst ++ after) none) before ++ last ++
          TimedText.rested w.delay none after
  /-- The requests are the texts that were offered, but for those that the one before was like. -/
  requests : (o.run w es).requests.map Request.text =
    ((o.offers w es).map TimedText.text).destutter (· ≠ ·)
  changes : ((o.run w es).requests.map Request.text).IsChain (· ≠ ·)
  /-- If all edits follow each other early there is at most one request, of the last text. -/
  oneBurst : ((o.edits w es).IsChain fun a b => b.time < a.time + w.delay) →
    (o.run w es).requests.map Request.text <+: ((o.edits w es).getLast?.map TimedText.text).toList
  /-- The worker is given the compile of each request, in order: it has taken it up, has it before
  it, or the compile begins with a turn that stands in the queue. -/
  compiles : o.taken w es ++ (o.run w es).compiles ++ (o.run w es).starts =
    List.range (o.run w es).requests.length

namespace Opening

variable {o : Opening} {w : Workshop σ ν} {es : List Event}

/-- What the watch keeps is kept by every run that goes by the clock. -/
theorem keeps (hdelay : 0 < w.delay) (hes : o.always w Session.attends es = true)
    (hgap : TimedText.Apart w.delay (o.edits w es)) :
    (o.run w es).watch.Keeps w.delay (o.edits w es) (o.offers w es) (o.taken w es) := by
  -- from the end of the run, where the rows grow
  induction es using List.reverseRecOn with
  | nil =>
    refine ⟨rfl, rfl, nofun, fun _ earlier x hx => ?_, fun serial hserial => ?_, nofun, rfl, rfl,
      rfl, .all rfl rfl⟩
    · exact absurd hx (by simp [edits, beats, Session.beats, Beat.edits])
    · exact absurd hserial (Multiset.notMem_zero _)
  | append_singleton es e ih =>
    unfold always at hes ih
    rw [Session.always_append, Bool.and_eq_true] at hes
    have he : (o.run w es).attends e = true := (Bool.and_eq_true _ _ ▸ hes.2).1
    rw [edits_snoc] at hgap
    have hkeeps := ih hes.1 (List.IsChain.left_of_append hgap)
    rw [o.run_snoc, o.edits_snoc, o.offers_snoc, o.taken_snoc]
    exact hkeeps.tick hdelay (Session.step_tick w _ hdelay hkeeps.opened he) hgap

theorem coalesces (hdelay : 0 < w.delay) (hes : o.always w Session.attends es = true)
    (hgap : TimedText.Apart w.delay (o.edits w es)) : o.Coalesces w es := by
  have h := keeps hdelay hes hgap
  refine ⟨?_, h.offered, ?_, ?_, h.requests, ?_, ?_, ?_⟩
  · rw [Session.waits_of_keeps h]
    cases htimer : (o.run w es).timer with
    | none => exact ⟨Nat.zero_le _, nofun⟩
    | some timer =>
      refine ⟨Nat.le_refl _, fun serial hserial => ?_⟩
      obtain rfl := List.mem_singleton.mp hserial
      exact (h.waiting timer htimer).1.trans h.count
  · intro x hx
    obtain ⟨timer, htimer, rfl⟩ := Option.map_eq_some_iff.mp hx
    exact (h.waiting timer htimer).2.1
  · intro before burst after hedits hburst
    refine ⟨TimedText.rested w.delay (TimedText.follower after none) burst,
      TimedText.rested_of_burst hburst, h.offered.trans ?_⟩
    show TimedText.rested _ _ (o.edits w es) = _
    rw [hedits, List.append_assoc, TimedText.rested_append, TimedText.rested_append,
      List.append_assoc]
  · have hrequests : (o.run w es).requests.map Request.text = _ := h.requests
    rw [hrequests]
    exact List.isChain_destutter _ _
  · exact h.requests_of_burst
  · exact h.started.append_starts (Session.watch_starts _)

end Opening

/-! ## A run for all edits -/

namespace Session

/-- Nothing is ready and nobody waits, but perhaps an edit that is asleep. -/
structure Calm (s : Session σ ν) : Prop where
  ready : s.ready = []
  waiting : s.waiting = []
  opened : s.closed = false
  asleep : ∀ timer, s.timer = some timer → s.now < timer.deadline

variable {w : Workshop σ ν} {s : Session σ ν}

theorem release_of_waiting (h : s.waiting = []) : s.release = s := by
  unfold release
  split
  · rw [h]
    cases s
    cases h
    simp
  · rfl

theorem turnBeat?_ne_edited (t : Turn σ ν) (text : String) :
    s.turnBeat? t ≠ some (.edited text) := by
  unfold turnBeat? turnMark?
  cases t with
  | wake serial =>
    dsimp only
    split
    · split <;> nofun
    · nofun
  | begin request => nofun
  | adopt request outcome =>
    cases outcome with
    | error halt => nofun
    | ok compiled =>
      dsimp only
      split <;> nofun
  | present r outcome =>
    cases outcome with
    | error fault => nofun
    | ok picture =>
      dsimp only
      split <;> nofun
  | command id command => nofun
  | recheck id => nofun
  | later next => nofun

theorem edits_beat?_turn (place : Nat) (time : Int) :
    Beat.edits ((s.beat? (.turn place)).toList.map (time, ·)) = [] := by
  have hnot : ∀ text, s.beat? (.turn place) ≠ some (.edited text) := by
    intro text hbeat
    obtain ⟨t, -, ht⟩ := Option.bind_eq_some_iff.mp hbeat
    exact turnBeat?_ne_edited t text ht
  cases hbeat : s.beat? (.turn place) with
  | none => rfl
  | some beat =>
    cases beat with
    | edited text => exact absurd hbeat (hnot text)
    | offered text => rfl
    | taken request => rfl

theorem edits_beats_turns (places : List Nat) :
    Beat.edits (s.beats w (places.map .turn)) = [] := by
  induction places generalizing s with
  | nil => rfl
  | cons place places ih =>
    show Beat.edits (_ ++ (s.step w (.turn place)).beats w (places.map .turn)) = []
    rw [Beat.edits_append, ih, List.append_nil]
    exact edits_beat?_turn place s.now

theorem submit_waiting (s : Session σ ν) (text : String) :
    (s.submit text).waiting = s.waiting := by
  cases h : s.accepts text with
  | true => rw [submit_of_accepts h]
  | false => rw [submit_of_not_accepts h]

theorem Calm.submit (h : s.Calm) (text : String) :
    ((s.submit text).step w (.turn 0)).Calm ∧
      ((s.submit text).step w (.turn 0)).timer = s.timer ∧
      ((s.submit text).step w (.turn 0)).now = s.now := by
  rw [← turn_eq_step]
  cases haccepts : s.accepts text with
  | false =>
    have hstay : (s.submit text).turn w = s := by
      rw [submit_of_not_accepts haccepts]
      unfold turn
      rw [h.ready]
    rw [hstay]
    exact ⟨h, rfl, rfl⟩
  | true =>
    let fresh : Session σ ν := { s.submit text with ready := [] }
    have hlive : fresh.isCancelled s.requests.length = false := by
      refine live_view.mp ?_
      show Request.Live (s.submit text).requests _
      rw [submit_of_accepts haccepts]
      exact Request.live_append_new.mpr (.inr Request.length_withdrawn.symm)
    have hclosed : fresh.closed = false := by
      show (s.submit text).closed = false
      rw [submit_of_accepts haccepts]
      exact h.opened
    have hturn : (s.submit text).turn w = fresh.hire (.compile s.requests.length) := by
      have hready : (s.submit text).ready = [.begin s.requests.length] := by
        rw [submit_of_accepts haccepts]
        exact congrArg (· ++ _) h.ready
      unfold turn
      rw [hready]
      show fresh.begin _ = _
      unfold begin
      rw [hlive, hclosed]
      rfl
    have htimer : fresh.timer = s.timer ∧ fresh.now = s.now := by
      show (s.submit text).timer = _ ∧ (s.submit text).now = _
      rw [submit_of_accepts haccepts]
      exact ⟨rfl, rfl⟩
    rw [hturn]
    refine ⟨⟨rfl, (submit_waiting s text).trans h.waiting, hclosed, fun timer heq => ?_⟩, htimer⟩
    exact htimer.2.trans_lt (h.asleep timer (htimer.1.symm.trans heq))

theorem Calm.rest (h : s.Calm) {timer : Timer} (htimer : s.timer = some timer) :
    ∃ es, s.always w attends es = true ∧ Beat.edits (s.beats w es) = [] ∧ (s.run w es).Calm ∧
      (s.run w es).timer = none ∧ (s.run w es).now = timer.deadline := by
  have hsum : s.now + (timer.deadline - s.now) = timer.deadline := by omega
  have hattends : s.attends (.pass (timer.deadline - s.now)) = true := by
    simp [attends, starts, h.ready, htimer, hsum, (h.asleep timer htimer).le]
  -- one turn notices the end of the wait, one acts on it, and one begins the compile
  let due : Session σ ν := { s with
    now := timer.deadline, timer := some timer, ready := [.later (.wake timer.serial)] }
  have hdue : s.step w (.pass (timer.deadline - s.now)) = due := by
    show s.advance _ = _
    unfold advance
    rw [hsum, htimer]
    dsimp only
    rw [if_pos ⟨h.asleep timer htimer, Int.le_refl _⟩]
    unfold lineUpLater lineUp
    rw [h.ready]
    rfl
  let rested : Session σ ν := { s with now := timer.deadline, timer := none, ready := [] }
  have hrested : due.run w [.turn 0, .turn 0] = rested.submit timer.text := by
    have hwaiting : (rested.submit timer.text).waiting = [] :=
      (submit_waiting rested timer.text).trans h.waiting
    show (if timer.serial = timer.serial then (rested.submit timer.text).release else _) = _
    rw [if_pos rfl, release_of_waiting hwaiting]
  have hcalm : rested.Calm := by
    refine ⟨rfl, h.waiting, h.opened, ?_⟩
    rintro _ ⟨⟩
  have hrun : s.run w (.pass (timer.deadline - s.now) :: [0, 0, 0].map .turn) =
      (rested.submit timer.text).step w (.turn 0) := by
    rw [← hrested]
    show (s.step w (.pass (timer.deadline - s.now))).run w _ = _
    rw [hdue]
    rfl
  refine ⟨.pass (timer.deadline - s.now) :: [0, 0, 0].map .turn, ?_, edits_beats_turns _, ?_⟩
  · unfold always
    rw [hattends]
    rfl
  · rw [hrun]
    exact hcalm.submit timer.text

/-- The state right after an edit. -/
def editedAt (w : Workshop σ ν) (s : Session σ ν) (x : TimedText) : Session σ ν := { s with
  now := x.time
  timer := some ⟨s.timerCount, x.time + w.delay, x.text⟩
  timerCount := s.timerCount + 1 }

/-- Time goes on until the next edit, which comes before a text has rested. -/
theorem Calm.edit (h : s.Calm) (hdelay : 0 < w.delay) {x : TimedText} (hnow : s.now ≤ x.time)
    (htimer : ∀ timer, s.timer = some timer → x.time < timer.deadline) :
    ∃ es, s.always w attends es = true ∧ Beat.edits (s.beats w es) = [x] ∧
      s.run w es = s.editedAt w x := by
  have hsum : s.now + (x.time - s.now) = x.time := by omega
  have hattends : s.attends (.pass (x.time - s.now)) = true := by
    have hall : s.timer.all (fun timer => s.now + (x.time - s.now) ≤ timer.deadline) = true := by
      cases heq : s.timer with
      | none => rfl
      | some timer => simpa [hsum] using Int.le_of_lt (htimer timer heq)
    simp only [attends, hall, starts, h.ready, Bool.and_true]
    simpa using hnow
  have hpass : s.step w (.pass (x.time - s.now)) = { s with now := x.time } := by
    show s.advance _ = _
    unfold advance
    rw [hsum]
    dsimp only
    split
    · rename_i timer heq
      exact if_neg fun hdue => Int.not_le.mpr (htimer timer heq) hdue.2
    · rfl
  have hedit : Session.edit w { s with now := x.time } x.text = s.editedAt w x := by
    show (if s.closed = true then _ else _) = _
    rw [if_neg (by rw [h.opened]; exact Bool.false_ne_true)]
    dsimp only
    rw [if_neg (Int.not_le.mpr hdelay), Int.max_eq_left (Int.le_of_lt hdelay)]
    rfl
  refine ⟨[.pass (x.time - s.now), .edit x.text], ?_, ?_, ?_⟩
  · unfold always
    rw [hattends]
    rfl
  · show Beat.edits ([] ++ ([(((s.step w (.pass (x.time - s.now))).now), Beat.edited x.text)] ++ []))
      = _
    rw [hpass]
    rfl
  · show Session.edit w (s.step w (.pass (x.time - s.now))) x.text = _
    rw [hpass, hedit]

/-- Time goes on until the next edit, which does not come just when a text has rested. -/
theorem Calm.reach (h : s.Calm) (hdelay : 0 < w.delay) {x : TimedText} (hnow : s.now ≤ x.time)
    (htimer : ∀ timer, s.timer = some timer → x.time ≠ timer.deadline) :
    ∃ es, s.always w attends es = true ∧ Beat.edits (s.beats w es) = [x] ∧
      ∃ s' : Session σ ν, s'.Calm ∧ s.run w es = s'.editedAt w x := by
  cases heq : s.timer with
  | none =>
    obtain ⟨es, hes, hedits, hrun⟩ := h.edit hdelay hnow (by rw [heq]; nofun)
    exact ⟨es, hes, hedits, s, h, hrun⟩
  | some timer =>
    rcases Int.lt_or_gt_of_ne (htimer timer heq) with hearly | hlate
    · have hother : ∀ timer', s.timer = some timer' → x.time < timer'.deadline := by
        intro timer' heq'
        obtain rfl := Option.some.inj (heq.symm.trans heq')
        exact hearly
      obtain ⟨es, hes, hedits, hrun⟩ := h.edit hdelay hnow hother
      exact ⟨es, hes, hedits, s, h, hrun⟩
    · obtain ⟨es, hes, hedits, hcalm, hnone, hat⟩ := h.rest (w := w) heq
      obtain ⟨es', hes', hedits', hrun⟩ := hcalm.edit hdelay
        (hat.trans_le (Int.le_of_lt hlate)) (by rw [hnone]; nofun)
      refine ⟨es ++ es', ?_, ?_, _, hcalm, (run_append w s es es').trans hrun⟩
      · rw [always_append, hes, hes']
        rfl
      · rw [beats_append, Beat.edits_append, hedits, hedits']
        rfl

theorem Calm.editedAt (h : s.Calm) (hdelay : 0 < w.delay) (x : TimedText) :
    (s.editedAt w x).Calm := by
  refine ⟨h.ready, h.waiting, h.opened, ?_⟩
  rintro timer ⟨⟩
  exact Int.lt_add_of_pos_right _ hdelay

/-- There is a run for all edits that come one after the other, and no two just so far apart that
the first one has rested. -/
theorem Calm.exists_schedule (hdelay : 0 < w.delay) {xs : List TimedText} (h : s.Calm)
    (hsorted : xs.IsChain fun a b => a.time ≤ b.time) (hgap : TimedText.Apart w.delay xs)
    (hfirst : ∀ x, xs.head? = some x → s.now ≤ x.time ∧
      ∀ timer, s.timer = some timer → x.time ≠ timer.deadline) :
    ∃ es, s.always w attends es = true ∧ Beat.edits (s.beats w es) = xs ∧
      (s.run w es).timer = none ∧ (s.run w es).ready = [] := by
  induction xs generalizing s with
  | nil =>
    cases heq : s.timer with
    | none => exact ⟨[], rfl, rfl, heq, h.ready⟩
    | some timer =>
      obtain ⟨es, hes, hedits, hcalm, hnone, -⟩ := h.rest (w := w) heq
      exact ⟨es, hes, hedits, hnone, hcalm.ready⟩
  | cons x xs ih =>
    obtain ⟨hnow, htimer⟩ := hfirst x rfl
    obtain ⟨es, hes, hedits, s', hcalm, hrun⟩ := h.reach hdelay hnow htimer
    have hnext : ∀ y, xs.head? = some y → x.time ≤ y.time ∧
        ∀ timer, (s'.editedAt w x).timer = some timer → y.time ≠ timer.deadline := by
      intro y hy
      refine ⟨hsorted.rel_head? hy, ?_⟩
      rintro timer ⟨⟩
      exact List.IsChain.rel_head? hgap hy
    -- the state after the edit is calm again, with this edit's own wait ahead
    obtain ⟨es', hes', hedits', hdone⟩ := ih (hcalm.editedAt hdelay x) hsorted.tail
      (List.IsChain.tail hgap) hnext
    rw [← hrun] at hes' hedits' hdone
    refine ⟨es ++ es', ?_, ?_, ?_⟩
    · rw [always_append, hes, hes']
      rfl
    · rw [beats_append, Beat.edits_append, hedits, hedits']
      rfl
    · rw [run_append]
      exact hdone

end Session

/-! ## Coalescing -/

/-- **Edits coalesce.** Every run that goes by the clock, with no two edits just so far apart that
the first one has rested, submits exactly the texts that have rested, when they have, and compiles
those that are not like the one before. There is such a run for all edits whose times allow it, at
the end of which nothing waits. -/
theorem Opening.edits_coalesce (o : Opening) {w : Workshop σ ν} (hdelay : 0 < w.delay) :
    (∀ es, o.always w Session.attends es = true → TimedText.Apart w.delay (o.edits w es) →
      o.Coalesces w es) ∧
    ∀ xs : List TimedText, (xs.IsChain fun a b => a.time ≤ b.time) →
      TimedText.Apart w.delay xs → (∀ x, xs.head? = some x → o.now ≤ x.time) →
      ∃ es, o.always w Session.attends es = true ∧ o.edits w es = xs ∧ o.Coalesces w es ∧
        (o.run w es).timer = none ∧ (o.run w es).ready = [] := by
  refine ⟨fun es hes hgap => coalesces hdelay hes hgap, fun xs hsorted hgap hfirst => ?_⟩
  have hcalm : (o.session : Session σ ν).Calm := ⟨rfl, rfl, rfl, nofun⟩
  obtain ⟨es, hes, hedits, hdone⟩ := hcalm.exists_schedule hdelay hsorted hgap
    fun x hx => ⟨hfirst x hx, nofun⟩
  have hsame : o.edits w es = xs := hedits
  exact ⟨es, hes, hsame, coalesces hdelay hes (hsame ▸ hgap), hdone⟩

/-! ## A burst, the same text again, and another text -/

/-- A text with nothing in it. -/
def Program.blank : Program Unit := ⟨⟨[], .ok (.mk .unknown (.module []))⟩, ⟨[], .ok ()⟩, ()⟩

/-- A workshop in which texts have to rest. -/
def Workshop.unhurried : Workshop Unit Unit := { Workshop.ofProgram .blank with delay := 3 }

/-- Two edits that follow each other early, and two that come late. -/
def typed : List TimedText := [⟨0, "a"⟩, ⟨1, "ab"⟩, ⟨9, "ab"⟩, ⟨20, "c"⟩]

/-- Three texts are offered, and two of them are compiled. -/
theorem edits_coalescing :
    0 < Workshop.unhurried.delay ∧ ∃ es,
      Opening.bare.always .unhurried Session.attends es = true ∧
        Opening.bare.edits .unhurried es = typed ∧
        Opening.bare.offers .unhurried es = [⟨4, "ab"⟩, ⟨12, "ab"⟩, ⟨23, "c"⟩] ∧
        (Opening.bare.run .unhurried es).requests.map Request.text = ["ab", "c"] ∧
        Opening.bare.taken .unhurried es ++ (Opening.bare.run .unhurried es).compiles = [0, 1] := by
  have hdelay : 0 < Workshop.unhurried.delay := by decide
  obtain ⟨es, hes, hedits, h, htimer, hready⟩ :=
    (Opening.edits_coalesce .bare hdelay).2 typed (by decide) (by unfold TimedText.Apart; decide)
      (by rintro x ⟨⟩; decide)
  have hpending : (Opening.bare.run .unhurried es).watch.pending? = none := by
    show Option.map _ (Opening.bare.run .unhurried es).timer = none
    rw [htimer]
    rfl
  have hoffers : Opening.bare.offers .unhurried es = [⟨4, "ab"⟩, ⟨12, "ab"⟩, ⟨23, "c"⟩] := by
    have hrested := h.offers
    rw [hpending, hedits, Option.toList_none, List.append_nil] at hrested
    exact hrested.trans (by decide)
  have hrequests : (Opening.bare.run .unhurried es).requests.map Request.text = ["ab", "c"] :=
    h.requests.trans (by rw [hoffers]; decide)
  have hlength : (Opening.bare.run .unhurried es).requests.length = 2 := by
    rw [← List.length_map Request.text, hrequests]
    rfl
  have hstarts : (Opening.bare.run .unhurried es).starts = [] := by
    unfold Session.starts
    rw [hready]
    rfl
  have hcompiles := h.compiles
  rw [hstarts, hlength, List.append_nil] at hcompiles
  exact ⟨hdelay, es, hes, hedits, hoffers, hrequests, hcompiles⟩

end LiveSketch

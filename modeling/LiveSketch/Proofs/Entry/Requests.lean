import LiveSketch.Proofs.Entry.Replay

/-!
# What a host asks of a script

A host knows a script by its answers alone, so what it does to the script is the list of its
requests. `Engine.recorded` notes them: it does what the engine does (`Artifact.after_recorded`), and
keeps each request (`Ask`) in its state. Questions about a fault are no requests, and are not noted.

Binding asks in a fixed order and stops at the first fault (`createTarget_records`). The first draw
makes these requests, and every draw one call of what was bound, if something was
(`Artifact.asks_of_unbound`).
-/

namespace LiveSketch

variable {σ ν α β : Type}

/-! ## Requests -/

/-- A request to a script. -/
inductive Ask (ν : Type) where
  | body
  | global (name : String)
  | member (v : ν) (name : String)
  | construct (v : ν)
  | isCallable (v : ν)
  | call (target : ν) (canvas : Canvas) (width height : Int)

namespace Ask

/-- What is asked for, whatever the values are. -/
inductive Kind where
  | body | global | member | construct | isCallable | call
deriving DecidableEq

def kind : Ask ν → Kind
  | body => .body
  | global _ => .global
  | member .. => .member
  | construct _ => .construct
  | isCallable _ => .isCallable
  | call .. => .call

end Ask

/-- What binding an entry point asks for, in this order: the body runs, the function is looked up,
for a function of an instance after the class is called, and it is asked whether it can be
called. -/
def EntryPoint.bindingKinds (e : EntryPoint) : List Ask.Kind :=
  [.body, .global] ++
    (if e.inOwner then if e.isStatic then [.member] else [.construct, .member] else []) ++
    [.isCallable]

/-! ## Recording -/

/-- Carries out a request and notes it. -/
def noting (ask : Ask ν) (x : StateM σ α) : StateM (σ × List (Ask ν)) α := fun s =>
  let done := x.run s.1
  (done.1, done.2, s.2 ++ [ask])

/-- Carries out a request without noting it. -/
def Act.quietly (x : Act σ α) : Act (σ × List (Ask ν)) α := ExceptT.mk fun s =>
  let done := x.run.run s.1
  (done.1, done.2, s.2)

def Engine.recorded (engine : Engine σ ν) : Engine (σ × List (Ask ν)) ν where
  runBody := ExceptT.mk (noting .body engine.runBody.run)
  global? name := ExceptT.mk (noting (.global name) (engine.global? name).run)
  member? v name := ExceptT.mk (noting (.member v name) (engine.member? v name).run)
  construct v := ExceptT.mk (noting (.construct v) (engine.construct v).run)
  isCallable v := ExceptT.mk (noting (.isCallable v) (engine.isCallable v).run)
  call v canvas width height :=
    noting (.call v canvas width height) (engine.call v canvas width height)
  inquire handle q := (engine.inquire handle q).quietly

/-- The second does what the first does and notes requests; `P` holds of its end and of what they
ask for. -/
def Act.Records (x : Act σ α) (y : Act (σ × List (Ask ν)) α)
    (P : Except Fault α → List Ask.Kind → Prop) : Prop :=
  ∀ s log, ∃ asks,
    y.run.run (s, log) = ((x.run.run s).1, (x.run.run s).2, log ++ asks) ∧
      P (x.run.run s).1 (asks.map Ask.kind)

namespace Act.Records

variable {x : Act σ α} {y : Act (σ × List (Ask ν)) α}
  {P : Except Fault α → List Ask.Kind → Prop}

theorem of_noting (ask : Ask ν) (x : Act σ α) :
    Records x (ExceptT.mk (noting ask x.run)) fun _ kinds => kinds = [ask.kind] :=
  fun _ _ => ⟨[ask], rfl, rfl⟩

theorem of_pure (a : α) : Records (σ := σ) (ν := ν) (pure a) (pure a)
    fun ended kinds => ended = .ok a ∧ kinds = [] :=
  fun _ log => ⟨[], by rw [List.append_nil]; rfl, rfl, rfl⟩

theorem of_throw (fault : Fault) : Records (σ := σ) (ν := ν) (α := α) (throw fault) (throw fault)
    fun ended kinds => ended = .error fault ∧ kinds = [] :=
  fun _ log => ⟨[], by rw [List.append_nil]; rfl, rfl, rfl⟩

theorem mono {Q : Except Fault α → List Ask.Kind → Prop} (h : Records x y P)
    (hPQ : ∀ ended kinds, P ended kinds → Q ended kinds) : Records x y Q := by
  intro s log
  obtain ⟨asks, hrun, hP⟩ := h s log
  exact ⟨asks, hrun, hPQ _ _ hP⟩

/-- One request after the other: those of the first end with a fault, or those of the second
follow. -/
theorem bind {f : α → Act σ β} {g : α → Act (σ × List (Ask ν)) β}
    {Q : Except Fault β → List Ask.Kind → Prop} (h : Records x y P)
    (hfault : ∀ fault kinds, P (.error fault) kinds → Q (.error fault) kinds)
    (hnext : ∀ a kinds, P (.ok a) kinds →
      Records (f a) (g a) fun ended more => Q ended (kinds ++ more)) :
    Records (x >>= f) (y >>= g) Q := by
  intro s log
  obtain ⟨asks, hrun, hP⟩ := h s log
  rw [ExceptT.run_bind, ExceptT.run_bind, StateT.run_bind, StateT.run_bind, hrun]
  rcases hx : x.run.run s with ⟨fault | a, s'⟩
  · rw [hx] at hP
    exact ⟨asks, rfl, hfault _ _ hP⟩
  · rw [hx] at hP
    obtain ⟨more, hmore, hQ⟩ := hnext a _ hP s' (log ++ asks)
    refine ⟨asks ++ more, ?_, ?_⟩
    · rw [← List.append_assoc]
      exact hmore
    · rw [List.map_append]
      exact hQ

end Act.Records

/-! ## Binding -/

/-- Requests of binding that ended so: all of them if a target was made, else the first ones. -/
def EntryPoint.Asked (entry : EntryPoint) (kinds : List Ask.Kind) : Except Fault ν → Prop
  | .ok _ => kinds = entry.bindingKinds
  | .error _ => kinds <+: entry.bindingKinds

section Binding

open Act (Records)

variable {engine : Engine σ ν} {entry : EntryPoint} {done : List Ask.Kind}

theorem checkTarget_records (h : done ++ [.isCallable] = entry.bindingKinds) (found : Option ν) :
    Records (checkTarget engine entry found) (checkTarget engine.recorded entry found)
      fun ended more => entry.Asked (done ++ more) ended := by
  have hrefused : ∀ fault (more : List Ask.Kind), more <+: [.isCallable] →
      entry.Asked (done ++ more) (.error fault : Except Fault ν) := by
    intro fault more hmore
    rw [EntryPoint.Asked, ← h]
    exact (List.prefix_append_right_inj done).mpr hmore
  cases found with
  | none =>
    refine (Records.of_throw _).mono ?_
    rintro _ _ ⟨rfl, rfl⟩
    exact hrefused _ _ List.nil_prefix
  | some target =>
    refine (Records.of_noting (.isCallable target) (engine.isCallable target)).bind ?_ ?_
    · rintro fault _ rfl
      exact hrefused _ _ (List.prefix_refl _)
    · rintro callable _ rfl
      cases callable with
      | true =>
        refine (Records.of_pure target).mono ?_
        rintro _ _ ⟨rfl, rfl⟩
        exact h
      | false =>
        refine (Records.of_throw _).mono ?_
        rintro _ _ ⟨rfl, rfl⟩
        exact hrefused _ _ (List.prefix_refl _)

theorem Act.Records.asking (done : List Ask.Kind) (ask : Ask ν) (rest : List Ask.Kind)
    {x : Act σ α} {f : α → Act σ ν} {g : α → Act (σ × List (Ask ν)) ν}
    (h : done ++ ask.kind :: rest = entry.bindingKinds)
    (hnext : ∀ a, Records (f a) (g a) fun ended more =>
      entry.Asked ((done ++ [ask.kind]) ++ more) ended) :
    Records (x >>= f) (ExceptT.mk (noting ask x.run) >>= g)
      fun ended more => entry.Asked (done ++ more) ended := by
  refine (of_noting ask x).bind ?_ ?_
  · rintro fault _ rfl
    rw [EntryPoint.Asked, ← h]
    exact (List.prefix_append_right_inj done).mpr ⟨rest, rfl⟩
  · rintro a _ rfl
    refine (hnext a).mono fun ended more hasked => ?_
    rwa [List.append_assoc] at hasked

theorem createTarget_records (engine : Engine σ ν) (entry : EntryPoint) :
    Records (createTarget engine entry) (createTarget engine.recorded entry)
      fun ended kinds => entry.Asked kinds ended := by
  obtain ⟨inOwner, isStatic, line⟩ := entry
  refine Records.asking [] .body _ rfl fun _ => ?_
  cases inOwner with
  | false => exact Records.asking _ (.global entryName) _ rfl (checkTarget_records rfl)
  | true =>
    refine Records.asking _ (.global ownerName)
      ((if isStatic then [.member] else [.construct, .member]) ++ [.isCallable]) rfl
      fun owner => ?_
    cases owner with
    | none =>
      refine (Records.of_throw _).mono ?_
      rintro _ _ ⟨rfl, rfl⟩
      exact ⟨_, rfl⟩
    | some owner =>
      cases isStatic with
      | true => exact Records.asking _ (.member owner entryName) _ rfl (checkTarget_records rfl)
      | false =>
        refine Records.asking _ (.construct owner) _ rfl fun object => ?_
        exact Records.asking _ (.member object entryName) _ rfl (checkTarget_records rfl)

end Binding

/-! ## Reports -/

section Reports

open Act

variable {engine : Engine σ ν} {entry : EntryPoint} {fault : Fault}

theorem Act.run_quietly (x : Act σ α) (s : σ) (log : List (Ask ν)) :
    (quietly x).run.run (s, log) = ((x.run.run s).1, (x.run.run s).2, log) := rfl

theorem Act.quietly_bind (x : Act σ α) (f : α → Act σ β) :
    (quietly (x >>= f) : Act (σ × List (Ask ν)) β) = quietly x >>= fun a => quietly (f a) := by
  refine ExceptT.ext (StateT.ext fun ⟨s, log⟩ => ?_)
  rw [run_quietly, ExceptT.run_bind, StateT.run_bind, ExceptT.run_bind, StateT.run_bind,
    run_quietly]
  rcases x.run.run s with ⟨fault | a, s₁⟩ <;> rfl

theorem Act.quietly_pure (a : α) :
    (quietly (pure a : Act σ α) : Act (σ × List (Ask ν)) α) = pure a := rfl

theorem Act.quietly_discard (x : Act σ α) :
    (quietly (discard x) : Act (σ × List (Ask ν)) PUnit) = discard (quietly x) := by
  show quietly (Function.const α PUnit.unit <$> x) = Function.const α PUnit.unit <$> quietly x
  rw [map_eq_pure_bind, map_eq_pure_bind, quietly_bind]
  rfl

theorem Engine.ask_recorded (fault : Fault) (q : Inquiry) :
    engine.recorded.ask fault q = quietly (engine.ask fault q) := by
  cases fault <;> rfl

theorem Fault.unwrap_recorded (fault : Fault) :
    fault.unwrap engine.recorded = quietly (fault.unwrap engine) := by
  induction fault using Fault.cause_induction with
  | step fault ih =>
    rw [unwrap_eq, unwrap_eq, quietly_bind, Engine.ask_recorded]
    refine congrArg _ (funext fun wraps => ?_)
    cases wraps with
    | false => rfl
    | true =>
      cases hcause : fault.cause with
      | none => rfl
      | some cause => exact ih cause hcause

theorem Fault.report_recorded (line : Int) :
    fault.report engine.recorded line = quietly (fault.report engine line) := by
  unfold report
  simp only [quietly_bind, Engine.ask_recorded]
  refine congrArg _ (funext fun frames => congrArg _ (funext fun words =>
    congrArg _ (funext fun counts => ?_)))
  cases counts with
  | true => rfl
  | false =>
    show _ = quietly (engine.ask fault .className >>= _)
    rw [quietly_bind]
    rfl

/-- Nothing is noted while a fault is reported. -/
theorem handled_recorded :
    handled engine.recorded entry fault = quietly (handled engine entry fault) := by
  unfold handled
  cases fault.isStopped with
  | false => rfl
  | true =>
    simp only [if_true, quietly_bind, quietly_discard, Engine.ask_recorded,
      Fault.unwrap_recorded, Fault.report_recorded, quietly_pure]

theorem answerOf_recorded (ended : Except Fault Unit) (s : σ) (log : List (Ask ν)) :
    (answerOf engine.recorded entry ended).run (s, log) =
      let told := (answerOf engine entry ended).run s
      (told.1, told.2, log) := by
  cases ended with
  | ok _ => rfl
  | error fault =>
    show (handled engine.recorded entry fault).run.run (s, log) = _
    rw [handled_recorded]
    rfl

theorem retell_recorded (s : σ) (log : List (Ask ν)) :
    (retell engine.recorded entry fault).run (s, log) =
      let told := (retell engine entry fault).run s
      (told.1, told.2, log) := by
  have hreplay : replay engine.recorded fault = quietly (replay engine fault) := by
    unfold replay
    rw [quietly_bind, Engine.ask_recorded]
    rfl
  unfold retell
  rw [hreplay]
  exact answerOf_recorded _ _ log

end Reports

/-! ## One draw -/

theorem Resolution.eq_missing {r : Resolution} {tree : Node}
    (h : Resolution.entry? (r.settle tree) = none) : r.settle tree = .missing := by
  cases r with
  | unresolved =>
    unfold Resolution.settle at h ⊢
    cases hentry : entryPoint? tree with
    | none => rfl
    | some entry =>
      rw [hentry] at h
      cases h
  | found entry => cases h
  | missing => rfl

def Binding.calls (q : DrawRequest σ) : Binding ν → List (Ask ν)
  | .bound target => [.call target q.canvas q.width q.height]
  | .unbound | .failed _ | .lost => []

section Invoke

variable (engine : Engine σ ν) (entry : EntryPoint) (s : σ) (log : List (Ask ν)) {b : Binding ν}

/-- On what it finds bound an invocation asks for the call alone. -/
theorem invoke_recorded_of_settled (hb : b ≠ .unbound) (q : DrawRequest σ) :
    (invoke engine.recorded entry b q.canvas q.width q.height).run (s, log) =
      let done := (invoke engine entry b q.canvas q.width q.height).run s
      (done.1, done.2, log ++ b.calls q) := by
  cases b with
  | unbound => exact absurd rfl hb
  | bound target =>
    rw [invoke_bound, invoke_bound]
    dsimp only
    let ended := (engine.call target q.canvas q.width q.height).run s
    have htold : (answerOf engine.recorded entry ended.1.2).run
        (ended.2, log ++ [.call target q.canvas q.width q.height]) = _ := answerOf_recorded _ _ _
    exact congrArg (fun told =>
      ((Binding.bound target, DrawOutcome.mk ended.1.1 told.1), told.2)) htold
  | failed fault =>
    rw [invoke_failed, invoke_failed, retell_recorded, Binding.calls, List.append_nil]
  | lost =>
    rw [invoke_lost, invoke_lost, Binding.calls, List.append_nil]

/-- The first invocation makes the requests of binding, then the call. -/
theorem invoke_recorded_of_unbound (q : DrawRequest σ) :
    let done := (invoke engine entry (.unbound : Binding ν) q.canvas q.width q.height).run s
    ∃ binding, (invoke engine.recorded entry .unbound q.canvas q.width q.height).run (s, log) =
        (done.1, done.2, log ++ (binding ++ done.1.1.calls q)) ∧
      entry.Asked (binding.map Ask.kind) ((createTarget engine entry).run.run s).1 := by
  obtain ⟨binding, hrun, hasked⟩ := createTarget_records engine entry s log
  refine ⟨binding, ?_, hasked⟩
  rcases hcreated : (createTarget engine entry).run.run s with ⟨fault | target, s'⟩
  · rw [hcreated] at hrun
    cases hs : fault.isStopped with
    | true =>
      rw [invoke_of_stopped _ _ _ hcreated hs, invoke_of_stopped _ _ _ hrun hs, invoke_failed,
        invoke_failed, retell_recorded, Binding.calls, List.append_nil]
    | false =>
      rw [invoke_of_beyond _ _ _ hcreated hs, invoke_of_beyond _ _ _ hrun hs, Binding.calls,
        List.append_nil]
  · rw [hcreated] at hrun
    rw [invoke_of_created _ _ _ hcreated, invoke_of_created _ _ _ hrun, ← List.append_assoc,
      invoke_recorded_of_settled _ _ _ _ (by simp), invoke_bound]

end Invoke

/-! ## A row of draws -/

/-- What other scripts do meanwhile is not noted. -/
def DrawRequest.recorded (q : DrawRequest σ) : DrawRequest (σ × List (Ask ν)) :=
  { q with meanwhile := fun s => (q.meanwhile s.1, s.2) }

namespace Artifact

variable (engine : Engine σ ν)

/-- The artifact with its script under a recording engine. -/
def recorded (a : Artifact σ ν) (log : List (Ask ν)) : Artifact (σ × List (Ask ν)) ν :=
  ⟨a.tree, a.resolution, a.binding, a.state, log⟩

/-- The artifact under a recording engine after draws that were made of it. -/
def recordedAfter (a : Artifact σ ν) (log : List (Ask ν)) (qs : List (DrawRequest σ)) :
    Artifact (σ × List (Ask ν)) ν :=
  (a.recorded log).after engine.recorded (qs.map DrawRequest.recorded)

/-- What a row of draws asks of the script. -/
def asks (a : Artifact σ ν) (qs : List (DrawRequest σ)) : List (Ask ν) :=
  (a.recordedAfter engine [] qs).state.2

variable {a : Artifact σ ν} {entry : EntryPoint}

theorem drawn_recorded (a : Artifact σ ν) (log : List (Ask ν)) (q : DrawRequest σ) :
    ∃ asks, (a.recorded log).drawn engine.recorded q.recorded =
      ((a.drawn engine q).1.recorded (log ++ asks), (a.drawn engine q).2) := by
  cases hentry : Resolution.entry? (a.resolution.settle a.tree) with
  | none =>
    refine ⟨[], ?_⟩
    rw [drawn_of_no_entry hentry, drawn_of_no_entry (a := a.recorded log) hentry, List.append_nil]
    rfl
  | some entry =>
    obtain ⟨asks, hinvoke⟩ : ∃ asks,
        (invoke engine.recorded entry a.binding q.canvas q.width q.height).run
            (q.meanwhile a.state, log) =
          let done := (invoke engine entry a.binding q.canvas q.width q.height).run
            (q.meanwhile a.state)
          (done.1, done.2, log ++ asks) := by
      by_cases hb : a.binding = .unbound
      · obtain ⟨binding, hinvoke, -⟩ :=
          invoke_recorded_of_unbound engine entry (q.meanwhile a.state) log q
        rw [hb]
        exact ⟨_, hinvoke⟩
      · exact ⟨_, invoke_recorded_of_settled engine entry (q.meanwhile a.state) log hb q⟩
    refine ⟨asks, ?_⟩
    rw [drawn_of_entry hentry, drawn_of_entry (a := a.recorded log) hentry]
    dsimp only [recorded, DrawRequest.recorded]
    rw [hinvoke]

theorem after_recorded (a : Artifact σ ν) (log : List (Ask ν)) (qs : List (DrawRequest σ)) :
    ∃ asks, a.recordedAfter engine log qs = (a.after engine qs).recorded (log ++ asks) := by
  induction qs generalizing a log with
  | nil => exact ⟨[], by rw [List.append_nil]; rfl⟩
  | cons q qs ih =>
    obtain ⟨asks, hdrawn⟩ := drawn_recorded engine a log q
    obtain ⟨more, hafter⟩ := ih (a.drawn engine q).1 (log ++ asks)
    refine ⟨asks ++ more, ?_⟩
    rw [← List.append_assoc]
    refine Eq.trans ?_ hafter
    exact congrArg (fun drawn => drawn.1.after engine.recorded (qs.map DrawRequest.recorded)) hdrawn

theorem after_recorded_asks (a : Artifact σ ν) (qs : List (DrawRequest σ)) :
    a.recordedAfter engine [] qs = (a.after engine qs).recorded (a.asks engine qs) := by
  obtain ⟨log, hafter⟩ := after_recorded engine a [] qs
  unfold Artifact.asks
  rw [hafter]
  rfl

theorem asks_of_no_entry (h : Resolution.entry? (a.resolution.settle a.tree) = none)
    (qs : List (DrawRequest σ)) : a.asks engine qs = [] := by
  suffices hall : ∀ (a : Artifact σ ν), Resolution.entry? (a.resolution.settle a.tree) = none →
      ∀ log, (a.recordedAfter engine log qs).state.2 = log from hall a h []
  induction qs with
  | nil => exact fun _ _ _ => rfl
  | cons q qs ih =>
    intro a h log
    have hdrawn : (a.recorded log).drawn engine.recorded q.recorded =
        ((a.drawn engine q).1.recorded log, (a.drawn engine q).2) := by
      rw [drawn_of_no_entry h, drawn_of_no_entry (a := a.recorded log) h]
      rfl
    have hmissing : Resolution.entry? ((a.drawn engine q).1.resolution.settle
        (a.drawn engine q).1.tree) = none := by
      rw [drawn_of_no_entry h]
      dsimp only
      rw [Resolution.eq_missing h]
      rfl
    refine Eq.trans ?_ (ih (a.drawn engine q).1 hmissing log)
    exact congrArg (fun drawn =>
      (drawn.1.after engine.recorded (qs.map DrawRequest.recorded)).state.2) hdrawn

theorem after_recorded_of_settled (log : List (Ask ν)) (hfound : a.resolution = .found entry)
    (hb : a.binding ≠ .unbound) (qs : List (DrawRequest σ)) :
    (a.recordedAfter engine log qs).state.2 = log ++ qs.flatMap fun q => a.binding.calls q := by
  induction qs generalizing a log with
  | nil => exact (List.append_nil _).symm
  | cons q qs ih =>
    have hentry : Resolution.entry? (a.resolution.settle a.tree) = some entry := by
      rw [hfound]
      rfl
    have hinvoke := invoke_recorded_of_settled engine entry (q.meanwhile a.state) log hb q
    have hdrawn : (a.recorded log).drawn engine.recorded q.recorded =
        ((a.drawn engine q).1.recorded (log ++ a.binding.calls q), (a.drawn engine q).2) := by
      rw [drawn_of_entry hentry, drawn_of_entry (a := a.recorded log) hentry]
      dsimp only [recorded, DrawRequest.recorded]
      rw [hinvoke]
    have hresolution : (a.drawn engine q).1.resolution = .found entry := by
      rw [drawn_of_entry hentry]
      exact Resolution.eq_found hentry
    have hbinding : (a.drawn engine q).1.binding = a.binding := drawn_binding hb q
    have hrest := ih (a := (a.drawn engine q).1) (log ++ a.binding.calls q) hresolution
      (by rw [hbinding]; exact hb)
    rw [hbinding, List.append_assoc] at hrest
    rw [List.flatMap_cons, ← hrest]
    exact congrArg (fun drawn =>
      (drawn.1.after engine.recorded (qs.map DrawRequest.recorded)).state.2) hdrawn

/-- A row of draws asks for what binds the script, then for one call a draw of what was bound. -/
theorem asks_of_unbound (hnew : a.binding = .unbound)
    (hentry : Resolution.entry? (a.resolution.settle a.tree) = some entry)
    (q : DrawRequest σ) (qs : List (DrawRequest σ)) :
    ∃ binding, a.asks engine (q :: qs) =
        binding ++ (q :: qs).flatMap (fun q' => (a.after engine [q]).binding.calls q') ∧
      entry.Asked (binding.map Ask.kind)
        ((createTarget engine entry).run.run (q.meanwhile a.state)).1 := by
  obtain ⟨binding, hinvoke, hasked⟩ :=
    invoke_recorded_of_unbound engine entry (q.meanwhile a.state) [] q
  refine ⟨binding, ?_, hasked⟩
  have hdrawn : (a.drawn engine q).1.resolution = .found entry ∧
      (a.recorded []).drawn engine.recorded q.recorded =
        ((a.drawn engine q).1.recorded (binding ++ (a.after engine [q]).binding.calls q),
          (a.drawn engine q).2) := by
    unfold after
    rw [List.foldl_cons, List.foldl_nil, drawn_of_entry hentry,
      drawn_of_entry (a := a.recorded []) hentry, hnew]
    dsimp only [recorded, DrawRequest.recorded]
    rw [hnew, hinvoke]
    exact ⟨Resolution.eq_found hentry, rfl⟩
  have hsettled : (a.after engine [q]).binding ≠ .unbound := by
    rcases hcreated : (createTarget engine entry).run.run (q.meanwhile a.state) with
      ⟨fault | target, s⟩
    · rw [after_of_raised hnew hentry hcreated]
      split <;> nofun
    · rw [after_of_created hnew hentry hcreated]
      nofun
  have hrest := after_recorded_of_settled engine
    (binding ++ (a.after engine [q]).binding.calls q) hdrawn.1 hsettled qs
  rw [List.append_assoc] at hrest
  rw [List.flatMap_cons]
  refine Eq.trans ?_ hrest
  exact congrArg (fun drawn =>
    (drawn.1.after engine.recorded (qs.map DrawRequest.recorded)).state.2) hdrawn.2

end Artifact

/-! ## Binding once -/

/-- What binding asked for: the body runs at most once, the class is called at most once and only
for a function of an instance, and the function itself is not called. -/
structure EntryPoint.BindsBy (entry : EntryPoint) (kinds : List Ask.Kind) : Prop where
  body : kinds.count .body ≤ 1
  construct : kinds.count .construct ≤ 1
  instance_of_construct : .construct ∈ kinds → entry.inOwner = true ∧ entry.isStatic = false
  call : .call ∉ kinds

theorem EntryPoint.bindsBy_of_asked {entry : EntryPoint} {kinds : List Ask.Kind}
    {ended : Except Fault ν} (h : entry.Asked kinds ended) : entry.BindsBy kinds := by
  have hsub : kinds.Sublist entry.bindingKinds := by
    cases ended with
    | ok target => exact h ▸ List.Sublist.refl _
    | error fault => exact List.IsPrefix.sublist h
  have hall : entry.BindsBy entry.bindingKinds := by
    obtain ⟨inOwner, isStatic, line⟩ := entry
    refine ⟨?_, ?_, ?_, ?_⟩ <;> cases inOwner <;> cases isStatic <;> simp [bindingKinds]
  exact {
    body := Nat.le_trans (hsub.count_le _) hall.body
    construct := Nat.le_trans (hsub.count_le _) hall.construct
    instance_of_construct := fun hmem => hall.instance_of_construct (hsub.subset hmem)
    call := fun hmem => hall.call (hsub.subset hmem) }

/-- **Binding once.** Whatever the script answers and raises, and whatever other scripts do meanwhile,
a row of draws asks it first for what binds it, each at most once, and then for nothing but calls: if
a target was made, for one call of it with the canvas and the sizes of each draw, and else for none.
Without an entry point nothing is asked. (Noting the requests changes neither what draws answer nor
what they leave.) -/
theorem Artifact.binds_once (engine : Engine σ ν) (a : Artifact σ ν) (hnew : a.binding = .unbound)
    (qs : List (DrawRequest σ)) :
    (a.recordedAfter engine [] qs = (a.after engine qs).recorded (a.asks engine qs) ∧
      ∀ q : DrawRequest σ, (a.recordedAfter engine [] qs).answer engine.recorded q.recorded =
        (a.after engine qs).answer engine q) ∧
    match Resolution.entry? (a.resolution.settle a.tree) with
    | none => a.asks engine qs = []
    | some entry => ∃ binding calls, a.asks engine qs = binding ++ calls ∧
        entry.BindsBy (binding.map Ask.kind) ∧
        match qs.head?.map fun q =>
          ((createTarget engine entry).run.run (q.meanwhile a.state)).1 with
        | some (.ok target) => calls = qs.map fun q => .call target q.canvas q.width q.height
        | _ => calls = [] := by
  refine ⟨⟨a.after_recorded_asks engine qs, fun q => ?_⟩, ?_⟩
  · obtain ⟨asks, hdrawn⟩ := drawn_recorded engine (a.after engine qs) (a.asks engine qs) q
    rw [after_recorded_asks]
    exact congrArg Prod.snd hdrawn
  cases hentry : Resolution.entry? (a.resolution.settle a.tree) with
  | none => exact asks_of_no_entry engine hentry qs
  | some entry =>
    dsimp only
    cases qs with
    | nil => exact ⟨[], [], rfl, ⟨Nat.zero_le _, Nat.zero_le _, nofun, nofun⟩, rfl⟩
    | cons q qs =>
      obtain ⟨binding, hasks, hasked⟩ := asks_of_unbound engine hnew hentry q qs
      refine ⟨binding, _, hasks, EntryPoint.bindsBy_of_asked hasked, ?_⟩
      rw [List.head?_cons, Option.map_some]
      rcases hcreated : (createTarget engine entry).run.run (q.meanwhile a.state) with
        ⟨fault | target, s⟩
      · rw [after_of_raised hnew hentry hcreated]
        dsimp only
        split <;> exact List.flatMap_eq_nil_iff.mpr fun _ _ => rfl
      · rw [after_of_created hnew hentry hcreated]
        exact List.map_eq_flatMap.symm

/-! ### A script that fails at first -/

/-- A script whose class draws, and raises a fault the first time. -/
def Artifact.stumbling : Artifact Rehearsal.State Rehearsal.Value where
  tree := .mk .unknown (.module [.mk .unknown (.classDef ownerName [] []
    [.mk ⟨some 2, some 4, some 3, some 12⟩ (.functionDef false entryName
      (.mk .unknown (.arguments [] [.mk .unknown (.argument "self" none),
        .mk .unknown (.argument "canvas" none), .mk .unknown (.argument "width" none),
        .mk .unknown (.argument "height" none)] none [] [] none []))
      [.mk .unknown .pass] [] none [])] [] [])])
  resolution := .unresolved
  binding := .unbound
  state := Rehearsal.start ⟨1, [(ownerName, .cls [(entryName, .function [⟨unitFile, 3⟩]
    [⟨[], some (.plain "ValueError" "not yet"), none⟩, ⟨[], none, none⟩] .plain)])], none, []⟩

/-- Its class is called once for both of two draws, and its function once in each, though the first
call fails. -/
theorem stumbling_binds_once :
    Artifact.stumbling.binding = .unbound ∧
      (Artifact.stumbling.answer (rehearsalEngine fun _ _ => .ok ()) .small).answer =
        .ok [.fault "not yet" 3] ∧
      ∃ binding target,
        Artifact.stumbling.asks (rehearsalEngine fun _ _ => .ok ()) [.small, .small] =
          binding ++ [.call target .sheet 1 1, .call target .sheet 1 1] ∧
        EntryPoint.BindsBy ⟨true, false, 2⟩ (binding.map Ask.kind) := by
  obtain ⟨-, hasks⟩ := Artifact.stumbling.binds_once (rehearsalEngine fun _ _ => .ok ()) rfl
    [.small, .small]
  have hentry : Resolution.entry? (Artifact.stumbling.resolution.settle Artifact.stumbling.tree) =
      some ⟨true, false, 2⟩ := rfl
  obtain ⟨target, hhead⟩ : ∃ target,
      ([.small, .small] : List (DrawRequest Rehearsal.State)).head?.map (fun q =>
        ((createTarget (rehearsalEngine fun _ _ => .ok ()) ⟨true, false, 2⟩).run.run
          (q.meanwhile Artifact.stumbling.state)).1) = some (.ok target) := ⟨_, rfl⟩
  rw [hentry] at hasks
  dsimp only at hasks
  rw [hhead] at hasks
  obtain ⟨binding, calls, hsplit, hbinds, rfl⟩ := hasks
  exact ⟨rfl, rfl, binding, target, hsplit, hbinds⟩

end LiveSketch

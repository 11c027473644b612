import LiveSketch.Proofs.Session.View

/-!
# What a step can do

Of all that a step does to a session, its view shows one move. `Move` lists the moves with the marks
they leave, and `step_move` says that there are no others, so what each of them keeps is kept by
every step.

1. A text is edited, turned down or submitted; the session is closed.
2. A compile ends, and its outcome is adopted or thrown away.
3. A picture is begun, leaves its artifact changed, and is shown or thrown away.
-/

namespace LiveSketch

variable {σ ν : Type}

/-! ## What is announced -/

/-- The messages of a picture beside its result. Those of an older artifact have no lines there. -/
def Rendering.messages (r : Rendering) (p : Picture) : List Diagnostic :=
  if r.artifact = r.result.request then p.messages
  else p.messages.map fun d => { d with line := 0 }

/-- The diagnostics of a result with the messages of a picture. -/
def Rendering.diagnostics (r : Rendering) (p : Picture) : List Diagnostic :=
  sortDiagnostics (r.result.diagnostics ++ r.messages p)

/-- The result that a compile of a request leads to. -/
def Compiled.resultOf (c : Compiled σ ν) (request : Nat) : Result :=
  ⟨request, c.source, c.diagnostics⟩

/-- The mode in which a result leaves the session. -/
def Result.mode (r : Result) : Mode := if r.hasErrors then .error else .ready

namespace View

/-! ## The moves -/

def submit (v : View σ ν) (text : String) : View σ ν :=
  { v with
    mode := .working
    calls := v.calls ++ [.mode .working]
    requests := Request.withdrawn v.requests ++ [⟨.ofString text, false⟩]
    lastText := some text
    running := v.running ++ [v.requests.length]
    errands := .compiling v.requests.length ::ₘ v.errands }

/-- The artifact of a request is kept in place of the one it had. -/
def store (v : View σ ν) (request : Nat) (a : Artifact σ ν) : View σ ν :=
  { v with artifacts := (request, a) :: v.artifacts.filter (·.1 != request) }

/-- The result of a compile is adopted, and its artifact if there is one. -/
def adopt (v : View σ ν) (request : Nat) (c : Compiled σ ν) : View σ ν :=
  { v with
    result := some (c.resultOf request)
    artifact := if c.artifact.isSome then some request else v.artifact
    artifacts := c.artifact.elim v.artifacts fun a => (v.store request a).artifacts
    diagnostics := c.diagnostics
    mode := (c.resultOf request).mode
    calls := v.calls ++ [.diagnostics c.diagnostics c.source, .mode (c.resultOf request).mode] }

/-- A picture is shown, with its messages unless they are shown already. -/
def display (v : View σ ν) (r : Rendering) (p : Picture) : View σ ν :=
  { v with
    diagnostics := r.diagnostics p
    calls := v.calls ++
      ((if r.diagnostics p = v.diagnostics then []
        else [.diagnostics (r.diagnostics p) r.result.source]) ++ [.picture p]) }

/-- What a step can do to a view, with the mark it leaves. -/
inductive Move (w : Workshop σ ν) (v : View σ ν) : Option Mark → View σ ν → Prop where
  /-- Nothing that matters. -/
  | stay : Move w v none v
  | edit (text : String) : Move w v (some (.edited text)) v
  /-- A text is turned down. -/
  | refuse (text : String) (h : v.closed = true ∨ v.lastText = some text) :
    Move w v (some (.offered text)) v
  | submit (text : String) (hopen : v.closed = false) (hnew : v.lastText ≠ some text) :
    Move w v (some (.offered text)) (v.submit text)
  | close : Move w v none { v with requests := Request.withdrawn v.requests, closed := true }
  /-- A compile comes to an outcome. -/
  | compile {k : Nat} {rest : Multiset (Errand σ ν)} (herrands : v.errands = .compiling k ::ₘ rest)
    (foundAt : Option Nat) (hfound : v.Live k → foundAt = none) :
    Move w v none { v with
      errands := .adopting k (w.compileFrom (Request.sourceIn v.requests k) foundAt) ::ₘ rest }
  /-- A compile comes to nothing. -/
  | abandon {k : Nat} {errand : Errand σ ν} {rest : Multiset (Errand σ ν)}
    (herrands : v.errands = errand ::ₘ rest) (hrequest : errand.request? = some k)
    (hwhy : v.Live k → v.closed = true ∨ ∃ halt, errand = .adopting k (.error halt)) :
    Move w v none { v with errands := rest, running := v.running.filter (· != k) }
  /-- A result is adopted and nothing is drawn. -/
  | adopt {k : Nat} {c : Compiled σ ν} {rest : Multiset (Errand σ ν)}
    (herrands : v.errands = .adopting k (.ok c) ::ₘ rest) (hlive : v.Live k) :
    Move w v (some (.adopted (c.resultOf k)))
      { v.adopt k c with errands := rest, running := v.running.filter (· != k) }
  /-- A result is adopted and the artifact that is shown then is to be drawn. -/
  | adoptDraw {k : Nat} {c : Compiled σ ν} {rest : Multiset (Errand σ ν)}
    (herrands : v.errands = .adopting k (.ok c) ::ₘ rest) (hlive : v.Live k) {artifact : Nat}
    (hartifact : (v.adopt k c).artifact = some artifact) :
    Move w v (some (.adopted (c.resultOf k))) { v.adopt k c with
      errands := .drawing ⟨.run k, some k, c.resultOf k, artifact⟩ ::ₘ rest }
  /-- A caller has the artifact drawn again. -/
  | redraw {id artifact : Nat} {result : Result} (hresult : v.result = some result)
    (hnewest : result.request + 1 = v.requests.length) (hartifact : v.artifact = some artifact)
    (hopen : v.closed = false) :
    Move w v none { v with
      errands := .drawing ⟨.command id, some result.request, result, artifact⟩ ::ₘ v.errands }
  /-- A draw leaves its artifact changed. -/
  | wear {k : Nat} (a : Artifact σ ν) (h : k ∈ v.artifacts.map Prod.fst) :
    Move w v none (v.store k a)
  /-- A picture comes to nothing. -/
  | drop {r : Rendering} {rest : Multiset (Errand σ ν)}
    (herrands : v.errands = .drawing r ::ₘ rest) :
    Move w v none { v with errands := rest, running := r.origin.leave v.running }
  | display {r : Rendering} {rest : Multiset (Errand σ ν)}
    (herrands : v.errands = .drawing r ::ₘ rest) (hlive : ∀ k, r.request = some k → v.Live k)
    (p : Picture) :
    Move w v (some (.shown r p))
      { v.display r p with errands := rest, running := r.origin.leave v.running }

/-- Only an adoption changes what is shown of texts. -/
theorem Move.of_not_adopted {w : Workshop σ ν} {v v' : View σ ν} {m : Option Mark}
    (h : Move w v m v') (hm : m.bind Mark.adopted? = none) :
    v'.result = v.result ∧ v'.artifact = v.artifact := by
  cases h with
  | adopt | adoptDraw => cases hm
  | _ => exact ⟨rfl, rfl⟩

end View

/-! ## Every step is a move -/

namespace Session

open View (Move)

variable (w : Workshop σ ν) (s : Session σ ν)

theorem view_submit_of_accepts {text : String} (h : s.accepts text = true) :
    (s.submit text).view = s.view.submit text := by
  have herrands : (s.submit text).errands = .compiling s.requests.length ::ₘ s.errands := by
    rw [submit_of_accepts h]
    exact errands_lineUp_of_some (s := s) (t := .begin s.requests.length) rfl
  have hcalls : (s.transcript ++ [Notice.mode .working]).filter Notice.isCall =
      s.transcript.filter Notice.isCall ++ [.mode .working] := by
    rw [List.filter_append]
    rfl
  unfold view face View.submit
  rw [herrands, submit_of_accepts h]
  dsimp only
  rw [hcalls]

theorem submit_move (text : String) :
    Move w s.view (some (.offered text)) (s.submit text).view := by
  cases h : s.accepts text with
  | true =>
    have hopen : s.closed = false ∧ s.lastText ≠ some text := by simpa [accepts] using h
    rw [view_submit_of_accepts s h]
    exact .submit text hopen.1 hopen.2
  | false =>
    have hclosed : s.closed = true ∨ s.lastText = some text := by
      simpa only [accepts, Bool.not_eq_false', Bool.or_eq_true, decide_eq_true_eq] using h
    rw [submit_of_not_accepts h]
    exact .refuse text hclosed

theorem edit_move (text : String) : Move w s.view (some (.edited text)) (s.edit w text).view := by
  have hview : (s.edit w text).view = s.view := by
    unfold edit
    split
    · rfl
    · dsimp only
      split
      · exact view_lineUp_of_none _ rfl
      · rfl
  rw [hview]
  exact .edit text

theorem advance_move (span : Int) : Move w s.view none (s.advance span).view := by
  have hview : (s.advance span).view = s.view := by
    unfold advance
    dsimp only
    split
    · split
      · exact view_lineUp_of_none _ rfl
      · rfl
    · rfl
  rw [hview]
  exact .stay

theorem view_close : s.close.view =
    { s.view with requests := Request.withdrawn s.view.requests, closed := true } := by
  unfold close
  rw [view_release, cancelCurrent_eq]
  rfl

theorem close_move : Move w s.view none s.close.view := by
  rw [view_close]
  exact .close

/-! ### Turns

The session is the one that a turn is taken from: the errand of the turn stands beside its own. -/

theorem abandon_move {k : Nat} {errand : Errand σ ν} (hrequest : errand.request? = some k)
    (hwhy : s.view.Live k → s.closed = true ∨ ∃ halt, errand = .adopting k (.error halt)) :
    Move w (s.view.beside errand) none (s.finish (.run k) (.ok ())).view := by
  rw [view_finish]
  exact .abandon rfl hrequest hwhy

theorem begin_move (k : Nat) :
    Move w (s.view.beside (.compiling k)) none (s.begin k).view := by
  unfold begin
  split
  · rename_i h
    refine abandon_move w s rfl fun hlive => .inl ?_
    rwa [live_view.mp hlive, Bool.false_or] at h
  · rw [view_hire]
    exact .stay

/-- What adopting a result does before anything is drawn. -/
def adopted (k : Nat) (c : Compiled σ ν) : Session σ ν :=
  let s := { s with result := some (c.resultOf k) }
  let s := match c.artifact with
    | some a => { s.store k a with artifact := some k }
    | none => s
  (s.publish c.diagnostics c.source).setMode (c.resultOf k).mode

theorem adopt_of_live {k : Nat} (c : Compiled σ ν) (hlive : s.view.Live k) :
    s.adopt k (.ok c) = (s.adopted k c).startRender (.run k) (some k) (c.resultOf k) := by
  show (if s.isCancelled k then _ else _) = _
  rw [if_neg (by rw [live_view.mp hlive]; exact Bool.false_ne_true)]
  rfl

theorem view_adopted (k : Nat) (c : Compiled σ ν) : (s.adopted k c).view = s.view.adopt k c := by
  have hcalls : ∀ m : Mode, (s.transcript ++ [Notice.diagnostics c.diagnostics c.source] ++
      [Notice.mode m]).filter Notice.isCall =
      s.transcript.filter Notice.isCall ++ [.diagnostics c.diagnostics c.source, .mode m] := by
    intro m
    rw [List.append_assoc, List.filter_append]
    rfl
  unfold adopted View.adopt
  cases c.artifact with
  | none =>
    unfold view face
    dsimp only [publish, setMode, announce]
    rw [hcalls]
    rfl
  | some a =>
    unfold view face
    dsimp only [publish, setMode, announce, store]
    rw [hcalls]
    rfl

theorem adopt_move (k : Nat) (outcome : Except Halt (Compiled σ ν)) :
    Move w (s.view.beside (.adopting k outcome))
      (s.turnMark? (.adopt k outcome)) (s.adopt k outcome).view := by
  cases outcome with
  | error halt => exact abandon_move w s rfl fun _ => .inr ⟨halt, rfl⟩
  | ok c =>
    by_cases hlive : s.view.Live k
    · have hmark : s.turnMark? (.adopt k (.ok c)) = some (.adopted (c.resultOf k)) :=
        if_neg (by rw [live_view.mp hlive]; exact Bool.false_ne_true)
      have herrands := View.beside_errands s.view (.adopting k (.ok c))
      rw [hmark, adopt_of_live s c hlive]
      rcases view_startRender (s.adopted k c) (.run k) (some k) (c.resultOf k) with h | h
      · rw [h, view_adopted]
        exact .adopt herrands hlive
      · obtain ⟨artifact, hartifact, -, h⟩ := h
        have hartifact' : (s.view.adopt k c).artifact = some artifact := by
          rw [← view_adopted]
          exact hartifact
        rw [h, view_adopted]
        exact .adoptDraw herrands hlive hartifact'
    · have hmark : s.turnMark? (.adopt k (.ok c)) = none := if_pos (not_live_view.mp hlive)
      have hfinish : s.adopt k (.ok c) = s.finish (.run k) (.ok ()) :=
        if_pos (not_live_view.mp hlive)
      rw [hmark, hfinish]
      exact abandon_move w s rfl fun h => absurd h hlive

/-- What showing a picture does before its run or its caller has ended. -/
def displayed (r : Rendering) (p : Picture) : Session σ ν :=
  (if r.diagnostics p = s.diagnostics then s
    else s.publish (r.diagnostics p) r.result.source).announce (.picture p)

theorem view_displayed (r : Rendering) (p : Picture) :
    (s.displayed r p).view = s.view.display r p := by
  unfold displayed View.display
  by_cases h : r.diagnostics p = s.diagnostics
  · have h' : r.diagnostics p = s.view.diagnostics := h
    unfold view face
    dsimp only
    rw [if_pos h, if_pos h, h]
    dsimp only [announce]
    rw [List.filter_append]
    rfl
  · unfold view face
    dsimp only
    rw [if_neg h, if_neg h]
    dsimp only [announce, publish]
    rw [List.append_assoc, List.filter_append]
    rfl

theorem present_of_live {r : Rendering} (p : Picture)
    (hlive : ∀ k, r.request = some k → s.view.Live k) :
    ∃ outcome, s.present w r (.ok p) = (s.displayed r p).finish r.origin outcome := by
  have hnot : ¬ r.request.any s.isCancelled = true := by
    cases hrequest : r.request with
    | none => exact Bool.false_ne_true
    | some k =>
      show ¬ s.isCancelled k = true
      rw [live_view.mp (hlive k hrequest)]
      exact Bool.false_ne_true
  show ∃ outcome, (if r.request.any s.isCancelled then _ else _) = _
  rw [if_neg hnot]
  exact ⟨_, rfl⟩

theorem drop_move (r : Rendering) (outcome : Except Fault Unit) :
    Move w (s.view.beside (.drawing r)) none (s.finish r.origin outcome).view := by
  rw [view_finish]
  exact .drop (View.beside_errands s.view (.drawing r))

theorem present_move (r : Rendering) (outcome : Except Fault Picture) :
    Move w (s.view.beside (.drawing r)) (s.turnMark? (.present r outcome))
      (s.present w r outcome).view := by
  cases outcome with
  | error fault =>
    show Move w _ none _
    rcases present_error w s r fault with ⟨line, h⟩ | ⟨other, h⟩
    · rw [h, view_finish, view_announce s rfl]
      exact .drop (View.beside_errands s.view (.drawing r))
    · rw [h]
      exact drop_move w s r _
  | ok p =>
    by_cases hcancelled : r.request.any s.isCancelled = true
    · have hmark : s.turnMark? (.present r (.ok p)) = none := if_pos hcancelled
      have hfinish : s.present w r (.ok p) = s.finish r.origin (.ok ()) := if_pos hcancelled
      rw [hmark, hfinish]
      exact drop_move w s r _
    · have hmark : s.turnMark? (.present r (.ok p)) = some (.shown r p) := if_neg hcancelled
      have hlive : ∀ k, r.request = some k → s.view.Live k := by
        intro k hrequest
        rw [hrequest] at hcancelled
        exact live_view.mpr (by simpa using hcancelled)
      obtain ⟨outcome, hfinish⟩ := present_of_live w s p hlive
      rw [hmark, hfinish, view_finish, view_displayed]
      exact .display (View.beside_errands s.view (.drawing r)) hlive p

theorem wake_move (serial : Nat) :
    Move w s.view (s.turnMark? (.wake serial)) (s.take w (.wake serial)).view := by
  cases htimer : s.timer with
  | none =>
    have hmark : s.turnMark? (.wake serial) = none := by
      simp only [turnMark?, htimer]
    have hstay : s.take w (.wake serial) = s := by
      simp only [take, htimer]
    rw [hmark, hstay]
    exact .stay
  | some timer =>
    have hmark : s.turnMark? (.wake serial) =
        if timer.serial = serial then some (.offered timer.text) else none := by
      simp only [turnMark?, htimer]
    have htake : s.take w (.wake serial) = if timer.serial = serial then
        ({ s with timer := none }.submit timer.text).release else s := by
      simp only [take, htimer]
    rw [hmark, htake]
    split
    · rw [view_release]
      exact submit_move w { s with timer := none } timer.text
    · exact .stay

theorem render_move (id : Nat) : Move w s.view none (s.render (.command id)).view := by
  unfold render
  split
  · rw [view_finish]
    exact .stay
  · rename_i result hresult
    split
    · rename_i hcurrent
      have hshown : s.current? = some result.request := by
        rw [hcurrent]
        unfold shown?
        rw [hresult]
        rfl
      rw [hshown]
      rcases view_startRender s (.command id) (some result.request) result with h | h
      · rw [h]
        exact .stay
      · obtain ⟨artifact, hartifact, hopen, h⟩ := h
        rw [h]
        exact .redraw hresult (current?_eq_some.mp hshown) hartifact hopen
    · rw [view_finish]
      exact .stay

theorem startCommand_move (id : Nat) (command : Command) :
    Move w s.view none (s.startCommand id command).view := by
  cases command with
  | render => exact render_move w s id
  | resize width height =>
    show Move w _ none (ite _ _ _ : Session σ ν).view
    split
    · rw [view_announce s rfl]
      exact .stay
    · exact render_move w { s with width := width, height := height } id
  | flush =>
    show Move w _ none (s.recheck id).view
    rw [view_recheck]
    exact .stay

theorem take_move_of_some {t : Turn σ ν} {errand : Errand σ ν} (ht : t.errand? = some errand) :
    Move w (s.view.beside errand) (s.turnMark? t) (s.take w t).view := by
  cases t with
  | begin k =>
    obtain rfl := Option.some.inj ht
    exact begin_move w s k
  | adopt k outcome =>
    obtain rfl := Option.some.inj ht
    exact adopt_move w s k outcome
  | present r outcome =>
    obtain rfl := Option.some.inj ht
    exact present_move w s r outcome
  | later next =>
    show Move w _ none (s.lineUp next).view
    rw [view_lineUp_of_some s (t := next) ht]
    exact .stay
  | wake serial => cases ht
  | command id command => cases ht
  | recheck id => cases ht

theorem take_move_of_none {t : Turn σ ν} (ht : t.errand? = none) :
    Move w s.view (s.turnMark? t) (s.take w t).view := by
  cases t with
  | wake serial => exact wake_move w s serial
  | command id command => exact startCommand_move w s id command
  | recheck id =>
    show Move w _ none (s.recheck id).view
    rw [view_recheck]
    exact .stay
  | later next =>
    show Move w _ none (s.lineUp next).view
    rw [view_lineUp_of_none s (t := next) ht]
    exact .stay
  | begin k => cases ht
  | adopt k outcome => cases ht
  | present r outcome => cases ht

theorem turnAt_move (place : Nat) :
    Move w s.view (s.mark? (.turn place)) (s.turnAt w place).view := by
  unfold turnAt
  cases hready : s.ready[place]? with
  | none =>
    rw [mark?_turn_of_none hready]
    exact .stay
  | some t =>
    have hmark : s.mark? (.turn place) =
        { s with ready := s.ready.eraseIdx place }.turnMark? t := mark?_turn_of_some hready
    rw [hmark]
    cases ht : t.errand? with
    | some errand =>
      rw [view_of_ready_some hready ht]
      exact take_move_of_some w _ ht
    | none =>
      rw [view_of_ready_none hready ht]
      exact take_move_of_none w _ ht

/-! ### Jobs -/

theorem view_runDraw (r : Rendering) (width height : Int) :
    (s.runDraw w r width height).1.view = s.view ∨
      ∃ a, r.artifact ∈ s.view.artifacts.map Prod.fst ∧
        (s.runDraw w r width height).1.view = s.view.store r.artifact a := by
  unfold runDraw
  split
  · rename_i artifact _ hartifact
    split
    · exact .inl rfl
    · exact .inr ⟨_, mem_artifacts_of_artifactOf? hartifact, rfl⟩
  · exact .inl rfl

theorem complete_compile_move (k : Nat) (foundAt : Option Nat) :
    Move w (s.view.beside (.compiling k)) none
      (s.lineUpLater (.adopt k (w.compileFrom (Request.sourceIn s.requests k)
        (if s.isCancelled k then foundAt else none)))).view := by
  unfold lineUpLater
  rw [view_lineUp_of_some s (t := .later (.adopt k _)) rfl]
  refine .compile (View.beside_errands s.view (.compiling k)) _ fun hlive => ?_
  exact if_neg (by rw [live_view.mp hlive]; exact Bool.false_ne_true)

theorem complete_draw_move (r : Rendering) (width height : Int) (outcome : Except Fault Picture) :
    Move w (s.view.beside (.drawing r)) none
      ((s.runDraw w r width height).1.lineUpLater (.present r outcome)).view := by
  unfold lineUpLater
  rw [view_lineUp_of_some _ (t := .later (.present r _)) rfl]
  rcases view_runDraw w s r width height with h | ⟨a, hkept, h⟩
  · rw [h]
    exact .stay
  · rw [h]
    exact .wear (v := s.view.beside (.drawing r)) a hkept

theorem complete_move (foundAt : Option Nat) :
    Move w s.view none (s.complete w foundAt).view := by
  unfold complete
  split
  · exact .stay
  · rename_i k rest hjobs
    rw [view_of_jobs hjobs]
    exact complete_compile_move w { s with jobs := rest } k foundAt
  · rename_i r width height rest hjobs
    rw [view_of_jobs hjobs]
    exact complete_draw_move w { s with jobs := rest } r width height _

/-- **Steps as moves.** Every step does one of the moves to the view, with its mark. -/
theorem step_move (e : Event) : Move w s.view (s.mark? e) (s.step w e).view := by
  cases e with
  | edit text => exact edit_move w s text
  | submit text => exact submit_move w s text
  | pass span => exact advance_move w s span
  | turn place => exact turnAt_move w s place
  | order id command =>
    show Move w _ none (s.lineUp _).view
    rw [view_lineUp_of_none s rfl]
    exact .stay
  | start id command => exact startCommand_move w s id command
  | complete foundAt => exact complete_move w s foundAt
  | equip plan => exact .stay
  | close => exact close_move w s

end Session

end LiveSketch

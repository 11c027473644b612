import LiveSketch.Proofs.Entry.Draws
import LiveSketch.Proofs.Session.Coherence
import LiveSketch.Proofs.Session.Easel

/-!
# What an orderly step does to the easel

An orderly step only takes the first picture away, turns the first draft into the last picture, or
adds a draft at the end. `Stroke` lists what a step can do to the easel, with what it takes for it,
and `step_stroke` says that there is nothing else.
-/

namespace LiveSketch

variable {σ ν : Type}

/-! ## Strokes -/

/-- The picture that was shown. -/
def Mark.exhibit? : Mark → Option Exhibit
  | shown r p => some ⟨r, p⟩
  | edited _ | offered _ | adopted _ => none

/-- The pictures shown in the course of a history. -/
def exhibits (ms : List Mark) : List Exhibit := ms.filterMap Mark.exhibit?

/-- A request to draw for which the script is handed what all scripts share. -/
def Workshop.requestOf (w : Workshop σ ν) (shared : Option σ) (canvas : Canvas)
    (width height : Int) : DrawRequest σ :=
  ⟨canvas, width, height, w.enter shared⟩

/-- The artifact is that of a source, after some draws. -/
def Workshop.Grows (w : Workshop σ ν) (source : Source) (a : Artifact σ ν) : Prop :=
  ∃ c a₀ qs, w.outcome source = .ok c ∧ c.artifact = some a₀ ∧
    (∀ q ∈ qs, ∃ shared, q.meanwhile = w.enter shared) ∧ a = a₀.after w.engine qs

namespace Easel

/-- The result of a compile is adopted, and its artifact if there is one. -/
def adopt (v : Easel σ ν) (k : Nat) (c : Compiled σ ν) : Easel σ ν :=
  { v with
    result := some (c.resultOf k)
    artifact := if c.artifact.isSome then some k else v.artifact
    artifacts := c.artifact.elim v.artifacts fun a => (k, a) :: v.artifacts.filter (·.1 != k) }

/-- What an orderly step can do to an easel, with the mark it leaves. -/
inductive Stroke (w : Workshop σ ν) (v : Easel σ ν) : Option Mark → Easel σ ν → Prop where
  /-- Nothing that matters. -/
  | rest {m : Option Mark} (hm : m.bind Mark.exhibit? = none) : Stroke w v m v
  /-- The result shown is not that of a live request any more. -/
  | retire {m : Option Mark} (hm : m.bind Mark.exhibit? = none) {requests : List Request}
    (hlength : v.requests.length ≤ requests.length)
    (hsource : ∀ k < v.requests.length, Request.sourceIn requests k = Request.sourceIn v.requests k)
    (hstale : ∀ r, v.result = some r → ¬ Request.Live requests r.request) :
    Stroke w v m { v with requests := requests }
  /-- The size changes while nothing is shown for a live request. -/
  | resize (width height : Int)
    (hstale : ∀ r k, v.result = some r → v.artifact = some k → ¬ Request.Live v.requests r.request) :
    Stroke w v none { v with width := width, height := height }
  /-- The artifact shown is to be drawn again, perhaps in another size. -/
  | redraw (id : Nat) {r : Result} {k : Nat} (hresult : v.result = some r)
    (hartifact : v.artifact = some k) (width height : Int) :
    Stroke w v none { v with
      width := width
      height := height
      drafts := v.drafts ++ [⟨⟨.command id, some r.request, r, k⟩, width, height⟩] }
  /-- A result is adopted and there is nothing to draw. -/
  | adopt {k : Nat} {c : Compiled σ ν} (hlt : k < v.requests.length)
    (hc : w.outcome (Request.sourceIn v.requests k) = .ok c)
    (hartifact : (v.adopt k c).artifact = none) :
    Stroke w v (some (.adopted (c.resultOf k))) (v.adopt k c)
  /-- A result is adopted and the artifact that is shown then is to be drawn. -/
  | adoptDraw {k : Nat} {c : Compiled σ ν} (hlt : k < v.requests.length)
    (hc : w.outcome (Request.sourceIn v.requests k) = .ok c) {artifact : Nat}
    (hartifact : (v.adopt k c).artifact = some artifact) :
    Stroke w v (some (.adopted (c.resultOf k))) { v.adopt k c with
      drafts := v.drafts ++ [⟨⟨.run k, some k, c.resultOf k, artifact⟩, v.width, v.height⟩] }
  /-- The first draft becomes the last picture finished, and its artifact has one more draw. -/
  | draw {x : Exhibit} {rest : List Draft} (hdrafts : v.drafts = x.draft :: rest)
    {a : Artifact σ ν} (hkept : (x.rendering.artifact, a) ∈ v.artifacts) {plan : SurfacePlan}
    (hcanvas : plan.make x.picture.width x.picture.height = .ok x.picture.canvas)
    (shared : Option σ)
    (hanswer : a.answer w.engine
        (w.requestOf shared x.picture.canvas x.picture.width x.picture.height) =
      ⟨x.picture.calls, .ok x.picture.messages⟩) :
    Stroke w v none { v with
      drafts := rest
      finished := v.finished ++ [x]
      artifacts := (x.rendering.artifact, a.after w.engine
        [w.requestOf shared x.picture.canvas x.picture.width x.picture.height]) ::
          v.artifacts.filter (·.1 != x.rendering.artifact) }
  /-- The first picture is not shown, for its request was cancelled. -/
  | discard {x : Exhibit} {rest : List Exhibit} (hfinished : v.finished = x :: rest) {k : Nat}
    (hrequest : x.rendering.request = some k) (hdead : ¬ Request.Live v.requests k) :
    Stroke w v none { v with finished := rest }
  /-- The first picture is shown. -/
  | display {x : Exhibit} {rest : List Exhibit} (hfinished : v.finished = x :: rest) :
    Stroke w v (some (.shown x.rendering x.picture)) { v with finished := rest }

end Easel

/-! ## Every orderly step is a stroke -/

namespace Session

open Easel (Stroke)

variable {w : Workshop σ ν} {s : Session σ ν}

/-- A submitted text or the end of the session retires the result shown. -/
theorem submit_stroke (hs : s.view.Coherent w) (text : String) :
    Stroke w s.easel (some (.offered text)) (s.submit text).easel := by
  cases h : s.accepts text with
  | false =>
    rw [submit_of_not_accepts h]
    exact .rest rfl
  | true =>
    rw [easel_submit_of_accepts s h]
    have hlength : (Request.withdrawn s.requests).length = s.requests.length :=
      Request.length_withdrawn
    refine .retire rfl ?_ (fun k hk => ?_) fun r hr hlive => ?_
    · rw [List.length_append, hlength]
      exact Nat.le_add_right _ _
    · rw [Request.sourceIn_append (by rwa [hlength]), Request.sourceIn_withdrawn]
      rfl
    · have hlt : r.request < s.requests.length := (hs.scheduled.result r hr).1
      have hnew : r.request = s.requests.length :=
        (View.live_submit hs.inOrder).mp hlive
      exact absurd hnew (Nat.ne_of_lt hlt)

theorem close_stroke (hs : s.view.Coherent w) : Stroke w s.easel none s.close.easel := by
  rw [easel_close]
  refine .retire rfl (Nat.le_of_eq Request.length_withdrawn.symm)
    (fun k _ => Request.sourceIn_withdrawn) fun r hr hlive => ?_
  obtain ⟨hold, hnewest⟩ := Request.live_withdrawn.mp hlive
  exact hnewest ((hs.inOrder.live_iff _).mp hold).1

/-- Drawing the artifact again begins a picture, unless nothing is shown for a live request. -/
theorem easel_render (hs : s.view.Coherent w) (hequipped : s.surface.isSome = true) (id : Nat) :
    (s.render (.command id)).easel = s.easel ∧
        (∀ r k, s.result = some r → s.artifact = some k → ¬ s.view.Live r.request) ∨
      ∃ r k, s.result = some r ∧ s.artifact = some k ∧ (s.render (.command id)).easel =
        { s.easel with drafts := s.easel.drafts ++
          [⟨⟨.command id, some r.request, r, k⟩, s.width, s.height⟩] } := by
  unfold render
  split
  · rename_i hresult
    refine .inl ⟨easel_finish s _ _, fun r k hr => ?_⟩
    rw [hresult] at hr
    cases hr
  · rename_i r hresult
    have hshown : s.shown? = some r.request := shown?_of_result hresult
    split
    · rename_i hcurrent
      rw [hcurrent, hshown]
      rcases easel_startRender s hequipped (.command id) (some r.request) r with
        ⟨heasel, hwhy⟩ | ⟨k, hartifact, heasel⟩
      · refine .inl ⟨heasel, fun r' k _ hk hlive => ?_⟩
        have hopen : s.closed = false := ((hs.inOrder.live_iff r'.request).mp hlive).2
        rcases hwhy with hnone | hclosed
        · rw [hnone] at hk
          cases hk
        · rw [hclosed] at hopen
          cases hopen
      · exact .inr ⟨r, k, hresult, hartifact, heasel⟩
    · rename_i hcurrent
      refine .inl ⟨easel_finish s _ _, fun r' k hr _ hlive => hcurrent ?_⟩
      obtain rfl := Option.some.inj (hresult.symm.trans hr)
      rw [hshown]
      exact current?_eq_some.mpr ((hs.inOrder.live_iff r.request).mp hlive).1

theorem render_stroke (hs : s.view.Coherent w) (hequipped : s.surface.isSome = true) (id : Nat)
    (width height : Int) :
    Stroke w s.easel none
      ({ s with width := width, height := height }.render (.command id)).easel := by
  rcases easel_render (s := { s with width := width, height := height }) hs hequipped id with
    ⟨heasel, hstale⟩ | ⟨r, k, hresult, hartifact, heasel⟩
  · rw [heasel]
    exact .resize (v := s.easel) width height hstale
  · rw [heasel]
    exact .redraw (v := s.easel) id hresult hartifact width height

theorem startCommand_stroke (hs : s.view.Coherent w) (hequipped : s.surface.isSome = true) (id : Nat)
    (command : Command) : Stroke w s.easel none (s.startCommand id command).easel := by
  cases command with
  | render => exact render_stroke hs hequipped id s.width s.height
  | resize width height =>
    show Stroke w _ none (ite _ _ _ : Session σ ν).easel
    split
    · exact .rest rfl
    · exact render_stroke hs hequipped id width height
  | flush =>
    show Stroke w _ none (s.recheck id).easel
    rw [easel_recheck]
    exact .rest rfl

/-! ### Turns

The session is the one that a turn is taken from. -/

/-- Taking over an outcome adopts a result of a live request, or nothing. -/
theorem adopt_stroke (ho : s.view.InOrder) (hequipped : s.surface.isSome = true) (k : Nat)
    (outcome : Except Halt (Compiled σ ν))
    (houtcome : ∀ c, outcome = .ok c → s.view.Live k →
      w.outcome (Request.sourceIn s.requests k) = .ok c) :
    Stroke w s.easel (s.turnMark? (.adopt k outcome)) (s.adopt k outcome).easel := by
  cases outcome with
  | error halt =>
    show Stroke w _ none (s.finish (.run k) (.ok ())).easel
    rw [easel_finish]
    exact .rest rfl
  | ok c =>
    by_cases hlive : s.view.Live k
    · have hmark : s.turnMark? (.adopt k (.ok c)) = some (.adopted (c.resultOf k)) :=
        if_neg (by rw [live_view.mp hlive]; exact Bool.false_ne_true)
      have hc := houtcome c rfl hlive
      have hopen : s.closed = false := ((ho.live_iff k).mp hlive).2
      obtain ⟨heasel, hclosed, hsurface⟩ : (s.adopted k c).easel = s.easel.adopt k c ∧
          (s.adopted k c).closed = s.closed ∧ (s.adopted k c).surface = s.surface := by
        unfold adopted Easel.adopt
        cases c.artifact <;> exact ⟨rfl, rfl, rfl⟩
      have hartifact : (s.adopted k c).artifact = (s.easel.adopt k c).artifact :=
        congrArg Easel.artifact heasel
      have hsize : (s.adopted k c).width = s.width ∧ (s.adopted k c).height = s.height :=
        ⟨congrArg Easel.width heasel, congrArg Easel.height heasel⟩
      rw [hmark, adopt_of_live s c hlive]
      rcases easel_startRender (s.adopted k c) (by rwa [hsurface]) (.run k) (some k)
        (c.resultOf k) with ⟨hstart, hwhy⟩ | ⟨artifact, hsome, hstart⟩
      · rw [hstart, heasel]
        refine .adopt hlive.lt hc ?_
        rcases hwhy with hnone | hshut
        · rw [← hartifact, hnone]
        · rw [hclosed, hopen] at hshut
          cases hshut
      · rw [hstart, heasel, hsize.1, hsize.2]
        exact .adoptDraw hlive.lt hc (by rw [← hartifact, hsome])
    · have hmark : s.turnMark? (.adopt k (.ok c)) = none := if_pos (not_live_view.mp hlive)
      have hfinish : s.adopt k (.ok c) = s.finish (.run k) (.ok ()) :=
        if_pos (not_live_view.mp hlive)
      rw [hmark, hfinish, easel_finish]
      exact .rest rfl

/-- Presenting the first picture finished shows it, or throws it away. -/
theorem present_stroke (r : Rendering) (p : Picture) {v : Easel σ ν}
    (hv : v = { s.easel with finished := ⟨r, p⟩ :: s.easel.finished }) :
    Stroke w v (s.turnMark? (.present r (.ok p))) (s.present w r (.ok p)).easel := by
  have hrest : s.easel = { v with finished := s.easel.finished } := by rw [hv]
  have hfinished : v.finished = ⟨r, p⟩ :: s.easel.finished := by rw [hv]
  by_cases hcancelled : r.request.any s.isCancelled = true
  · have hmark : s.turnMark? (.present r (.ok p)) = none := if_pos hcancelled
    have hfinish : s.present w r (.ok p) = s.finish r.origin (.ok ()) := if_pos hcancelled
    obtain ⟨k, hk, hdead⟩ : ∃ k, r.request = some k ∧ s.isCancelled k = true := by
      cases hk : r.request with
      | none => simp [hk] at hcancelled
      | some k => exact ⟨k, rfl, by simpa [hk] using hcancelled⟩
    rw [hmark, hfinish, easel_finish, hrest]
    refine .discard hfinished hk fun hlive => not_live_view.mpr hdead ?_
    rw [hv] at hlive
    exact hlive
  · have hmark : s.turnMark? (.present r (.ok p)) = some (.shown r p) := if_neg hcancelled
    have hlive : ∀ k, r.request = some k → s.view.Live k := by
      intro k hk
      rw [hk] at hcancelled
      exact live_view.mpr (by simpa using hcancelled)
    obtain ⟨outcome, hpresent⟩ := present_of_live w s p hlive
    have hdisplayed : (s.displayed r p).easel = s.easel := by
      unfold displayed
      split <;> rfl
    rw [hmark, hpresent, easel_finish, hdisplayed, hrest]
    exact .display (x := ⟨r, p⟩) hfinished

end Session

/-! ### Queues -/

section Queue

variable {α β : Type} {task? : α → Option β} {row : List α} {place : Nat} {a : α} {b : β}

/-- The first of a queue with a task is in front of the others with one. -/
theorem filterMap_eq_cons_of_first (ha : row[place]? = some a) (hb : task? a = some b)
    (hfirst : ∀ a' ∈ row.take place, task? a' = none) :
    row.filterMap task? = b :: (row.eraseIdx place).filterMap task? := by
  obtain ⟨hlt, rfl⟩ := List.getElem?_eq_some_iff.mp ha
  have hbefore : (row.take place).filterMap task? = [] := List.filterMap_eq_nil_iff.mpr hfirst
  conv_lhs => rw [← List.take_append_drop place row, List.drop_eq_getElem_cons hlt]
  rw [List.eraseIdx_eq_take_drop_succ, List.filterMap_append, List.filterMap_append, hbefore,
    List.filterMap_cons_some hb]
  rfl

theorem filterMap_eraseIdx_of_none (ha : row[place]? = some a) (hb : task? a = none) :
    (row.eraseIdx place).filterMap task? = row.filterMap task? := by
  obtain ⟨hlt, rfl⟩ := List.getElem?_eq_some_iff.mp ha
  conv_rhs => rw [← List.take_append_drop place row, List.drop_eq_getElem_cons hlt]
  rw [List.eraseIdx_eq_take_drop_succ, List.filterMap_append, List.filterMap_append,
    List.filterMap_cons_none hb]

end Queue

namespace Session

open Easel (Stroke)

variable {w : Workshop σ ν} {s : Session σ ν} {place : Nat} {t : Turn σ ν}

/-- What an orderly turn has to do comes before what the other turns have to do. -/
theorem first_of_not_overtakes {task? : Turn σ ν → Option Exhibit} {x : Exhibit}
    (h : s.overtakes task? place = false) (ht : s.ready[place]? = some t) (hx : task? t = some x) :
    ∀ t' ∈ s.ready.take place, task? t' = none := by
  intro t' ht'
  unfold overtakes at h
  rw [ht, Option.bind_some, hx, Option.isSome_some, Bool.true_and, List.any_eq_false] at h
  simpa using h t' ht'

theorem plain_eraseIdx (hplain : s.easel.plain = true) (place : Nat) :
    ({ s with ready := s.ready.eraseIdx place } : Session σ ν).easel.plain = true := by
  have hall : s.ready.all Turn.isPlain = true := hplain
  show (s.ready.eraseIdx place).all Turn.isPlain = true
  rw [List.all_eq_true] at hall ⊢
  exact fun t ht => hall t ((List.eraseIdx_sublist _ _).mem ht)

/-- A turn without a picture can be taken from the queue. -/
theorem easel_of_taken (hplain : s.easel.plain = true) (ht : s.ready[place]? = some t)
    (hnoticed : t.noticed? = none) (hunnoticed : t.unnoticed? = none) :
    ({ s with ready := s.ready.eraseIdx place } : Session σ ν).easel = s.easel := by
  have hplain' := plain_eraseIdx hplain place
  have hfinished : ({ s with ready := s.ready.eraseIdx place } : Session σ ν).finished =
      s.finished := by
    unfold finished
    dsimp only
    rw [filterMap_eraseIdx_of_none ht hnoticed, filterMap_eraseIdx_of_none ht hunnoticed]
  have hsame : ({ s with ready := s.ready.eraseIdx place } : Session σ ν).easel.plain =
      s.easel.plain := hplain'.trans hplain.symm
  unfold easel at hsame ⊢
  rw [hfinished]
  exact congrArg (Easel.mk _ _ _ _ _ _ _ _ _) hsame

/-- A turn that shows a picture has the first one finished. -/
theorem easel_of_taken_noticed (hplain : s.easel.plain = true) (ht : s.ready[place]? = some t)
    {x : Exhibit} (hx : t.noticed? = some x) (hunnoticed : t.unnoticed? = none)
    (horder : s.overtakes Turn.noticed? place = false) :
    s.easel = { ({ s with ready := s.ready.eraseIdx place } : Session σ ν).easel with
      finished := x :: ({ s with ready := s.ready.eraseIdx place } : Session σ ν).easel.finished } := by
  have hplain' := plain_eraseIdx hplain place
  have hfinished : s.finished =
      x :: ({ s with ready := s.ready.eraseIdx place } : Session σ ν).finished := by
    unfold finished
    dsimp only
    rw [filterMap_eq_cons_of_first ht hx (first_of_not_overtakes horder ht hx),
      filterMap_eraseIdx_of_none ht hunnoticed]
    rfl
  have hsame : s.easel.plain =
      ({ s with ready := s.ready.eraseIdx place } : Session σ ν).easel.plain :=
    hplain.trans hplain'.symm
  unfold easel at hsame ⊢
  rw [hfinished]
  exact congrArg (Easel.mk _ _ _ _ _ _ _ _ _) hsame

/-- A turn that notices a picture leaves it where it stands: behind those noticed before. -/
theorem easel_notice (hplain : s.easel.plain = true) {next : Turn σ ν}
    (ht : s.ready[place]? = some (.later next)) (horder : s.overtakes Turn.unnoticed? place = false) :
    (({ s with ready := s.ready.eraseIdx place } : Session σ ν).lineUp next).easel = s.easel := by
  have hplain' := plain_eraseIdx hplain place
  have hmem : Turn.later next ∈ s.ready := List.mem_of_getElem? ht
  have hnext : next.unnoticed? = none ∧ next.isPlain = true := by
    have hall : s.ready.all Turn.isPlain = true := hplain
    have hlater := List.all_eq_true.mp hall _ hmem
    cases next with
    | later _ => cases hlater
    | _ => exact ⟨rfl, rfl⟩
  cases hx : next.noticed? with
  | none =>
    rw [easel_lineUp _ ⟨hx, hnext.1, hnext.2⟩]
    exact easel_of_taken hplain ht rfl hx
  | some x =>
    have hlate : (Turn.later next).unnoticed? = some x := hx
    have hfinished : (({ s with ready := s.ready.eraseIdx place } : Session σ ν).lineUp next).finished =
        s.finished := by
      unfold finished lineUp
      dsimp only
      rw [List.filterMap_append, List.filterMap_append, filterMap_eraseIdx_of_none ht rfl,
        filterMap_eq_cons_of_first ht hlate (first_of_not_overtakes horder ht hlate),
        List.filterMap_cons_some hx, List.filterMap_cons_none hnext.1]
      simp
    have hsame : (({ s with ready := s.ready.eraseIdx place } : Session σ ν).lineUp next).easel.plain =
        s.easel.plain := by
      rw [hplain]
      have hall : (s.ready.eraseIdx place).all Turn.isPlain = true := hplain'
      show (s.ready.eraseIdx place ++ [next]).all Turn.isPlain = true
      rw [List.all_append, hall]
      simp [hnext.2]
    unfold easel at hsame ⊢
    rw [hfinished]
    exact congrArg (Easel.mk _ _ _ _ _ _ _ _ _) hsame

/-- The outcome that a live request is about to take over is that of its text. -/
theorem outcome_of_adopt (hs : s.view.Coherent w) {k : Nat} {outcome : Except Halt (Compiled σ ν)}
    (ht : s.ready[place]? = some (.adopt k outcome)) {c : Compiled σ ν} (hc : outcome = .ok c) :
    w.outcome (Request.sourceIn s.requests k) = .ok c := by
  have hmem : Errand.adopting k outcome ∈ s.view.errands := by
    rw [view_of_ready_some ht rfl, View.beside_errands]
    exact Multiset.mem_cons_self _ _
  obtain ⟨foundAt, houtcome, -⟩ := hs.faithful.adopting k outcome hmem
  exact Workshop.outcome_of_compileFrom (houtcome.symm.trans hc)

theorem wake_stroke (hs : s.view.Coherent w) (serial : Nat) :
    Stroke w s.easel (s.turnMark? (.wake serial)) (s.take w (.wake serial)).easel := by
  cases htimer : s.timer with
  | none =>
    simp only [turnMark?, take, htimer]
    exact .rest rfl
  | some timer =>
    simp only [turnMark?, take, htimer]
    split
    · rw [easel_release]
      exact submit_stroke (s := { s with timer := none }) hs timer.text
    · exact .rest rfl

theorem turnAt_stroke (hs : s.view.Coherent w) (hequipped : s.surface.isSome = true)
    (hplain : s.easel.plain = true) (horder : s.inOrder (.turn place) = true) :
    Stroke w s.easel (s.mark? (.turn place)) (s.turnAt w place).easel := by
  obtain ⟨hfirst, hfirst'⟩ : s.overtakes Turn.noticed? place = false ∧
      s.overtakes Turn.unnoticed? place = false := by simpa [inOrder] using horder
  unfold turnAt
  cases ht : s.ready[place]? with
  | none =>
    rw [mark?_turn_of_none ht]
    exact .rest rfl
  | some t =>
    rw [mark?_turn_of_some ht]
    dsimp only
    cases t with
    | begin k =>
      rw [← easel_of_taken hplain ht rfl rfl]
      show Stroke w _ none (ite _ _ _ : Session σ ν).easel
      split
      · rw [easel_finish]
        exact .rest rfl
      · rw [easel_hire_compile]
        exact .rest rfl
    | adopt k outcome =>
      rw [← easel_of_taken hplain ht rfl rfl]
      exact adopt_stroke (s := { s with ready := s.ready.eraseIdx place })
        ⟨hs.inOrder.live_iff, hs.inOrder.fresh, hs.inOrder.lastText⟩ hequipped k outcome
        fun c hc _ => outcome_of_adopt hs ht hc
    | present r outcome =>
      cases outcome with
      | error fault =>
        rw [← easel_of_taken hplain ht rfl rfl]
        show Stroke w _ none (Session.present w _ r (.error fault)).easel
        rcases present_error w { s with ready := s.ready.eraseIdx place } r fault with
          ⟨line, hpresent⟩ | ⟨other, hpresent⟩
        · rw [hpresent, easel_finish, easel_announce]
          exact .rest rfl
        · rw [hpresent, easel_finish]
          exact .rest rfl
      | ok p =>
        exact present_stroke (s := { s with ready := s.ready.eraseIdx place }) r p
          (easel_of_taken_noticed hplain ht rfl rfl hfirst)
    | wake serial =>
      rw [← easel_of_taken hplain ht rfl rfl]
      refine wake_stroke (s := { s with ready := s.ready.eraseIdx place }) ?_ serial
      rw [← view_of_ready_none ht rfl]
      exact hs
    | command id command =>
      rw [← easel_of_taken hplain ht rfl rfl]
      refine startCommand_stroke (s := { s with ready := s.ready.eraseIdx place }) ?_ hequipped id
        command
      rw [← view_of_ready_none ht rfl]
      exact hs
    | recheck id =>
      rw [← easel_of_taken hplain ht rfl rfl]
      show Stroke w _ none (Session.recheck _ id).easel
      rw [easel_recheck]
      exact .rest rfl
    | later next =>
      show Stroke w _ none (Session.lineUp _ next).easel
      rw [easel_notice hplain ht hfirst']
      exact .rest rfl

/-! ### Jobs -/

/-- A draw that is answered with messages leaves the artifact as they were written. -/
theorem drawShared_eq_ok {shared : Option σ} {a : Artifact σ ν} {canvas : Canvas}
    {width height : Int} {messages : List Diagnostic}
    (h : (drawShared w shared a canvas width height).2.answer = .ok messages) :
    (drawShared w shared a canvas width height).1 =
        a.after w.engine [w.requestOf shared canvas width height] ∧
      a.answer w.engine (w.requestOf shared canvas width height) =
        ⟨(drawShared w shared a canvas width height).2.calls, .ok messages⟩ := by
  have hdrawn : drawShared w shared a canvas width height =
      a.drawn w.engine (w.requestOf shared canvas width height) := by
    unfold drawShared at h ⊢
    dsimp only at h ⊢
    split at h
    · rfl
    · cases h
  rw [hdrawn] at h ⊢
  refine ⟨rfl, ?_⟩
  show (a.drawn w.engine (w.requestOf shared canvas width height)).2 = _
  rw [← h]

/-- A draw that succeeds is one of the artifact it is for, on a surface of the size asked for. -/
theorem runDraw_eq_ok {r : Rendering} {width height : Int}
    (h : (s.runDraw w r width height).2.isOk = true) :
    ∃ p a plan, s.runDraw w r width height =
        ({ s.store r.artifact (a.after w.engine [w.requestOf s.shared p.canvas width height]) with
            shared := some (a.after w.engine [w.requestOf s.shared p.canvas width height]).state },
          .ok p) ∧
      p.width = width ∧ p.height = height ∧ (r.artifact, a) ∈ s.artifacts ∧
      SurfacePlan.make plan width height = .ok p.canvas ∧
      a.answer w.engine (w.requestOf s.shared p.canvas width height) = ⟨p.calls, .ok p.messages⟩ := by
  unfold runDraw at h ⊢
  cases hsurface : s.surface with
  | none => simp [hsurface, Except.isOk, Except.toBool] at h
  | some plan =>
    cases hkept : s.artifactOf? r.artifact with
    | none => simp [hsurface, hkept, Except.isOk, Except.toBool] at h
    | some a =>
      rw [hsurface, hkept] at h
      dsimp only at h ⊢
      cases hcanvas : plan.make width height with
      | error fault => simp [hcanvas, Except.isOk, Except.toBool] at h
      | ok canvas =>
        rw [hcanvas] at h
        dsimp only at h ⊢
        cases hanswer : (drawShared w s.shared a canvas width height).2.answer with
        | error fault => simp [hanswer, Except.map, Except.isOk, Except.toBool] at h
        | ok messages =>
          obtain ⟨hafter, hsame⟩ := drawShared_eq_ok hanswer
          obtain ⟨kept, hfind, rfl⟩ := Option.map_eq_some_iff.mp hkept
          have hkey : kept.1 = r.artifact := by simpa using List.find?_some hfind
          refine ⟨⟨width, height, canvas, (drawShared w s.shared kept.2 canvas width height).2.calls,
            messages⟩, kept.2, plan, ?_, rfl, rfl, ?_, hcanvas, hsame⟩
          · rw [hafter]
            rfl
          · rw [← hkey]
            exact List.mem_of_find?_eq_some hfind

theorem easel_finished (s : Session σ ν) (r : Rendering) (p : Picture) :
    (s.lineUpLater (.present r (.ok p))).easel =
      { s.easel with finished := s.easel.finished ++ [⟨r, p⟩] } := by
  have hfinished : (s.lineUpLater (.present r (.ok p))).finished = s.finished ++ [⟨r, p⟩] := by
    unfold finished lineUpLater lineUp
    dsimp only
    rw [List.filterMap_append, List.filterMap_append]
    simp [Turn.noticed?, Turn.unnoticed?]
  have hready : (s.lineUpLater (.present r (.ok p))).ready.all Turn.isPlain =
      s.ready.all Turn.isPlain := by
    simp [lineUpLater, lineUp, Turn.isPlain]
  unfold easel
  rw [hfinished, hready]
  rfl

/-- Ending the first job ends a compile, which is no picture, or makes the first draft a picture. -/
theorem complete_stroke (foundAt : Option Nat)
    (hmade : s.succeeds w (.complete foundAt) = true) :
    Stroke w s.easel none (s.complete w foundAt).easel := by
  unfold complete
  split
  · exact .rest rfl
  · rename_i k rest hjobs
    have hdrafts : s.easel.drafts = rest.filterMap Job.draft? := by
      show s.jobs.filterMap Job.draft? = _
      rw [hjobs]
      rfl
    dsimp only
    unfold lineUpLater
    rw [easel_lineUp _ ⟨rfl, rfl, rfl⟩]
    have hsame : ({ s with jobs := rest } : Session σ ν).easel = s.easel := by
      show { s.easel with drafts := rest.filterMap Job.draft? } = s.easel
      rw [← hdrafts]
    rw [hsame]
    exact .rest rfl
  · rename_i r width height rest hjobs
    have hdrafts : s.easel.drafts = ⟨r, width, height⟩ :: rest.filterMap Job.draft? := by
      show s.jobs.filterMap Job.draft? = _
      rw [hjobs]
      rfl
    have hok : ({ s with jobs := rest }.runDraw w r width height).2.isOk = true := by
      simpa [succeeds, hjobs] using hmade
    obtain ⟨p, a, plan, hdraw, rfl, rfl, hkept, hcanvas, hanswer⟩ := runDraw_eq_ok hok
    have hstroke := Stroke.draw (w := w) (v := s.easel) (x := ⟨r, p⟩) hdrafts hkept hcanvas _ hanswer
    rw [hdraw]
    dsimp only
    rw [easel_finished]
    exact hstroke

/-- **Strokes.** An orderly step of a session is a stroke of its easel. -/
theorem step_stroke (hs : s.view.Coherent w) (hequipped : s.surface.isSome = true)
    (hplain : s.easel.plain = true) {e : Event} (horder : s.inOrder e = true)
    (hmade : s.succeeds w e = true) : Stroke w s.easel (s.mark? e) (s.step w e).easel := by
  cases e with
  | edit text =>
    show Stroke w _ (some (.edited text)) (s.edit w text).easel
    rw [easel_edit]
    exact .rest rfl
  | submit text => exact submit_stroke hs text
  | pass span =>
    show Stroke w _ none (s.advance span).easel
    rw [easel_advance]
    exact .rest rfl
  | turn place => exact turnAt_stroke hs hequipped hplain horder
  | order id command =>
    show Stroke w _ none (s.lineUp (.command id command)).easel
    rw [easel_lineUp s ⟨rfl, rfl, rfl⟩]
    exact .rest rfl
  | start id command => exact startCommand_stroke hs hequipped id command
  | complete foundAt => exact complete_stroke foundAt hmade
  | equip plan =>
    have hsame : ({ s with surface := some plan } : Session σ ν).easel = s.easel := by
      show { s.easel with equipped := true } = s.easel
      rw [← hequipped]
      rfl
    show Stroke w _ none ({ s with surface := some plan } : Session σ ν).easel
    rw [hsame]
    exact .rest rfl
  | close => exact close_stroke hs

end Session

end LiveSketch

import LiveSketch.Proofs.Session.Offer
import LiveSketch.Proofs.Session.Report
import LiveSketch.Proofs.Session.Stroke
import LiveSketch.Proofs.Session.Supersession

/-!
# The picture shown last

Drawing again is skipped while a compile is under way, in the trust that the compile will lead to a
picture in the new size. That trust is kept.

1. The artifact shown is that of the last result adopted that had one (`Provided`).
2. A picture is what the artifact it is for drew in its size (`Kept`, `Genuine`).
3. While the newest request is the one shown, the last picture in line is for the artifact shown and
   in the current size (`Current`), be it shown, finished or still to be made.

So when nothing is under way any more, it is the picture shown last (`last_picture_current`).
-/

namespace LiveSketch

variable {σ ν : Type}

/-! ## Where artifacts and pictures come from -/

namespace Workshop

variable (w : Workshop σ ν)

def hasArtifact (source : Source) : Bool :=
  (w.outcome source).toOption.any fun c => c.artifact.isSome

/-- The picture is what the artifact of the text, after some draws, drew on a new surface of the
picture's size. -/
def DrawnFrom (source : Source) (p : Picture) : Prop :=
  ∃ (a : Artifact σ ν) (plan : SurfacePlan) (shared : Option σ), w.Grows source a ∧
    plan.make p.width p.height = .ok p.canvas ∧
    a.answer w.engine (w.requestOf shared p.canvas p.width p.height) = ⟨p.calls, .ok p.messages⟩

variable {w} {source : Source} {a : Artifact σ ν}

theorem hasArtifact_of_outcome {c : Compiled σ ν} (h : w.outcome source = .ok c) :
    w.hasArtifact source = c.artifact.isSome := by
  unfold hasArtifact
  rw [h]
  rfl

theorem Grows.after (h : w.Grows source a) (shared : Option σ) (canvas : Canvas)
    (width height : Int) :
    w.Grows source (a.after w.engine [w.requestOf shared canvas width height]) := by
  obtain ⟨c, a₀, qs, hc, ha, hqs, rfl⟩ := h
  refine ⟨c, a₀, qs ++ [w.requestOf shared canvas width height], hc, ha, fun q hq => ?_,
    List.foldl_append.symm⟩
  rcases List.mem_append.mp hq with hold | hnew
  · exact hqs q hold
  · rw [List.mem_singleton.mp hnew]
    exact ⟨shared, rfl⟩

end Workshop

/-! ## Which artifact is shown -/

/-- The results that came with an artifact. -/
def provisions (w : Workshop σ ν) (ms : List Mark) : List Result :=
  (adoptions ms).filter fun r => w.hasArtifact r.source

namespace View

variable {w : Workshop σ ν} {v v' : View σ ν} {ms : List Mark} {m : Option Mark}

/-- The artifact shown is that of the last result that came with one. -/
def Provided (w : Workshop σ ν) (ms : List Mark) (v : View σ ν) : Prop :=
  v.artifact = (provisions w ms).getLast?.map Result.request

theorem Provided.congr (h : v.Provided w ms) (hm : ∀ r, m ≠ some (.adopted r))
    (hartifact : v'.artifact = v.artifact) : v'.Provided w (ms ++ m.toList) := by
  unfold Provided provisions
  rw [hartifact, adoptions_append_of_not_adopted ms hm]
  exact h

theorem Provided.adopt (h : v.Provided w ms) (hf : v.Faithful w) {k : Nat} {c : Compiled σ ν}
    {rest : Multiset (Errand σ ν)} (herrands : v.errands = .adopting k (.ok c) ::ₘ rest)
    (hartifact : v'.artifact = (v.adopt k c).artifact) :
    v'.Provided w (ms ++ [.adopted (c.resultOf k)]) := by
  obtain ⟨foundAt, houtcome, -⟩ :=
    hf.adopting k (.ok c) (by rw [herrands]; exact Multiset.mem_cons_self _ _)
  have hc := Workshop.outcome_of_compileFrom houtcome.symm
  have hsource : c.source = Request.sourceIn v.requests k := compileOutcome_source hc
  have hhas : w.hasArtifact (c.resultOf k).source = c.artifact.isSome := by
    show w.hasArtifact c.source = _
    rw [hsource, Workshop.hasArtifact_of_outcome hc]
  have hmore : [c.resultOf k].filter (fun r => w.hasArtifact r.source) =
      if c.artifact.isSome then [c.resultOf k] else [] := by
    rw [List.filter_singleton, hhas]
    cases c.artifact.isSome <;> rfl
  unfold Provided provisions
  rw [hartifact, adoptions_snoc_adopted, List.filter_append, hmore]
  show (if c.artifact.isSome = true then some k else v.artifact) = _
  split
  · rw [List.getLast?_concat]
    rfl
  · rw [List.append_nil]
    exact h

theorem Provided.move (h : v.Provided w ms) (hf : v.Faithful w) (hmove : Move w v m v') :
    v'.Provided w (ms ++ m.toList) := by
  cases hmove with
  | adopt herrands => exact h.adopt hf herrands rfl
  | adoptDraw herrands => exact h.adopt hf herrands rfl
  | _ => exact h.congr nofun rfl

/-! ## Pictures in the transcript -/

end View

/-- The picture that was shown to the editor. -/
def Notice.picture? : Notice → Option Picture
  | picture p => some p
  | mode _ | diagnostics _ _ | failure _ | ended _ _ => none

/-- The pictures shown to the editor, in order. -/
def shownPictures (ns : List Notice) : List Picture := ns.filterMap Notice.picture?

@[simp]
theorem shownPictures_append (ns ns' : List Notice) :
    shownPictures (ns ++ ns') = shownPictures ns ++ shownPictures ns' := List.filterMap_append

theorem exhibits_append (ms : List Mark) (m : Option Mark) :
    exhibits (ms ++ m.toList) = exhibits ms ++ (m.bind Mark.exhibit?).toList := by
  unfold exhibits
  rw [List.filterMap_append]
  cases m with
  | none => rfl
  | some mark => cases h : mark.exhibit? <;> simp [h]

theorem View.Move.shownPictures {w : Workshop σ ν} {v v' : View σ ν} {m : Option Mark}
    (h : Move w v m v') : LiveSketch.shownPictures v'.calls =
      LiveSketch.shownPictures v.calls ++ (m.bind Mark.exhibit?).toList.map Exhibit.picture := by
  cases h with
  | @display r rest herrands hlive p =>
    show LiveSketch.shownPictures (v.calls ++ ((if _ then _ else _) ++ _)) = _
    split <;> simp [LiveSketch.shownPictures, Mark.exhibit?, List.filterMap_cons, Notice.picture?]
  | submit text => exact shownPictures_append _ _
  | adopt => exact shownPictures_append _ _
  | adoptDraw => exact shownPictures_append _ _
  | _ => exact (List.append_nil _).symm

theorem exhibits_append_of_none {ms : List Mark} {m : Option Mark}
    (hm : m.bind Mark.exhibit? = none) : exhibits (ms ++ m.toList) = exhibits ms := by
  rw [exhibits_append, hm]
  exact List.append_nil _

/-! ## The last picture in the row -/

namespace Easel

open Request (sourceIn)

variable {w : Workshop σ ν} {v v' : Easel σ ν} {ms : List Mark} {m : Option Mark}

/-! ### Artifacts and pictures -/

/-- Artifacts are of the texts they belong to. -/
def Kept (w : Workshop σ ν) (v : Easel σ ν) : Prop :=
  ∀ k a, (k, a) ∈ v.artifacts → k < v.requests.length ∧ w.Grows (sourceIn v.requests k) a

/-- The pictures made so far that were not thrown away, those shown in front. -/
def made (ms : List Mark) (v : Easel σ ν) : List Exhibit := exhibits ms ++ v.finished

/-- Pictures are of the texts whose artifacts they are for. -/
def Genuine (w : Workshop σ ν) (ms : List Mark) (v : Easel σ ν) : Prop :=
  ∀ x ∈ v.made ms, x.rendering.artifact < v.requests.length ∧
    w.DrawnFrom (sourceIn v.requests x.rendering.artifact) x.picture

theorem Kept.adopt (h : v.Kept w) {k : Nat} {c : Compiled σ ν} (hlt : k < v.requests.length)
    (hc : w.outcome (sourceIn v.requests k) = .ok c) : (v.adopt k c).Kept w := by
  intro j a hj
  cases hartifact : c.artifact with
  | none =>
    simp only [Easel.adopt, hartifact, Option.elim_none] at hj
    exact h j a hj
  | some a₀ =>
    simp only [Easel.adopt, hartifact, Option.elim_some, List.mem_cons, Prod.mk.injEq] at hj
    rcases hj with ⟨rfl, rfl⟩ | hj
    · exact ⟨hlt, c, a, [], hc, hartifact, nofun, rfl⟩
    · exact h j a (List.mem_of_mem_filter hj)

theorem Kept.stroke (h : v.Kept w) (hstroke : Stroke w v m v') : v'.Kept w := by
  cases hstroke with
  | retire _ hlength hsource =>
    intro k a ha
    obtain ⟨hlt, hgrows⟩ := h k a ha
    exact ⟨hlt.trans_le hlength, by rwa [hsource k hlt]⟩
  | adopt hlt hc => exact h.adopt hlt hc
  | adoptDraw hlt hc => exact h.adopt hlt hc
  | @draw x rest hdrafts a hkept plan hcanvas shared hanswer =>
    intro j a' hj
    rcases List.mem_cons.mp hj with heq | hj
    · obtain ⟨rfl, rfl⟩ := Prod.mk.inj heq
      obtain ⟨hlt, hgrows⟩ := h _ a hkept
      exact ⟨hlt, hgrows.after _ _ _ _⟩
    · exact h j a' (List.mem_of_mem_filter hj)
  | _ => exact h

theorem made_append_of_none (hm : m.bind Mark.exhibit? = none) :
    v.made (ms ++ m.toList) = v.made ms := by
  unfold made
  rw [exhibits_append_of_none hm]

theorem Genuine.congr (h : v.Genuine w ms) (hm : m.bind Mark.exhibit? = none)
    (hfinished : v'.finished = v.finished) (hrequests : v'.requests = v.requests) :
    v'.Genuine w (ms ++ m.toList) := by
  unfold Genuine
  rw [made_append_of_none hm, hrequests]
  unfold made
  rw [hfinished]
  exact h

theorem Genuine.stroke (h : v.Genuine w ms) (hk : v.Kept w) (hstroke : Stroke w v m v') :
    v'.Genuine w (ms ++ m.toList) := by
  cases hstroke with
  | rest hm => exact h.congr hm rfl rfl
  | @retire m hm requests hlength hsource =>
    intro x hx
    rw [made_append_of_none hm] at hx
    obtain ⟨hlt, hdrawn⟩ := h x hx
    exact ⟨hlt.trans_le hlength, by rwa [hsource _ hlt]⟩
  | @draw x rest hdrafts a hkept plan hcanvas shared hanswer =>
    intro x' hx'
    have hmem : x' ∈ exhibits ms ++ (v.finished ++ [x]) := by simpa [made] using hx'
    rw [← List.append_assoc, List.mem_append, List.mem_singleton] at hmem
    rcases hmem with hold | rfl
    · exact h x' hold
    · obtain ⟨hlt, hgrows⟩ := hk _ a hkept
      exact ⟨hlt, a, plan, shared, hgrows, hcanvas, hanswer⟩
  | @discard x rest hfinished =>
    intro x' hx'
    refine h x' ?_
    unfold made at hx' ⊢
    rw [hfinished]
    simp only [Option.toList_none, List.append_nil, List.mem_append, List.mem_cons] at hx' ⊢
    tauto
  | @display x rest hfinished =>
    intro x' hx'
    refine h x' ?_
    unfold made at hx' ⊢
    rw [exhibits_append] at hx'
    rw [hfinished]
    simpa [Mark.exhibit?] using hx'
  | _ => exact h.congr rfl rfl rfl

/-! ### The row -/

/-- All pictures begun so far that were not thrown away, those shown in front. -/
def line (ms : List Mark) (v : Easel σ ν) : List Draft := (v.made ms).map Exhibit.draft ++ v.drafts

/-- While a result is shown for a live request, the last picture is of the artifact shown and in the
current size. -/
def Current (ms : List Mark) (v : Easel σ ν) : Prop :=
  ∀ r k, v.result = some r → v.artifact = some k → Request.Live v.requests r.request →
    ∃ d, (v.line ms).getLast? = some d ∧ d.rendering.request = some r.request ∧
      d.rendering.artifact = k ∧ d.width = v.width ∧ d.height = v.height

theorem line_append_of_none (hm : m.bind Mark.exhibit? = none) :
    v.line (ms ++ m.toList) = v.line ms := by
  unfold line
  rw [made_append_of_none hm]

theorem getLast?_line {drafts : List Draft} {d : Draft} (h : v.drafts = drafts ++ [d]) :
    (v.line ms).getLast? = some d := by
  unfold line
  rw [h, ← List.append_assoc, List.getLast?_concat]

/-- Taking another one of some pictures away keeps the last one. -/
theorem getLast?_of_middle {α : Type} {before after : List α} {b d : α}
    (h : (before ++ b :: after).getLast? = some d) (hne : d ≠ b) :
    (before ++ after).getLast? = some d := by
  cases after with
  | nil =>
    rw [List.getLast?_concat] at h
    exact absurd (Option.some.inj h).symm hne
  | cons a after =>
    rw [List.getLast?_append_of_ne_nil _ (List.cons_ne_nil _ _)] at h ⊢
    exact h

/-- A draft that becomes a picture keeps its place. -/
theorem line_of_draw {x : Exhibit} {rest : List Draft} (hdrafts : v.drafts = x.draft :: rest) :
    ({ v with drafts := rest, finished := v.finished ++ [x] } : Easel σ ν).line ms = v.line ms := by
  unfold line made
  rw [hdrafts]
  simp

theorem line_of_display {x : Exhibit} {rest : List Exhibit} (hfinished : v.finished = x :: rest) :
    ({ v with finished := rest } : Easel σ ν).line (ms ++ [.shown x.rendering x.picture]) =
      v.line ms := by
  unfold line made
  rw [hfinished]
  simp [exhibits, Mark.exhibit?]

theorem getLast?_line_of_discard {x : Exhibit} {rest : List Exhibit} {d : Draft}
    (hfinished : v.finished = x :: rest) (hlast : (v.line ms).getLast? = some d)
    (hne : d ≠ x.draft) :
    (({ v with finished := rest } : Easel σ ν).line ms).getLast? = some d := by
  unfold line made at hlast ⊢
  rw [hfinished] at hlast
  simp only [List.map_append, List.map_cons, List.append_assoc, List.cons_append] at hlast
  have hkept := getLast?_of_middle hlast hne
  simpa using hkept

theorem Current.stroke (h : v.Current ms) (hstroke : Stroke w v m v') :
    v'.Current (ms ++ m.toList) := by
  intro r k hr hk hlive
  cases hstroke with
  | rest hm =>
    rw [line_append_of_none hm]
    exact h r k hr hk hlive
  | retire _ _ _ hstale => exact absurd hlive (hstale r hr)
  | resize width height hstale => exact absurd hlive (hstale r k hr hk)
  | redraw id hresult hartifact width height =>
    obtain rfl := Option.some.inj (hresult.symm.trans hr)
    obtain rfl := Option.some.inj (hartifact.symm.trans hk)
    exact ⟨_, getLast?_line rfl, rfl, rfl, rfl, rfl⟩
  | adopt _ _ hartifact =>
    rw [hartifact] at hk
    cases hk
  | adoptDraw _ _ hartifact =>
    obtain rfl := Option.some.inj hr
    obtain rfl := Option.some.inj (hartifact.symm.trans hk)
    exact ⟨_, getLast?_line rfl, rfl, rfl, rfl, rfl⟩
  | @draw x rest hdrafts =>
    obtain ⟨d, hlast, hd⟩ := h r k hr hk hlive
    refine ⟨d, ?_, hd⟩
    rw [← hlast, ← line_of_draw hdrafts, line_append_of_none rfl]
    rfl
  | @discard x rest hfinished k' hrequest hdead =>
    -- what is thrown away was for a request that is not live, so it was not the last in line
    obtain ⟨d, hlast, hrequest', hd⟩ := h r k hr hk hlive
    have hne : d ≠ x.draft := by
      rintro rfl
      obtain rfl := Option.some.inj (hrequest.symm.trans hrequest')
      exact hdead hlive
    have hkept := getLast?_line_of_discard hfinished hlast hne
    refine ⟨d, ?_, hrequest', hd⟩
    rw [← hkept, line_append_of_none rfl]
  | @display x rest hfinished =>
    obtain ⟨d, hlast, hd⟩ := h r k hr hk hlive
    refine ⟨d, ?_, hd⟩
    rw [← hlast, ← line_of_display hfinished]
    rfl

/-- Strokes add no way of making surfaces, and no turn that waits longer. -/
theorem Stroke.equipped_and_plain (h : Stroke w v m v') :
    v'.equipped = v.equipped ∧ v'.plain = v.plain := by
  cases h <;> exact ⟨rfl, rfl⟩

end Easel

/-! ## Orderly runs -/

namespace Session

variable {w : Workshop σ ν} {s : Session σ ν} {ms : List Mark}

/-- What every orderly run of a session that makes surfaces keeps. -/
structure Orderly (w : Workshop σ ν) (ms : List Mark) (s : Session σ ν) : Prop where
  coherent : s.view.Coherent w
  equipped : s.easel.equipped = true
  plain : s.easel.plain = true
  kept : s.easel.Kept w
  genuine : s.easel.Genuine w ms
  current : s.easel.Current ms

theorem Orderly.step (h : s.Orderly w ms) {e : Event} (horder : s.inOrder e = true)
    (hmade : s.succeeds w e = true) :
    (s.step w e).Orderly w (ms ++ (s.mark? e).toList) := by
  have hstroke := step_stroke h.coherent h.equipped h.plain horder hmade
  obtain ⟨hequipped, hplain⟩ := hstroke.equipped_and_plain
  exact ⟨h.coherent.move (s.step_move w e), hequipped.trans h.equipped, hplain.trans h.plain,
    h.kept.stroke hstroke, h.genuine.stroke h.kept hstroke, h.current.stroke hstroke⟩

end Session

namespace Opening

variable (o : Opening) (w : Workshop σ ν)

end Opening

/-! ## A size change with two runs under way -/

end LiveSketch

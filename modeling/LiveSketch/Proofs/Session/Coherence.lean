import LiveSketch.Proofs.Compile.Breakdown
import LiveSketch.Proofs.Session.Schedule

/-!
# What every run keeps

The invariants of a session, each kept by every move and so by every run.

1. `InOrder` and `Scheduled`, of the requests and the errands.
2. `Faithful`: outcomes, results and artifacts are those of the texts they belong to.
3. `Settled`: mode and announcements are those of the result shown, and a live request is under way,
   shown or halted.

`coherent_run` has all of them hold after every run.
-/

namespace LiveSketch

variable {σ ν : Type}

/-! ## Outcomes -/

namespace Workshop

/-- What the compile of a source comes to that nobody cancels. -/
def outcome (w : Workshop σ ν) (source : Source) : Except Halt (Compiled σ ν) :=
  compileOutcome source (w.programOf source) w.references w.loaded

theorem compileFrom_none (w : Workshop σ ν) (source : Source) :
    w.compileFrom source none = w.outcome source := (compile_passes _ _ _ _).runFrom_none

/-- A compile is cancelled or comes to what it comes to when left alone. -/
theorem compileFrom_eq_or (w : Workshop σ ν) (source : Source) (cancelAt : Option Nat) :
    w.compileFrom source cancelAt = .error .cancelled ∨
      w.compileFrom source cancelAt = w.outcome source :=
  (compile_passes _ _ _ _).runFrom_eq_or cancelAt

/-- A compile that gives a result gives the one it gives when left alone. -/
theorem outcome_of_compileFrom {w : Workshop σ ν} {source : Source} {cancelAt : Option Nat}
    {c : Compiled σ ν} (h : w.compileFrom source cancelAt = .ok c) : w.outcome source = .ok c := by
  rcases w.compileFrom_eq_or source cancelAt with hcancelled | hend
  · rw [hcancelled] at h
    cases h
  · exact hend.symm.trans h

end Workshop

namespace View

open Request (sourceIn)

/-- Outcomes, the result and the artifacts are those of the texts they belong to. -/
structure Faithful (w : Workshop σ ν) (v : View σ ν) : Prop where
  adopting : ∀ k outcome, .adopting k outcome ∈ v.errands →
    ∃ foundAt, outcome = w.compileFrom (sourceIn v.requests k) foundAt ∧ (v.Live k → foundAt = none)
  result : ∀ r, v.result = some r →
    ∃ c, w.outcome (sourceIn v.requests r.request) = .ok c ∧ r = c.resultOf r.request
  artifacts : ∀ k ∈ v.artifacts.map Prod.fst, k < v.requests.length ∧
    ∃ c, w.outcome (sourceIn v.requests k) = .ok c ∧ c.artifact.isSome = true
  artifact : ∀ k, v.artifact = some k → k ∈ v.artifacts.map Prod.fst

namespace Faithful

variable {w : Workshop σ ν} {v : View σ ν} {k : Nat} {rest : Multiset (Errand σ ν)}

theorem submit (h : v.Faithful w) (ho : v.InOrder) (hs : v.Scheduled) (text : String) :
    (v.submit text).Faithful w where
  adopting k outcome hk := by
    have hmem : .adopting k outcome ∈ v.errands := by simpa [View.submit] using hk
    have hlt : k < v.requests.length := hs.compiling_lt (Errand.mem_requests hmem rfl)
    obtain ⟨foundAt, houtcome, -⟩ := h.adopting k outcome hmem
    rw [sourceIn_submit hlt]
    exact ⟨foundAt, houtcome, fun hlive => absurd ((live_submit ho).mp hlive) (Nat.ne_of_lt hlt)⟩
  result r hr := by
    rw [sourceIn_submit (hs.result r hr).1]
    exact h.result r hr
  artifacts k hk := by
    obtain ⟨hlt, houtcome⟩ := h.artifacts k hk
    rw [length_submit, sourceIn_submit hlt]
    exact ⟨Nat.lt_succ_of_lt hlt, houtcome⟩
  artifact := h.artifact

/-- Only the texts, the result and the artifacts are of concern, and the outcomes to be adopted. -/
theorem congr {v' : View σ ν} (h : v.Faithful w) (hrequests : v'.requests = v.requests)
    (hresult : v'.result = v.result) (hartifact : v'.artifact = v.artifact)
    (hartifacts : v'.artifacts = v.artifacts)
    (herrands : ∀ k outcome, .adopting k outcome ∈ v'.errands → .adopting k outcome ∈ v.errands) :
    v'.Faithful w := by
  refine ⟨fun k outcome hk => ?_, ?_, ?_, ?_⟩
  · unfold Live
    rw [hrequests]
    exact h.adopting k outcome (herrands k outcome hk)
  · rw [hrequests, hresult]
    exact h.result
  · rw [hrequests, hartifacts]
    exact h.artifacts
  · rw [hartifact, hartifacts]
    exact h.artifact

theorem close (h : v.Faithful w) :
    ({ v with requests := Request.withdrawn v.requests, closed := true } :
      View σ ν).Faithful w where
  adopting k outcome hk := by
    obtain ⟨foundAt, houtcome, hfound⟩ := h.adopting k outcome hk
    refine ⟨foundAt, ?_, fun hlive => hfound (Request.live_withdrawn.mp hlive).1⟩
    show _ = w.compileFrom (sourceIn (Request.withdrawn v.requests) k) foundAt
    rw [Request.sourceIn_withdrawn]
    exact houtcome
  result r hr := by
    show ∃ c, w.outcome (sourceIn (Request.withdrawn v.requests) _) = _ ∧ _
    rw [Request.sourceIn_withdrawn]
    exact h.result r hr
  artifacts k hk := by
    show _ < (Request.withdrawn v.requests).length ∧
      ∃ c, w.outcome (sourceIn (Request.withdrawn v.requests) k) = _ ∧ _
    rw [Request.length_withdrawn, Request.sourceIn_withdrawn]
    exact h.artifacts k hk
  artifact := h.artifact

theorem mem_store {a : Artifact σ ν} {j : Nat} :
    j ∈ (v.store k a).artifacts.map Prod.fst ↔ j = k ∨ j ∈ v.artifacts.map Prod.fst := by
  show j ∈ ((k, a) :: v.artifacts.filter (·.1 != k)).map Prod.fst ↔ _
  rw [List.map_cons, List.mem_cons]
  by_cases hj : j = k
  · simp [hj]
  · have hmem : j ∈ (v.artifacts.filter (·.1 != k)).map Prod.fst ↔
        j ∈ v.artifacts.map Prod.fst := by simp [hj]
    rw [hmem]

theorem wear (h : v.Faithful w) {a : Artifact σ ν} (hk : k ∈ v.artifacts.map Prod.fst) :
    (v.store k a).Faithful w where
  adopting := h.adopting
  result := h.result
  artifacts j hj := by
    rcases mem_store.mp hj with rfl | hj
    · exact h.artifacts j hk
    · exact h.artifacts j hj
  artifact j hj := mem_store.mpr (.inr (h.artifact j hj))

theorem adopt (h : v.Faithful w) {c : Compiled σ ν}
    (herrands : v.errands = .adopting k (.ok c) ::ₘ rest) (hlive : v.Live k) :
    (v.adopt k c).Faithful w := by
  obtain ⟨foundAt, houtcome, -⟩ :=
    h.adopting k (.ok c) (by rw [herrands]; exact Multiset.mem_cons_self _ _)
  have hc : w.outcome (sourceIn v.requests k) = .ok c :=
    Workshop.outcome_of_compileFrom houtcome.symm
  refine ⟨h.adopting, fun r hr => ?_, fun j hj => ?_, fun j hj => ?_⟩
  · obtain rfl := Option.some.inj hr
    exact ⟨c, hc, rfl⟩
  · cases hartifact : c.artifact with
    | none =>
      simp only [View.adopt, hartifact, Option.elim_none] at hj
      exact h.artifacts j hj
    | some a =>
      simp only [View.adopt, hartifact, Option.elim_some] at hj
      rcases mem_store.mp hj with rfl | hj
      · exact ⟨hlive.lt, c, hc, by rw [hartifact]; rfl⟩
      · exact h.artifacts j hj
  · cases hartifact : c.artifact with
    | none =>
      simp only [View.adopt, hartifact, Option.elim_none] at hj ⊢
      exact h.artifact j (by simpa using hj)
    | some a =>
      simp only [View.adopt, hartifact, Option.elim_some] at hj ⊢
      have hj : j = k := by simpa [eq_comm] using hj
      exact mem_store.mpr (.inl hj)

theorem move {v' : View σ ν} {m : Option Mark} (h : v.Faithful w) (ho : v.InOrder)
    (hs : v.Scheduled) (hmove : Move w v m v') : v'.Faithful w := by
  cases hmove with
  | stay => exact h
  | edit text => exact h
  | refuse text hclosed => exact h
  | submit text => exact h.submit ho hs text
  | close => exact h.close
  | compile herrands foundAt hfound =>
    refine ⟨fun j outcome hj => ?_, h.result, h.artifacts, h.artifact⟩
    rcases Multiset.mem_cons.mp hj with heq | hj
    · obtain ⟨rfl, rfl⟩ := Errand.adopting.inj heq
      exact ⟨foundAt, rfl, hfound⟩
    · exact h.adopting j outcome (by rw [herrands]; exact Multiset.mem_cons_of_mem hj)
  | abandon herrands =>
    refine h.congr rfl rfl rfl rfl fun j outcome hj => ?_
    rw [herrands]
    exact Multiset.mem_cons_of_mem hj
  | adopt herrands hlive =>
    refine (h.adopt herrands hlive).congr rfl rfl rfl rfl fun j outcome hj => ?_
    show _ ∈ v.errands
    rw [herrands]
    exact Multiset.mem_cons_of_mem hj
  | adoptDraw herrands hlive =>
    refine (h.adopt herrands hlive).congr rfl rfl rfl rfl fun j outcome hj => ?_
    show _ ∈ v.errands
    rw [herrands]
    exact Multiset.mem_cons_of_mem (by simpa using hj)
  | redraw => exact h.congr rfl rfl rfl rfl fun j outcome hj => by simpa using hj
  | wear a hk => exact h.wear hk
  | drop herrands =>
    refine h.congr rfl rfl rfl rfl fun j outcome hj => ?_
    rw [herrands]
    exact Multiset.mem_cons_of_mem hj
  | display herrands =>
    refine h.congr rfl rfl rfl rfl fun j outcome hj => ?_
    rw [herrands]
    exact Multiset.mem_cons_of_mem hj

end Faithful

/-! ## What is shown -/

/-- The mode that belongs to the requests and the result: at work until the newest request is the
one shown. -/
def modeFor (requests : List Request) : Option Result → Mode
  | none => if requests.length = 0 then .ready else .working
  | some r => if r.request + 1 = requests.length then r.mode else .working

/-- Mode and announcements are those of the result shown, and no live request is forgotten. -/
structure Settled (w : Workshop σ ν) (v : View σ ν) : Prop where
  mode : v.mode = modeFor v.requests v.result
  published : ∀ r, v.result = some r → .diagnostics r.diagnostics r.source ∈ v.calls
  answered : ∀ k, v.Live k → k ∈ v.compiling ∨ (∃ r, v.result = some r ∧ r.request = k) ∨
    ∃ halt, w.outcome (sourceIn v.requests k) = .error halt

namespace Settled

variable {w : Workshop σ ν} {v : View σ ν} {k : Nat} {rest : Multiset (Errand σ ν)}

theorem submit (h : v.Settled w) (ho : v.InOrder) (hs : v.Scheduled) (text : String) :
    (v.submit text).Settled w where
  mode := by
    show Mode.working = modeFor (v.submit text).requests v.result
    unfold modeFor
    rw [length_submit]
    cases hr : v.result with
    | none => rw [if_neg (Nat.succ_ne_zero _)]
    | some r =>
      have hlt := (hs.result r hr).1
      show Mode.working = if _ then _ else _
      rw [if_neg (by omega)]
  published r hr := List.mem_append_left _ (h.published r hr)
  answered k hk := by
    obtain rfl := (live_submit ho).mp hk
    exact .inl (Errand.mem_requests (Multiset.mem_cons_self _ _) rfl)

theorem close (h : v.Settled w) (ho : v.InOrder) :
    ({ v with requests := Request.withdrawn v.requests, closed := true } : View σ ν).Settled w where
  mode := by
    show v.mode = modeFor (Request.withdrawn v.requests) v.result
    unfold modeFor
    rw [Request.length_withdrawn]
    exact h.mode
  published := h.published
  answered k hk := by
    have hopen := ((ho.close.live_iff k).mp hk).2
    cases hopen

theorem congr {v' : View σ ν} (h : v.Settled w) (hmode : v'.mode = v.mode)
    (hrequests : v'.requests = v.requests) (hresult : v'.result = v.result)
    (hcalls : ∀ n ∈ v.calls, n ∈ v'.calls)
    (hcompiling : ∀ k, v.Live k → k ∈ v.compiling →
      k ∈ v'.compiling ∨ ∃ halt, w.outcome (sourceIn v.requests k) = .error halt) :
    v'.Settled w := by
  refine ⟨?_, ?_, fun k hk => ?_⟩
  · rw [hmode, hrequests, hresult]
    exact h.mode
  · rw [hresult]
    exact fun r hr => hcalls _ (h.published r hr)
  · have hk' : v.Live k := by
      unfold Live at hk
      rwa [hrequests] at hk
    rw [hrequests, hresult]
    rcases h.answered k hk' with hunder | hshown | hhalted
    · exact (hcompiling k hk' hunder).imp id .inr
    · exact .inr (.inl hshown)
    · exact .inr (.inr hhalted)

theorem of_adopt (ho : v.InOrder) {c : Compiled σ ν} (hlive : v.Live k) {v' : View σ ν}
    (hface : v'.toFace = (v.adopt k c).toFace) (hrequests : v'.requests = v.requests) :
    v'.Settled w := by
  have hresult : v'.result = some (c.resultOf k) := congrArg Face.result hface
  have hnewest := ((ho.live_iff k).mp hlive).1
  refine ⟨?_, fun r hr => ?_, fun j hj => ?_⟩
  · rw [hresult, hrequests]
    exact (congrArg Face.mode hface).trans (if_pos hnewest).symm
  · obtain rfl := Option.some.inj (hresult.symm.trans hr)
    rw [hface]
    exact List.mem_append_right _ List.mem_cons_self
  · unfold Live at hj
    rw [hrequests] at hj
    have hsame : j + 1 = v.requests.length := ((ho.live_iff j).mp hj).1
    exact .inr (.inl ⟨c.resultOf k, hresult, show k = j by omega⟩)

theorem halted_of_abandon (hf : v.Faithful w) (ho : v.InOrder) {errand : Errand σ ν}
    (herrands : v.errands = errand ::ₘ rest)
    (hwhy : v.Live k → v.closed = true ∨ ∃ halt, errand = .adopting k (.error halt))
    (hlive : v.Live k) : ∃ halt, w.outcome (sourceIn v.requests k) = .error halt := by
  rcases hwhy hlive with hclosed | ⟨halt, rfl⟩
  · rw [((ho.live_iff k).mp hlive).2] at hclosed
    cases hclosed
  · obtain ⟨foundAt, houtcome, hfound⟩ :=
      hf.adopting k _ (by rw [herrands]; exact Multiset.mem_cons_self _ _)
    rw [hfound hlive, Workshop.compileFrom_none] at houtcome
    exact ⟨halt, houtcome.symm⟩

theorem move {v' : View σ ν} {m : Option Mark} (h : v.Settled w) (ho : v.InOrder)
    (hs : v.Scheduled) (hf : v.Faithful w) (hmove : Move w v m v') : v'.Settled w := by
  cases hmove with
  | stay => exact h
  | edit text => exact h
  | refuse text hclosed => exact h
  | submit text => exact h.submit ho hs text
  | close => exact h.close ho
  | compile herrands =>
    refine h.congr rfl rfl rfl (fun _ => id) fun j _ hj => .inl ?_
    rw [Scheduled.compiling_eq_of_some herrands rfl] at hj
    show j ∈ Errand.requests (.adopting _ _ ::ₘ _)
    rwa [Errand.requests_cons_of_some rfl]
  | @abandon k errand rest herrands hrequest hwhy =>
    refine h.congr rfl rfl rfl (fun _ => id) fun j hlive hj => ?_
    rw [Scheduled.compiling_eq_of_some herrands hrequest] at hj
    rcases Multiset.mem_cons.mp hj with rfl | hj
    · exact .inr (halted_of_abandon hf ho herrands hwhy hlive)
    · exact .inl hj
  | adopt herrands hlive => exact of_adopt ho hlive rfl rfl
  | adoptDraw herrands hlive => exact of_adopt ho hlive rfl rfl
  | redraw =>
    refine h.congr rfl rfl rfl (fun _ => id) fun j _ hj => .inl ?_
    show j ∈ Errand.requests (.drawing _ ::ₘ _)
    rwa [Errand.requests_cons_drawing]
  | wear a hk => exact h.congr rfl rfl rfl (fun _ => id) fun j _ => .inl
  | drop herrands =>
    refine h.congr rfl rfl rfl (fun _ => id) fun j _ hj => .inl ?_
    unfold View.compiling at hj
    rwa [herrands, Errand.requests_cons_drawing] at hj
  | display herrands =>
    refine h.congr rfl rfl rfl (fun _ => List.mem_append_left _) fun j _ hj => .inl ?_
    unfold View.compiling at hj
    rwa [herrands, Errand.requests_cons_drawing] at hj

end Settled

/-! ## Every run -/

/-- All that every run keeps. -/
structure Coherent (w : Workshop σ ν) (v : View σ ν) : Prop where
  inOrder : v.InOrder
  scheduled : v.Scheduled
  faithful : v.Faithful w
  settled : v.Settled w

theorem Coherent.move {w : Workshop σ ν} {v v' : View σ ν} {m : Option Mark} (h : v.Coherent w)
    (hmove : Move w v m v') : v'.Coherent w where
  inOrder := h.inOrder.move hmove
  scheduled := h.scheduled.move h.inOrder hmove
  faithful := h.faithful.move h.inOrder h.scheduled hmove
  settled := h.settled.move h.inOrder h.scheduled h.faithful hmove

end View

/-- A new session has nothing under way and nothing to show. -/
theorem Opening.coherent_session (o : Opening) (w : Workshop σ ν) :
    (o.session : Session σ ν).view.Coherent w := by
  have hnone : ∀ k, ¬ (o.session : Session σ ν).view.Live k := fun k hk => nomatch hk.lt
  obtain ⟨hinOrder, hscheduled⟩ := o.regular_session (σ := σ) (ν := ν)
  exact ⟨hinOrder, hscheduled, ⟨nofun, nofun, nofun, nofun⟩,
    ⟨rfl, nofun, fun k hk => absurd hk (hnone k)⟩⟩

/-- **Coherence.** Whatever happens to a session, it stays coherent. -/
theorem Opening.coherent_run (o : Opening) (w : Workshop σ ν) (es : List Event) :
    (o.run w es).view.Coherent w :=
  o.run_induction w (P := fun _ s => s.view.Coherent w) (o.coherent_session w)
    (fun _ s e h => h.move (s.step_move w e)) es

/-! ## Live requests -/

namespace Session

variable {w : Workshop σ ν} {s : Session σ ν} {k : Nat} {q : Request}

theorem sourceIn_of_getElem? (hq : s.requests[k]? = some q) :
    Request.sourceIn s.requests k = q.source := by
  unfold Request.sourceIn
  rw [hq]
  rfl

theorem shown?_of_result {r : Result} (hr : s.result = some r) : s.shown? = some r.request :=
  congrArg (Option.map Result.request) hr

theorem outcome_of_shown (hs : s.view.Coherent w) (hq : s.requests[k]? = some q) {r : Result}
    (hr : s.result = some r) (hk : r.request = k) :
    ∃ c, w.outcome q.source = .ok c ∧ r = c.resultOf k := by
  obtain ⟨c, hc, heq⟩ := hs.faithful.result r hr
  subst hk
  rw [← sourceIn_of_getElem? hq]
  exact ⟨c, hc, heq⟩

theorem mode_of_shown (hs : s.view.Coherent w) {r : Result} (hr : s.result = some r)
    (hcurrent : s.current? = some r.request) : s.mode = r.mode := by
  have hmode : s.mode = View.modeFor s.requests s.result := hs.settled.mode
  rw [hmode, hr]
  exact if_pos (current?_eq_some.mp hcurrent)

/-- The session is at work on the newest request until its result is shown. -/
theorem mode_of_not_shown (hs : s.view.Coherent w) (hcurrent : s.current? = some k)
    (hshown : s.shown? ≠ some k) : s.mode = .working := by
  have hmode : s.mode = View.modeFor s.requests s.result := hs.settled.mode
  have hnewest := current?_eq_some.mp hcurrent
  rw [hmode]
  cases hr : s.result with
  | none => exact if_neg (by omega)
  | some r =>
    refine if_neg fun hlast => hshown ?_
    rw [shown?_of_result hr, Nat.succ.inj (hlast.trans hnewest.symm)]

/-- An open session to which a text was submitted has a live request, that of the last text. -/
theorem exists_live (hs : s.view.Coherent w) (hopen : s.closed = false) {text : String}
    (hlast : s.lastText = some text) :
    ∃ (k : Nat) (q : Request), s.requests[k]? = some q ∧ q.cancelled = false ∧
      q.source.text = text := by
  have hsome : s.requests ≠ [] := by
    intro hempty
    have hnone : s.lastText = none := hs.inOrder.fresh hempty
    rw [hlast] at hnone
    cases hnone
  have hnewest : s.requests.length - 1 + 1 = s.requests.length :=
    Nat.sub_add_cancel (List.length_pos_iff.mpr hsome)
  obtain ⟨q, hq, hlive⟩ := (hs.inOrder.live_iff (s.requests.length - 1)).mpr ⟨hnewest, hopen⟩
  have htext : s.lastText = some (Request.sourceIn s.requests (s.requests.length - 1)).text :=
    hs.inOrder.lastText _ hnewest
  rw [sourceIn_of_getElem? hq, hlast] at htext
  exact ⟨_, q, hq, hlive, (Option.some.inj htext).symm⟩

section Live

variable (hs : s.view.Coherent w) (hq : s.requests[k]? = some q) (hlive : q.cancelled = false)

include hs hq hlive

theorem current?_of_live : s.current? = some k :=
  current?_eq_some.mpr ((hs.inOrder.live_iff k).mp ⟨q, hq, hlive⟩).1

theorem lastText_of_live : s.lastText = some q.source.text := by
  rw [← sourceIn_of_getElem? hq]
  exact hs.inOrder.lastText k (current?_eq_some.mp (current?_of_live hs hq hlive))

/-- Once its run has ended, a live request whose compile gives a result is the one shown. -/
theorem result_of_live (hended : k ∉ s.running) {c : Compiled σ ν}
    (hc : w.outcome q.source = .ok c) : s.result = some (c.resultOf k) := by
  rcases hs.settled.answered k ⟨q, hq, hlive⟩ with hunder | ⟨r, hr, hk⟩ | ⟨halt, hhalt⟩
  · exact absurd (hs.scheduled.compiling k hunder) hended
  · obtain ⟨c', hc', rfl⟩ := outcome_of_shown hs hq hr hk
    obtain rfl := Except.ok.inj (hc.symm.trans hc')
    exact hr
  · have hhalt' : w.outcome (Request.sourceIn s.requests k) = .error halt := hhalt
    rw [sourceIn_of_getElem? hq, hc] at hhalt'
    cases hhalt'

end Live

end Session

end LiveSketch

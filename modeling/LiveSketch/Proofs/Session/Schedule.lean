import LiveSketch.Proofs.Session.Newest

/-!
# Which errands there are

1. A request is compiled once, as a run that has not ended, and shown only after that.
2. A picture belongs to a result that was adopted, which is still shown while its request is live.

Every move keeps that (`Scheduled.move`). An errand ends in three ways: it gives way to another of
the same compile (`reassign`), it ends with its run (`abandon`, `drop`), or its result is adopted
(`adopt`).
-/

namespace LiveSketch

variable {σ ν : Type}

namespace View

/-! ## Errands -/

/-- A picture belongs to a result that was adopted, which is still shown if its request is live. -/
structure Belongs (v : View σ ν) (r : Rendering) : Prop where
  request : r.request = some r.result.request
  origin : ∀ k, r.origin = .run k → k = r.result.request
  lt : r.result.request < v.requests.length
  ended : r.result.request ∉ v.compiling
  shown : v.Live r.result.request → v.result = some r.result

theorem Belongs.mono {v v' : View σ ν} {r : Rendering} (h : v.Belongs r)
    (hlength : v.requests.length ≤ v'.requests.length)
    (hcompiling : ∀ k ∈ v'.compiling, k ∈ v.compiling ∨ v.requests.length ≤ k)
    (hshown : v'.Live r.result.request → v'.result = some r.result) : v'.Belongs r where
  request := h.request
  origin := h.origin
  lt := Nat.lt_of_lt_of_le h.lt hlength
  ended hk := (hcompiling _ hk).elim h.ended (Nat.not_le_of_lt h.lt)
  shown := hshown

/-- A request is compiled once, as a run that has not ended, and shown only after that. -/
structure Scheduled (v : View σ ν) : Prop where
  nodup : v.compiling.Nodup
  compiling : ∀ k ∈ v.compiling, k ∈ v.running
  running : ∀ k ∈ v.running, k < v.requests.length
  result : ∀ r, v.result = some r → r.request < v.requests.length ∧ r.request ∉ v.compiling
  drawing : ∀ r, .drawing r ∈ v.errands → v.Belongs r

namespace Scheduled

variable {v : View σ ν} {k : Nat} {errand : Errand σ ν} {rest : Multiset (Errand σ ν)}

theorem compiling_lt (h : v.Scheduled) (hk : k ∈ v.compiling) : k < v.requests.length :=
  h.running k (h.compiling k hk)

theorem submit (h : v.Scheduled) (ho : v.InOrder) (text : String) : (v.submit text).Scheduled := by
  have hcompiling : (v.submit text).compiling = v.requests.length ::ₘ v.compiling :=
    Errand.requests_cons_of_some rfl
  have hnew : v.requests.length ∉ v.compiling := fun hk => Nat.lt_irrefl _ (h.compiling_lt hk)
  refine ⟨?_, ?_, ?_, ?_, ?_⟩
  · rw [hcompiling, Multiset.nodup_cons]
    exact ⟨hnew, h.nodup⟩
  · intro k hk
    rw [hcompiling, Multiset.mem_cons] at hk
    rcases hk with rfl | hk
    · exact List.mem_append_right _ List.mem_cons_self
    · exact List.mem_append_left _ (h.compiling k hk)
  · intro k hk
    rw [length_submit]
    rcases List.mem_append.mp hk with hk | hk
    · exact Nat.lt_succ_of_lt (h.running k hk)
    · rw [List.mem_singleton.mp hk]
      exact Nat.lt_succ_self _
  · intro r hr
    obtain ⟨hlt, hended⟩ := h.result r hr
    rw [length_submit, hcompiling, Multiset.mem_cons, not_or]
    exact ⟨Nat.lt_succ_of_lt hlt, Nat.ne_of_lt hlt, hended⟩
  · intro r hr
    have hr' : .drawing r ∈ v.errands := by simpa [View.submit] using hr
    have hb := h.drawing r hr'
    refine hb.mono (by rw [length_submit]; exact Nat.le_succ _) ?_ ?_
    · intro k hk
      rw [hcompiling, Multiset.mem_cons] at hk
      exact hk.symm.imp id fun hk => Nat.le_of_eq hk.symm
    · intro hlive
      exact absurd ((live_submit ho).mp hlive) (Nat.ne_of_lt hb.lt)

theorem congr {v' : View σ ν} (h : v.Scheduled)
    (hlength : v'.requests.length = v.requests.length) (hlive : ∀ k, v'.Live k → v.Live k)
    (hresult : v'.result = v.result) (herrands : v'.errands = v.errands)
    (hrunning : v'.running = v.running) : v'.Scheduled := by
  have hcompiling : v'.compiling = v.compiling := congrArg Errand.requests herrands
  refine ⟨?_, ?_, ?_, ?_, ?_⟩
  · rw [hcompiling]
    exact h.nodup
  · rw [hcompiling, hrunning]
    exact h.compiling
  · rw [hlength, hrunning]
    exact h.running
  · rw [hlength, hcompiling, hresult]
    exact h.result
  · rw [herrands]
    intro r hr
    refine (h.drawing r hr).mono (Nat.le_of_eq hlength.symm) ?_ fun hr' => ?_
    · rw [hcompiling]
      exact fun k hk => .inl hk
    · rw [hresult]
      exact (h.drawing r hr).shown (hlive _ hr')

/-- Errands may give way to others, of which none compiles another request. -/
theorem reassign (h : v.Scheduled) {errands : Multiset (Errand σ ν)}
    (hrequests : Errand.requests errands ≤ v.compiling)
    (hdrawing : ∀ r, .drawing r ∈ errands → v.Belongs r) :
    ({ v with errands := errands } : View σ ν).Scheduled := by
  have hsub : ∀ k ∈ Errand.requests errands, k ∈ v.compiling :=
    fun k hk => Multiset.mem_of_le hrequests hk
  refine ⟨Multiset.nodup_of_le hrequests h.nodup, fun k hk => h.compiling k (hsub k hk),
    h.running, fun r hr => ⟨(h.result r hr).1, fun hk => (h.result r hr).2 (hsub _ hk)⟩,
    fun r hr => ?_⟩
  exact (hdrawing r hr).mono (Nat.le_refl _) (fun k hk => .inl (hsub k hk)) (hdrawing r hr).shown

theorem leave (h : v.Scheduled) (origin : Origin)
    (hended : ∀ k, origin = .run k → k ∉ v.compiling) :
    ({ v with running := origin.leave v.running } : View σ ν).Scheduled := by
  have hkept : ∀ j ∈ v.compiling, j ∈ origin.leave v.running := by
    intro j hj
    cases origin with
    | command id => exact h.compiling j hj
    | run k =>
      have hne : j ≠ k := fun heq => hended k rfl (heq ▸ hj)
      exact List.mem_filter.mpr ⟨h.compiling j hj, by simpa using hne⟩
  have hsub : ∀ j ∈ origin.leave v.running, j ∈ v.running := by
    intro j hj
    cases origin with
    | command id => exact hj
    | run k => exact (List.mem_filter.mp hj).1
  refine ⟨h.nodup, hkept, fun j hj => h.running j (hsub j hj), h.result, fun r hr => ?_⟩
  exact (h.drawing r hr).mono (Nat.le_refl _) (fun _ => .inl) (h.drawing r hr).shown

/-! ### The end of a errand -/

section Ended

variable (h : v.Scheduled) (herrands : v.errands = errand ::ₘ rest)

include h herrands

omit h in
theorem requests_rest_le : Errand.requests rest ≤ v.compiling := by
  unfold View.compiling
  rw [herrands]
  exact Multiset.filterMap_le_filterMap _ (Multiset.le_cons_self _ _)

theorem belongs_of_rest {r : Rendering} (hr : .drawing r ∈ rest) : v.Belongs r :=
  h.drawing r (by rw [herrands]; exact Multiset.mem_cons_of_mem hr)

theorem withRest : ({ v with errands := rest } : View σ ν).Scheduled :=
  h.reassign (requests_rest_le herrands) fun _ hr => belongs_of_rest h herrands hr

omit h in
theorem compiling_eq_of_some (hk : errand.request? = some k) :
    v.compiling = k ::ₘ Errand.requests rest := by
  unfold View.compiling
  rw [herrands, Errand.requests_cons_of_some hk]

theorem not_mem_rest (hk : errand.request? = some k) : k ∉ Errand.requests rest := by
  have hnodup := h.nodup
  rw [compiling_eq_of_some herrands hk, Multiset.nodup_cons] at hnodup
  exact hnodup.1

theorem abandon (hk : errand.request? = some k) :
    ({ v with errands := rest, running := v.running.filter (· != k) } : View σ ν).Scheduled := by
  refine (withRest h herrands).leave (.run k) fun j hj => ?_
  rw [← Origin.run.inj hj]
  exact not_mem_rest h herrands hk

/-- No picture belongs to a live request that is being compiled. -/
theorem not_live_of_rest (ho : v.InOrder) (hk : errand.request? = some k) (hlive : v.Live k)
    {r : Rendering} (hr : .drawing r ∈ rest) : ¬ v.Live r.result.request := by
  intro hr'
  have hsame : r.result.request = k := by
    have hlast := ((ho.live_iff _).mp hlive).1
    have hlast' := ((ho.live_iff _).mp hr').1
    omega
  refine (belongs_of_rest h herrands hr).ended ?_
  rw [hsame, compiling_eq_of_some herrands hk]
  exact Multiset.mem_cons_self k _

end Ended

theorem adoptRest (h : v.Scheduled) (ho : v.InOrder) {c : Compiled σ ν}
    (herrands : v.errands = .adopting k (.ok c) ::ₘ rest) (hlive : v.Live k) :
    ({ v.adopt k c with errands := rest } : View σ ν).Scheduled := by
  have hrest := withRest h herrands
  refine ⟨hrest.nodup, hrest.compiling, hrest.running, fun r hr => ?_, fun r hr => ?_⟩
  · obtain rfl := Option.some.inj hr
    exact ⟨hlive.lt, not_mem_rest h herrands rfl⟩
  · refine (hrest.drawing r hr).mono (Nat.le_refl _) (fun _ => .inl) fun hr' => ?_
    exact absurd hr' (not_live_of_rest h herrands ho rfl hlive hr)

theorem adopt (h : v.Scheduled) (ho : v.InOrder) {c : Compiled σ ν}
    (herrands : v.errands = .adopting k (.ok c) ::ₘ rest) (hlive : v.Live k) :
    ({ v.adopt k c with errands := rest, running := v.running.filter (· != k) } :
      View σ ν).Scheduled := by
  refine (h.adoptRest ho herrands hlive).leave (.run k) fun j hj => ?_
  rw [← Origin.run.inj hj]
  exact not_mem_rest h herrands rfl

theorem adoptDraw (h : v.Scheduled) (ho : v.InOrder) {c : Compiled σ ν} {artifact : Nat}
    (herrands : v.errands = .adopting k (.ok c) ::ₘ rest) (hlive : v.Live k) :
    ({ v.adopt k c with
      errands := .drawing ⟨.run k, some k, c.resultOf k, artifact⟩ ::ₘ rest } :
      View σ ν).Scheduled := by
  have hadopt := h.adoptRest ho herrands hlive
  refine hadopt.reassign (le_of_eq (Errand.requests_cons_drawing _)) fun r hr => ?_
  rcases Multiset.mem_cons.mp hr with heq | hr
  · obtain rfl := Errand.drawing.inj heq
    exact ⟨rfl, fun j hj => (Origin.run.inj hj).symm, hlive.lt, not_mem_rest h herrands rfl,
      fun _ => rfl⟩
  · exact hadopt.drawing r hr

theorem drop (h : v.Scheduled) {r : Rendering} (herrands : v.errands = .drawing r ::ₘ rest) :
    ({ v with errands := rest, running := r.origin.leave v.running } : View σ ν).Scheduled := by
  have hb : v.Belongs r := h.drawing r (by rw [herrands]; exact Multiset.mem_cons_self _ _)
  refine (withRest h herrands).leave r.origin fun k hk hmem => ?_
  rw [hb.origin k hk] at hmem
  refine hb.ended ?_
  unfold View.compiling
  rw [herrands, Errand.requests_cons_drawing]
  exact hmem

theorem redraw (h : v.Scheduled) {id artifact : Nat} {result : Result}
    (hresult : v.result = some result) :
    ({ v with
      errands := .drawing ⟨.command id, some result.request, result, artifact⟩ ::ₘ v.errands } :
      View σ ν).Scheduled := by
  refine h.reassign (le_of_eq (Errand.requests_cons_drawing _)) fun r hr => ?_
  rcases Multiset.mem_cons.mp hr with heq | hr
  · obtain rfl := Errand.drawing.inj heq
    obtain ⟨hlt, hended⟩ := h.result result hresult
    exact ⟨rfl, nofun, hlt, hended, fun _ => hresult⟩
  · exact h.drawing r hr

theorem move {w : Workshop σ ν} {v' : View σ ν} {m : Option Mark} (h : v.Scheduled)
    (ho : v.InOrder) (hmove : Move w v m v') : v'.Scheduled := by
  cases hmove with
  | stay => exact h
  | edit text => exact h
  | refuse text hclosed => exact h
  | submit text => exact h.submit ho text
  | close =>
    exact h.congr Request.length_withdrawn (fun k hk => (Request.live_withdrawn.mp hk).1) rfl rfl
      rfl
  | compile herrands =>
    refine h.reassign ?_ fun r hr => belongs_of_rest h herrands (by simpa using hr)
    rw [compiling_eq_of_some herrands rfl]
    exact le_of_eq (Errand.requests_cons_of_some rfl)
  | abandon herrands hk => exact abandon h herrands hk
  | adopt herrands hlive => exact h.adopt ho herrands hlive
  | adoptDraw herrands hlive => exact h.adoptDraw ho herrands hlive
  | redraw hresult => exact h.redraw hresult
  | wear a hk => exact h.congr rfl (fun _ => id) rfl rfl rfl
  | drop herrands => exact h.drop herrands
  | display herrands => exact (h.drop herrands).congr rfl (fun _ => id) rfl rfl rfl

end Scheduled

/-! ## Whatever the workshop -/

/-- The requests are in order, and so are the errands. -/
structure Regular (v : View σ ν) : Prop where
  inOrder : v.InOrder
  scheduled : v.Scheduled

theorem Regular.move {w : Workshop σ ν} {v v' : View σ ν} {m : Option Mark} (h : v.Regular)
    (hmove : Move w v m v') : v'.Regular :=
  ⟨h.inOrder.move hmove, h.scheduled.move h.inOrder hmove⟩

end View

theorem Opening.regular_session (o : Opening) : (o.session : Session σ ν).view.Regular := by
  have hnone : ∀ k, ¬ (o.session : Session σ ν).view.Live k := fun k hk => nomatch hk.lt
  refine ⟨⟨fun k => ?_, fun _ => rfl, nofun⟩, ⟨?_, nofun, nofun, nofun, nofun⟩⟩
  · exact ⟨fun hk => absurd hk (hnone k), fun hk => nomatch hk.1⟩
  · exact Multiset.nodup_zero

theorem Opening.regular_run (o : Opening) (w : Workshop σ ν) (es : List Event) :
    (o.run w es).view.Regular :=
  o.run_induction w (P := fun _ s => s.view.Regular) o.regular_session
    (fun _ s e h => h.move (s.step_move w e)) es

end LiveSketch

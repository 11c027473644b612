import LiveSketch.Proofs.Session.Coherence

/-!
# Superseded requests

A request counts until a newer one is made or the session is closed. From then on nothing that is
done on its behalf can be seen:

1. each step belongs to at most one request (`Session.owner?`), and steps that a cancelled request
   owns leave no mark (`mark?_of_owner_cancelled`);
2. moves without a mark leave the face as it is (`Move.face_of_none`);
3. a cancelled request stays cancelled (`Move.not_live`).

So results are adopted in the order of their requests (`Tracked`).
-/

namespace LiveSketch

variable {σ ν : Type}

/-! ## Owners -/

/-- The request on whose behalf a job is done. -/
def Job.owner? : Job → Option Nat
  | .compile request => some request
  | .draw r _ _ => r.request

namespace Session

/-- The request on whose behalf a turn is taken. A picture that a caller asks for is of the newest
request. -/
def turnOwner? (s : Session σ ν) : Turn σ ν → Option Nat
  | .begin request | .adopt request _ => some request
  | .present r _ => r.request
  | .command _ .render | .command _ (.resize _ _) => s.current?
  | .command _ .flush | .wake _ | .recheck _ => none
  | .later next => s.turnOwner? next

/-- The request on whose behalf a step is done. -/
def owner? (s : Session σ ν) : Event → Option Nat
  | .turn place => s.ready[place]?.bind s.turnOwner?
  | .start id command => s.turnOwner? (.command id command)
  | .complete _ => s.jobs.head?.bind Job.owner?
  | .edit _ | .submit _ | .pass _ | .order _ _ | .equip _ | .close => none

variable {s : Session σ ν} {k : Nat}

theorem turnMark?_of_owner_cancelled {t : Turn σ ν} (hk : s.isCancelled k = true)
    (howner : s.turnOwner? t = some k) : s.turnMark? t = none := by
  cases t with
  | adopt request outcome =>
    obtain rfl := Option.some.inj howner
    cases outcome with
    | error halt => rfl
    | ok c => exact if_pos hk
  | present r outcome =>
    have hr : r.request = some k := howner
    cases outcome with
    | error fault => rfl
    | ok p =>
      refine if_pos ?_
      rw [hr]
      exact hk
  | wake serial => cases howner
  | begin request => rfl
  | command id command => rfl
  | recheck id => rfl
  | later next => rfl

/-- What is done on behalf of a cancelled request leaves no mark. -/
theorem mark?_of_owner_cancelled {e : Event} (hk : s.isCancelled k = true)
    (howner : s.owner? e = some k) : s.mark? e = none := by
  cases e with
  | turn place =>
    show s.ready[place]?.bind s.turnMark? = none
    obtain ⟨t, ht, howner⟩ := Option.bind_eq_some_iff.mp howner
    rw [ht]
    exact turnMark?_of_owner_cancelled hk howner
  | start id command => rfl
  | complete foundAt => rfl
  | edit text => cases howner
  | submit text => cases howner
  | pass span => cases howner
  | order id command => cases howner
  | equip plan => cases howner
  | close => cases howner

end Session

/-! ## Moves -/

namespace View

variable {w : Workshop σ ν} {v v' : View σ ν} {m : Option Mark} {k : Nat}

theorem Move.face_of_none (h : Move w v none v') : v'.toFace = v.toFace := by
  cases h <;> rfl

theorem Move.length_le (h : Move w v m v') : v.requests.length ≤ v'.requests.length := by
  cases h with
  | submit text =>
    rw [length_submit]
    exact Nat.le_succ _
  | close => exact Nat.le_of_eq Request.length_withdrawn.symm
  | _ => exact Nat.le_refl _

theorem Move.live (h : Move w v m v') (hk : k < v.requests.length) (hlive : v'.Live k) :
    v.Live k := by
  cases h with
  | submit text =>
    rcases Request.live_append_new.mp hlive with hold | hnew
    · exact (Request.live_withdrawn.mp hold).1
    · rw [Request.length_withdrawn] at hnew
      exact absurd hnew (Nat.ne_of_lt hk)
  | close => exact (Request.live_withdrawn.mp hlive).1
  | _ => exact hlive

theorem Move.compiling (h : Move w v m v') (hk : k ∈ v'.compiling) :
    k ∈ v.compiling ∨ k = v.requests.length := by
  have hrest : ∀ {errand rest}, v.errands = errand ::ₘ rest → k ∈ Errand.requests rest →
      k ∈ v.compiling :=
    fun herrands hmem => Multiset.mem_of_le (Scheduled.requests_rest_le herrands) hmem
  cases h with
  | submit text =>
    have hmem := hk
    unfold View.compiling View.submit at hmem
    rw [Errand.requests_cons_of_some rfl, Multiset.mem_cons] at hmem
    exact hmem.symm
  | compile herrands =>
    unfold View.compiling at hk
    rw [Errand.requests_cons_of_some rfl] at hk
    rw [Scheduled.compiling_eq_of_some herrands rfl]
    exact .inl hk
  | abandon herrands => exact .inl (hrest herrands hk)
  | adopt herrands => exact .inl (hrest herrands hk)
  | adoptDraw herrands =>
    unfold View.compiling at hk
    rw [Errand.requests_cons_drawing] at hk
    exact .inl (hrest herrands hk)
  | redraw =>
    unfold View.compiling at hk
    rw [Errand.requests_cons_drawing] at hk
    exact .inl hk
  | drop herrands => exact .inl (hrest herrands hk)
  | display herrands => exact .inl (hrest herrands hk)
  | _ => exact .inl hk

theorem Move.adopted_or_same (h : Move w v m v') :
    (∃ r, m = some (.adopted r) ∧ v'.result = some r ∧ v.Live r.request ∧
      r.request ∈ v.compiling) ∨ (∀ r, m ≠ some (.adopted r)) ∧ v'.result = v.result := by
  cases h with
  | @adopt k c rest herrands hlive =>
    refine .inl ⟨c.resultOf k, rfl, rfl, hlive, ?_⟩
    rw [Scheduled.compiling_eq_of_some herrands rfl]
    exact Multiset.mem_cons_self _ _
  | @adoptDraw k c rest herrands hlive =>
    refine .inl ⟨c.resultOf k, rfl, rfl, hlive, ?_⟩
    rw [Scheduled.compiling_eq_of_some herrands rfl]
    exact Multiset.mem_cons_self _ _
  | _ => exact .inr ⟨nofun, rfl⟩

end View

/-! ## Adoptions -/

/-- The results adopted in the course of a history. -/
def adoptions (ms : List Mark) : List Result := ms.filterMap Mark.adopted?

@[simp]
theorem adoptions_snoc_adopted (ms : List Mark) (r : Result) :
    adoptions (ms ++ [.adopted r]) = adoptions ms ++ [r] := List.filterMap_append ..

theorem adoptions_append_of_not_adopted (ms : List Mark) {m : Option Mark}
    (h : ∀ r, m ≠ some (.adopted r)) : adoptions (ms ++ m.toList) = adoptions ms := by
  cases m with
  | none => exact congrArg adoptions (List.append_nil ms)
  | some mark =>
    cases mark with
    | adopted r => exact absurd rfl (h r)
    | _ => exact (List.filterMap_append ..).trans (List.append_nil _)

namespace View

/-- Results were adopted in the order of their requests, the one shown last. -/
structure Tracked (ms : List Mark) (v : View σ ν) : Prop where
  last : (adoptions ms).getLast? = v.result
  increasing : ((adoptions ms).map Result.request).Pairwise (· < ·)
  ended : ∀ r ∈ adoptions ms, r.request < v.requests.length ∧ r.request ∉ v.compiling

theorem Tracked.move {w : Workshop σ ν} {v v' : View σ ν} {m : Option Mark} {ms : List Mark}
    (h : v.Tracked ms) (hv : v.Coherent w) (hmove : Move w v m v') :
    v'.Tracked (ms ++ m.toList) := by
  have hended : ∀ r ∈ adoptions ms, r.request < v'.requests.length ∧ r.request ∉ v'.compiling := by
    intro r hr
    obtain ⟨hlt, hout⟩ := h.ended r hr
    refine ⟨Nat.lt_of_lt_of_le hlt hmove.length_le, fun hk => ?_⟩
    exact (hmove.compiling hk).elim hout (Nat.ne_of_lt hlt)
  rcases hmove.adopted_or_same with ⟨r, rfl, hr, hlive, hcompiling⟩ | ⟨hnot, hr⟩
  · show v'.Tracked (ms ++ [.adopted r])
    have hlast : ∀ old ∈ adoptions ms, old.request < r.request := by
      intro old hold
      obtain ⟨hlt, hout⟩ := h.ended old hold
      have hnewest := ((hv.inOrder.live_iff r.request).mp hlive).1
      have hne : old.request ≠ r.request := fun heq => hout (heq ▸ hcompiling)
      omega
    refine ⟨?_, ?_, ?_⟩
    · rw [adoptions_snoc_adopted, hr]
      exact List.getLast?_concat
    · rw [adoptions_snoc_adopted, List.map_append, List.pairwise_append]
      refine ⟨h.increasing, List.pairwise_singleton _ _, fun a ha b hb => ?_⟩
      obtain ⟨old, hold, rfl⟩ := List.mem_map.mp ha
      obtain rfl := List.mem_singleton.mp hb
      exact hlast old hold
    · rw [adoptions_snoc_adopted]
      intro old hold
      rcases List.mem_append.mp hold with hold | hold
      · exact hended old hold
      · obtain rfl := List.mem_singleton.mp hold
        exact (hv.move hmove).scheduled.result old hr
  · have hsame := adoptions_append_of_not_adopted ms hnot
    refine ⟨?_, ?_, ?_⟩
    · rw [hsame, hr]
      exact h.last
    · rw [hsame]
      exact h.increasing
    · rw [hsame]
      exact hended

end View

namespace Opening

variable (o : Opening) (w : Workshop σ ν)

theorem tracked_run (es : List Event) : (o.run w es).view.Tracked (o.history w es) := by
  refine (o.run_induction w (P := fun ms s => s.view.Coherent w ∧ s.view.Tracked ms) ?_ ?_ es).2
  · exact ⟨o.coherent_session w, rfl, List.Pairwise.nil, nofun⟩
  · rintro ms s e ⟨hv, h⟩
    exact ⟨hv.move (s.step_move w e), h.move hv (s.step_move w e)⟩

/-- Once cancelled, a request stays so whatever happens. -/
theorem isCancelled_append (es es' : List Event) {k : Nat}
    (hk : k < (o.run w es).requests.length) (hcancelled : (o.run w es).isCancelled k = true) :
    (o.run w (es ++ es')).isCancelled k = true := by
  have hkept : k < (o.run w (es ++ es')).requests.length ∧
      ¬ (o.run w (es ++ es')).view.Live k := by
    rw [show o.run w (es ++ es') = (o.run w es).run w es' from Session.run_append w _ es es']
    refine Session.run_invariant (P := fun s => k < s.requests.length ∧ ¬ s.view.Live k) ?_
      ⟨hk, Session.not_live_view.mpr hcancelled⟩ es'
    rintro s e ⟨hlt, hdead⟩
    have hmove := s.step_move w e
    exact ⟨Nat.lt_of_lt_of_le hlt hmove.length_le, fun hlive => hdead (hmove.live hlt hlive)⟩
  exact Session.not_live_view.mp hkept.2

/-- **Supersession.** In every run the newest request alone is not cancelled, until the session is
closed. From the step that cancels a request, it stays cancelled and no step on its behalf can be
seen: mode, diagnostics, result, artifact and the calls to the editor stay as they are. The results
adopted are of ever newer requests, and the last of them is the one shown. -/
theorem supersession_safe (es : List Event) :
    (∀ k, (o.run w es).isCancelled k = false ↔
      (o.run w es).current? = some k ∧ (o.run w es).closed = false) ∧
    (∀ k < (o.run w es).requests.length, (o.run w es).isCancelled k = true →
      ∀ es', (o.run w (es ++ es')).isCancelled k = true ∧
        ∀ e, (o.run w (es ++ es')).owner? e = some k →
          (o.run w (es ++ es' ++ [e])).face = (o.run w (es ++ es')).face) ∧
    (adoptions (o.history w es)).getLast? = (o.run w es).result ∧
    ((adoptions (o.history w es)).map Result.request).Pairwise (· < ·) ∧
    ∀ r ∈ adoptions (o.history w es), r.request < (o.run w es).requests.length := by
  have htracked := o.tracked_run w es
  refine ⟨fun k => ?_, fun k hk hcancelled es' => ?_, htracked.last, htracked.increasing,
    fun r hr => (htracked.ended r hr).1⟩
  · rw [← Session.live_view, Session.current?_eq_some]
    exact (o.coherent_run w es).inOrder.live_iff k
  · have hstays := o.isCancelled_append w es es' hk hcancelled
    refine ⟨hstays, fun e howner => ?_⟩
    have hmove := (o.run w (es ++ es')).step_move w e
    rw [Session.mark?_of_owner_cancelled hstays howner] at hmove
    rw [run_snoc]
    exact hmove.face_of_none

end Opening

end LiveSketch

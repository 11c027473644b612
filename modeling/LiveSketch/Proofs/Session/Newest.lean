import LiveSketch.Proofs.Session.Move

/-!
# The newest request

A session's requests are in order when only the newest one can be live and its text is the one
submitted last. Every move keeps that: submitting makes a new request and cancels the one before it,
and closing cancels the newest one.
-/

namespace LiveSketch

variable {σ ν : Type}

/-! ## Requests -/

namespace Request

variable {requests : List Request} {k : Nat}

@[simp]
theorem length_withdrawn : (withdrawn requests).length = requests.length := List.length_modify ..

@[simp]
theorem live_withdrawn :
    Live (withdrawn requests) k ↔ Live requests k ∧ k + 1 ≠ requests.length := by
  unfold Live withdrawn
  rw [List.getElem?_modify]
  cases hk : requests[k]? with
  | none => simp
  | some q =>
    have hlt : k < requests.length := (List.getElem?_eq_some_iff.mp hk).1
    by_cases hlast : k + 1 = requests.length
    · have hindex : requests.length - 1 = k := by omega
      simp [hindex, hlast]
    · have hindex : requests.length - 1 ≠ k := by omega
      simp [hindex, hlast]

@[simp]
theorem sourceIn_withdrawn : sourceIn (withdrawn requests) k = sourceIn requests k := by
  unfold sourceIn withdrawn
  rw [List.getElem?_modify]
  cases requests[k]? with
  | none => rfl
  | some q =>
    show (if _ then _ else q : Request).source = q.source
    split <;> rfl

theorem live_append_new {source : Source} :
    Live (requests ++ [⟨source, false⟩]) k ↔ Live requests k ∨ k = requests.length := by
  unfold Live
  by_cases hlt : k < requests.length
  · rw [List.getElem?_append_left hlt]
    simp [Nat.ne_of_lt hlt]
  · by_cases hk : k = requests.length
    · simp [hk]
    · rw [List.getElem?_append_right (by omega), List.getElem?_eq_none (by simp; omega),
        List.getElem?_eq_none (by omega)]
      simp [hk]

theorem sourceIn_append {more : List Request} (h : k < requests.length) :
    sourceIn (requests ++ more) k = sourceIn requests k := by
  unfold sourceIn
  rw [List.getElem?_append_left h]

theorem sourceIn_append_new {q : Request} :
    sourceIn (requests ++ [q]) requests.length = q.source := by
  unfold sourceIn
  rw [List.getElem?_concat_length]
  rfl

theorem Live.lt (h : Live requests k) : k < requests.length := by
  obtain ⟨q, hq, -⟩ := h
  exact (List.getElem?_eq_some_iff.mp hq).1

end Request

namespace View

open Request (withdrawn sourceIn)

variable {w : Workshop σ ν} {v v' : View σ ν} {m : Option Mark}

/-! ## The newest request -/

/-- Only the newest request is live, unless the session is closed; its text is the last one
submitted. -/
structure InOrder (v : View σ ν) : Prop where
  live_iff : ∀ k, v.Live k ↔ k + 1 = v.requests.length ∧ v.closed = false
  fresh : v.requests = [] → v.lastText = none
  lastText : ∀ k, k + 1 = v.requests.length → v.lastText = some (sourceIn v.requests k).text

theorem live_submit (h : v.InOrder) {text : String} {k : Nat} :
    (v.submit text).Live k ↔ k = v.requests.length := by
  show Request.Live (withdrawn v.requests ++ [_]) k ↔ _
  rw [Request.live_append_new, Request.live_withdrawn, Request.length_withdrawn]
  have hold : ¬ (Request.Live v.requests k ∧ k + 1 ≠ v.requests.length) :=
    fun hk => hk.2 ((h.live_iff k).mp hk.1).1
  simp [hold]

@[simp]
theorem length_submit (text : String) :
    (v.submit text).requests.length = v.requests.length + 1 := by
  show (withdrawn v.requests ++ [_]).length = _
  rw [List.length_append, Request.length_withdrawn]
  rfl

theorem sourceIn_submit {text : String} {k : Nat} (h : k < v.requests.length) :
    sourceIn (v.submit text).requests k = sourceIn v.requests k := by
  show sourceIn (withdrawn v.requests ++ [_]) k = _
  rw [Request.sourceIn_append (by rwa [Request.length_withdrawn]), Request.sourceIn_withdrawn]

theorem sourceIn_submit_new {text : String} :
    sourceIn (v.submit text).requests v.requests.length = .ofString text := by
  have hlength : (withdrawn v.requests).length = v.requests.length := Request.length_withdrawn
  show sourceIn (withdrawn v.requests ++ [_]) _ = _
  rw [← hlength, Request.sourceIn_append_new]

end View

theorem Source.text_ofString (text : String) : (Source.ofString text).text = text :=
  String.ofList_toList

namespace View

theorem InOrder.submit {v : View σ ν} (h : v.InOrder) {text : String} (hopen : v.closed = false) :
    (v.submit text).InOrder where
  live_iff k := by
    rw [live_submit h, length_submit]
    show _ ↔ _ ∧ v.closed = false
    simp [hopen]
  fresh hempty := by
    have hlength := length_submit (v := v) text
    rw [hempty] at hlength
    cases hlength
  lastText k hk := by
    rw [length_submit] at hk
    obtain rfl := Nat.succ.inj hk
    rw [sourceIn_submit_new, Source.text_ofString]
    rfl

theorem InOrder.close {v : View σ ν} (h : v.InOrder) :
    ({ v with requests := Request.withdrawn v.requests, closed := true } : View σ ν).InOrder where
  live_iff k := by
    show Request.Live (Request.withdrawn v.requests) k ↔ _ ∧ true = false
    rw [Request.live_withdrawn]
    have hold : ¬ (Request.Live v.requests k ∧ k + 1 ≠ v.requests.length) :=
      fun hk => hk.2 ((h.live_iff k).mp hk.1).1
    simp [hold]
  fresh hempty := by
    refine h.fresh (List.length_eq_zero_iff.mp ?_)
    rw [← Request.length_withdrawn]
    exact List.length_eq_zero_iff.mpr hempty
  lastText k hk := by
    show v.lastText = some (Request.sourceIn (Request.withdrawn v.requests) k).text
    rw [Request.sourceIn_withdrawn]
    exact h.lastText k (hk.trans Request.length_withdrawn)

theorem InOrder.move {w : Workshop σ ν} {v v' : View σ ν} {m : Option Mark} (h : v.InOrder)
    (hmove : Move w v m v') : v'.InOrder := by
  cases hmove with
  | submit text hopen hnew => exact h.submit hopen
  | close => exact h.close
  | _ => exact ⟨h.live_iff, h.fresh, h.lastText⟩

end View

end LiveSketch

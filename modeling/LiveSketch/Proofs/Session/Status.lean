import LiveSketch.Proofs.Session.Supersession

/-!
# The modes that are announced

The mode is not stored beside what it stands for: submitting a text sets it to work, adopting a
result sets it to the one of the result, and nothing else touches it. So it tells at any time
whether the newest request is the one shown, and the modes announced tell the story of the requests:

1. each request announces that it is worked on, when it is made;
2. its answer, if it has one, comes next, before any later request is made.

`View.Announced` is the story, kept by every move.
-/

namespace LiveSketch

variable {σ ν : Type}

/-! ## Answers -/

/-- The mode that was announced. -/
def Notice.mode? : Notice → Option Mode
  | mode m => some m
  | diagnostics _ _ | picture _ | failure _ | ended _ _ => none

def announcedModes (ns : List Notice) : List Mode := ns.filterMap Notice.mode?

@[simp]
theorem announcedModes_append (ns ns' : List Notice) :
    announcedModes (ns ++ ns') = announcedModes ns ++ announcedModes ns' := List.filterMap_append

@[simp]
theorem announcedModes_filter_isCall (ns : List Notice) :
    announcedModes (ns.filter Notice.isCall) = announcedModes ns := by
  unfold announcedModes
  rw [List.filterMap_filter]
  congr 1
  funext n
  cases n <;> rfl

/-- The answer to a request: the mode of its result, once that was adopted. -/
def answer? (ms : List Mark) (k : Nat) : Option Mode :=
  ((adoptions ms).find? (·.request == k)).map Result.mode

/-- The modes that so many requests announce: each sets to work and may have an answer. -/
def modeStory (answers : Nat → Option Mode) (count : Nat) : List Mode :=
  (List.range count).flatMap fun k => .working :: (answers k).toList

section Answers

variable {ms : List Mark} {k : Nat}

theorem answer?_eq_none (h : ∀ r ∈ adoptions ms, r.request ≠ k) : answer? ms k = none := by
  have hnone : (adoptions ms).find? (·.request == k) = none := by simpa using h
  unfold answer?
  rw [hnone]
  rfl

theorem answer?_append_of_not_adopted {m : Option Mark} (h : ∀ r, m ≠ some (.adopted r)) :
    answer? (ms ++ m.toList) k = answer? ms k := by
  unfold answer?
  rw [adoptions_append_of_not_adopted ms h]

theorem answer?_snoc_adopted {r : Result} (hnew : answer? ms r.request = none) :
    answer? (ms ++ [.adopted r]) k = if k = r.request then some r.mode else answer? ms k := by
  unfold answer? at hnew ⊢
  rw [adoptions_snoc_adopted, List.find?_append]
  by_cases hk : k = r.request
  · have hnone : (adoptions ms).find? (·.request == k) = none := by
      rw [hk]
      exact Option.map_eq_none_iff.mp hnew
    rw [if_pos hk, hnone]
    simp [hk]
  · have hother : [r].find? (·.request == k) = none := by simpa using Ne.symm hk
    rw [if_neg hk, hother, Option.or_none]

theorem modeStory_succ (answers : Nat → Option Mode) (n : Nat) :
    modeStory answers (n + 1) = modeStory answers n ++ .working :: (answers n).toList := by
  unfold modeStory
  rw [List.range_succ, List.flatMap_append]
  simp

theorem modeStory_congr {answers answers' : Nat → Option Mode} {n : Nat}
    (h : ∀ k < n, answers k = answers' k) : modeStory answers n = modeStory answers' n := by
  induction n with
  | zero => rfl
  | succ n ih =>
    rw [modeStory_succ, modeStory_succ, h n (Nat.lt_succ_self n),
      ih fun k hk => h k (Nat.lt_succ_of_lt hk)]

theorem working_before_of_modeStory {answers : Nat → Option Mode} {n : Nat}
    {before after : List Mode} {m : Mode} (h : modeStory answers n = before ++ m :: after)
    (hm : m ≠ .working) : before.getLast? = some .working := by
  induction n generalizing after with
  | zero => simp [modeStory] at h
  | succ n ih =>
    rw [modeStory_succ, List.append_eq_append_iff] at h
    -- the mode stands among those of the newest request, or before them
    rcases h with ⟨mid, rfl, hmid⟩ | ⟨mid, hstory, hmid⟩
    · cases mid with
      | nil =>
        obtain ⟨rfl, -⟩ := List.cons.inj hmid
        exact absurd rfl hm
      | cons first rest =>
        obtain ⟨rfl, hrest⟩ := List.cons.inj hmid
        cases hanswer : answers n with
        | none => simp [hanswer] at hrest
        | some answer =>
          have hnil : rest = [] := by
            rw [hanswer] at hrest
            cases rest with
            | nil => rfl
            | cons second rest => simp at hrest
          rw [hnil]
          exact List.getLast?_concat
    · cases mid with
      | nil =>
        obtain ⟨rfl, -⟩ := List.cons.inj hmid
        exact absurd rfl hm
      | cons first rest =>
        obtain ⟨rfl, -⟩ := List.cons.inj hmid
        exact ih hstory

end Answers

/-! ## The story of the requests -/

namespace View

variable {w : Workshop σ ν} {v v' : View σ ν} {ms : List Mark}

/-- The modes announced are those of the requests made so far and of their answers. -/
def Announced (ms : List Mark) (v : View σ ν) : Prop :=
  announcedModes v.calls = modeStory (answer? ms) v.requests.length

theorem Announced.congr {m : Option Mark} (h : v.Announced ms) (hm : ∀ r, m ≠ some (.adopted r))
    (hcalls : announcedModes v'.calls = announcedModes v.calls)
    (hlength : v'.requests.length = v.requests.length) : v'.Announced (ms ++ m.toList) := by
  have hanswers : answer? (ms ++ m.toList) = answer? ms :=
    funext fun _ => answer?_append_of_not_adopted hm
  unfold Announced
  rw [hcalls, hlength, hanswers]
  exact h

/-- A new request sets to work and has no answer yet. -/
theorem Announced.submit (h : v.Announced ms) (ht : v.Tracked ms) (text : String) :
    (v.submit text).Announced (ms ++ [.offered text]) := by
  have hanswers : answer? (ms ++ [.offered text]) = answer? ms :=
    funext fun _ => answer?_append_of_not_adopted (m := some (.offered text)) nofun
  have hnew : answer? ms v.requests.length = none :=
    answer?_eq_none fun r hr => Nat.ne_of_lt (ht.ended r hr).1
  show announcedModes (v.calls ++ [.mode .working]) = _
  rw [announcedModes_append, h, length_submit, hanswers, modeStory_succ, hnew]
  rfl

/-- The answer of the newest request comes right after it. -/
theorem Announced.adopt (h : v.Announced ms) (hv : v.Coherent w) (ht : v.Tracked ms) {k : Nat}
    {c : Compiled σ ν} {rest : Multiset (Errand σ ν)}
    (herrands : v.errands = .adopting k (.ok c) ::ₘ rest) (hlive : v.Live k)
    (hcalls : v'.calls = (v.adopt k c).calls) (hrequests : v'.requests = v.requests) :
    v'.Announced (ms ++ [.adopted (c.resultOf k)]) := by
  have hnewest : k + 1 = v.requests.length := ((hv.inOrder.live_iff k).mp hlive).1
  have hcompiling : k ∈ v.compiling := by
    rw [Scheduled.compiling_eq_of_some herrands rfl]
    exact Multiset.mem_cons_self _ _
  have hnone : answer? ms k = none :=
    answer?_eq_none fun r hr heq => (ht.ended r hr).2 (heq ▸ hcompiling)
  have hanswers := fun j => answer?_snoc_adopted (k := j) (r := c.resultOf k) hnone
  have hold : modeStory (answer? (ms ++ [.adopted (c.resultOf k)])) k =
      modeStory (answer? ms) k :=
    modeStory_congr fun j hj => (hanswers j).trans (if_neg (Nat.ne_of_lt hj))
  have hanswer : answer? (ms ++ [.adopted (c.resultOf k)]) k = some (c.resultOf k).mode :=
    (hanswers k).trans (if_pos rfl)
  have hbefore : announcedModes v.calls = modeStory (answer? ms) k ++ [.working] := by
    rw [h, ← hnewest, modeStory_succ, hnone]
    rfl
  unfold Announced
  rw [hcalls, hrequests, ← hnewest, modeStory_succ, hold, hanswer]
  show announcedModes (v.calls ++ [_, _]) = _
  rw [announcedModes_append, hbefore, List.append_assoc]
  rfl

theorem Announced.move {m : Option Mark} (h : v.Announced ms) (hv : v.Coherent w)
    (ht : v.Tracked ms) (hmove : Move w v m v') : v'.Announced (ms ++ m.toList) := by
  cases hmove with
  | submit text => exact h.submit ht text
  | adopt herrands hlive => exact h.adopt hv ht herrands hlive rfl rfl
  | adoptDraw herrands hlive => exact h.adopt hv ht herrands hlive rfl rfl
  | close => exact h.congr nofun rfl Request.length_withdrawn
  | @display r rest herrands hlive p =>
    refine h.congr nofun ?_ rfl
    show announcedModes (v.calls ++ ((if _ then _ else _) ++ _)) = _
    split <;> simp [announcedModes, Notice.mode?]
  | _ => exact h.congr nofun rfl rfl

end View

/-! ## The mode -/

theorem Result.mode_ne_working (r : Result) : r.mode ≠ .working := by
  unfold Result.mode
  split <;> simp

namespace Session

variable {w : Workshop σ ν} {s : Session σ ν}

theorem mode_eq_working_iff (hs : s.view.Coherent w) :
    s.mode = .working ↔ s.current? ≠ s.shown? := by
  constructor
  · intro hmode hsame
    cases hr : s.result with
    | none =>
      have hnone : s.current? = none := by rw [hsame, shown?, hr]; rfl
      have hempty : s.requests.length = 0 := by simpa [current?] using hnone
      have hready : s.mode = View.modeFor s.requests s.result := hs.settled.mode
      rw [hr, View.modeFor, if_pos hempty, hmode] at hready
      cases hready
    | some r =>
      have hcurrent : s.current? = some r.request := by rw [hsame, shown?_of_result hr]
      exact r.mode_ne_working ((mode_of_shown hs hr hcurrent).symm.trans hmode)
  · intro hother
    cases hk : s.current? with
    | some k => exact mode_of_not_shown hs hk fun hshown => hother (hk.trans hshown.symm)
    | none =>
      -- without requests there is nothing to show
      have hempty : s.requests = [] := by simpa [current?] using hk
      have hshown : s.shown? = none := by
        cases hr : s.result with
        | none => rw [shown?, hr]; rfl
        | some r =>
          have hlt : r.request < s.requests.length := (hs.scheduled.result r hr).1
          simp [hempty] at hlt
      exact absurd (hk.trans hshown.symm) hother

theorem mode_of_current_eq_shown (hs : s.view.Coherent w) (h : s.current? = s.shown?) :
    s.mode = s.result.elim .ready Result.mode := by
  cases hr : s.result with
  | some r => exact mode_of_shown hs hr (h.trans (shown?_of_result hr))
  | none =>
    have hnone : s.current? = none := by rw [h, shown?, hr]; rfl
    have hempty : s.requests.length = 0 := by simpa [current?] using hnone
    have hmode : s.mode = View.modeFor s.requests s.result := hs.settled.mode
    rw [hmode, hr]
    exact if_pos hempty

end Session

namespace Opening

variable (o : Opening) (w : Workshop σ ν)

theorem announced_run (es : List Event) : (o.run w es).view.Announced (o.history w es) := by
  refine (o.run_induction w
    (P := fun ms s => s.view.Coherent w ∧ s.view.Tracked ms ∧ s.view.Announced ms) ?_ ?_ es).2.2
  · exact ⟨o.coherent_session w, o.tracked_run w [], rfl⟩
  · rintro ms s e ⟨hv, ht, h⟩
    have hmove := s.step_move w e
    exact ⟨hv.move hmove, ht.move hv hmove, h.move hv ht hmove⟩

/-- **Modes.** After every run the session is at work exactly if the newest request is not the one
shown; otherwise its mode is that of the result, or ready before there is one. The modes announced
are those of the requests in order: each sets to work, and is answered at most once, before the next
is made. So whatever is announced but work comes right after work. -/
theorem mode_follows_requests (es : List Event) :
    ((o.run w es).mode = .working ↔ (o.run w es).current? ≠ (o.run w es).shown?) ∧
    ((o.run w es).current? = (o.run w es).shown? →
      (o.run w es).mode = (o.run w es).result.elim .ready Result.mode) ∧
    announcedModes (o.run w es).transcript =
      modeStory (answer? (o.history w es)) (o.run w es).requests.length ∧
    ∀ before m after, announcedModes (o.run w es).transcript = before ++ m :: after →
      m ≠ .working → before.getLast? = some .working := by
  have hs := o.coherent_run w es
  have hstory : announcedModes (o.run w es).transcript =
      modeStory (answer? (o.history w es)) (o.run w es).requests.length := by
    rw [← announcedModes_filter_isCall]
    exact o.announced_run w es
  refine ⟨Session.mode_eq_working_iff hs, Session.mode_of_current_eq_shown hs, hstory, ?_⟩
  intro before m after hmodes hm
  exact working_before_of_modeStory (hstory.symm.trans hmodes) hm

end Opening

end LiveSketch

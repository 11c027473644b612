import Mathlib.Data.List.Destutter
import Mathlib.Data.List.Range
import LiveSketch.Proofs.Session.Easel
import LiveSketch.Proofs.Session.Newest
import LiveSketch.Proofs.Session.Watch

/-!
# Texts that have rested

Each edit of a run has its time, and so has each text that is offered. An edit is offered when its
text has rested, which is when no other edit comes before: `rested` computes these from the edits
alone.

1. The beats of a run are dated; `edits`, `offers` and `taken` read them.
2. `Keeps` ties these to the watch, and every tick keeps that (`Keeps.tick`): an edit takes the place
   of the one that waits, and a wait that is over is noticed at its deadline, since time goes on only
   after that.
-/

namespace LiveSketch

variable {σ ν : Type}

/-! ## Rows of edits -/

/-- A text, and when it was edited or offered. -/
structure TimedText where
  time : Int
  text : String
deriving DecidableEq, Repr

namespace TimedText

def after (x : TimedText) (d : Int) : TimedText := ⟨x.time + d, x.text⟩

/-- What follows the edits of a row: the first edit of the row behind it, or what follows that. -/
def follower (xs : List TimedText) (next : Option Int) : Option Int := (xs.head?.map time).or next

/-- The edits of a row after which the text rests for `d`, at the time when it has. The row is
followed by an edit at time `next`, if by any. -/
def rested (d : Int) (next : Option Int) : List TimedText → List TimedText
  | [] => []
  | x :: xs =>
    (if (follower xs next).all (x.time + d < ·) then [x.after d] else []) ++ rested d next xs

variable {d : Int} {next : Option Int} {xs ys : List TimedText} {x y : TimedText}

theorem rested_append :
    rested d next (xs ++ ys) = rested d (follower ys next) xs ++ rested d next ys := by
  induction xs with
  | nil => rfl
  | cons x xs ih =>
    have hfollower : follower (xs ++ ys) next = follower xs (follower ys next) := by
      unfold follower
      rw [List.head?_append, Option.map_or, Option.or_assoc]
    rw [List.cons_append, rested, rested, hfollower, ih, List.append_assoc]

/-- The last edit of a row rests if nothing follows. -/
theorem rested_concat :
    rested d none (xs ++ [x]) = rested d (some x.time) xs ++ [x.after d] := rested_append

/-- The last edit of a row does not rest if it is followed too early. -/
theorem rested_concat_early (h : y.time ≤ x.time + d) :
    rested d (some y.time) (xs ++ [x]) = rested d (some x.time) xs := by
  have hnone : rested d (some y.time) [x] = [] := by
    simpa [rested, follower] using h
  rw [rested_append, hnone, List.append_nil]
  rfl

/-- The last edit of a row rests if it is followed late. -/
theorem rested_concat_late (h : x.time + d < y.time) :
    rested d (some y.time) (xs ++ [x]) = rested d none (xs ++ [x]) := by
  have hsome : rested d (some y.time) [x] = [x.after d] := by
    simpa [rested, follower] using h
  rw [rested_append, rested_append, hsome]
  rfl

/-- No edit comes exactly `d` after the one before. -/
def Apart (d : Int) (xs : List TimedText) : Prop := xs.IsChain fun a b => b.time ≠ a.time + d

/-- Of edits that follow each other early only the last one may rest. -/
theorem rested_of_burst (h : xs.IsChain fun a b => b.time < a.time + d) :
    rested d next xs = [] ∨ ∃ x, xs.getLast? = some x ∧ rested d next xs = [x.after d] := by
  induction xs with
  | nil => exact .inl rfl
  | cons x xs ih =>
    cases xs with
    | nil =>
      by_cases hlate : (follower [] next).all (x.time + d < ·) = true
      · exact .inr ⟨x, rfl, by simp [rested, hlate]⟩
      · exact .inl (by simp [rested, hlate])
    | cons y ys =>
      have hearly : ¬ (follower (y :: ys) next).all (x.time + d < ·) = true := by
        have := (List.isChain_cons_cons.mp h).1
        simp [follower]
        omega
      have hrest : rested d next (x :: y :: ys) = rested d next (y :: ys) := by
        show ite _ _ _ ++ _ = _
        rw [if_neg hearly, List.nil_append]
      rw [hrest, List.getLast?_cons_cons]
      exact ih (List.isChain_cons_cons.mp h).2

end TimedText

/-! ## Rows without repetitions -/

/-- A text that is like the last one of a row is no change. -/
theorem destutter'_concat (a b : String) (l : List String) :
    (l ++ [a]).destutter' (· ≠ ·) b = l.destutter' (· ≠ ·) b ++
      if (b :: l).getLast? = some a then [] else [a] := by
  induction l generalizing b with
  | nil =>
    rw [List.nil_append, List.destutter'_singleton]
    by_cases h : b = a <;> simp [h]
  | cons c l ih =>
    rw [List.cons_append]
    by_cases h : b = c
    · subst h
      rw [List.destutter'_cons_neg _ (not_not.mpr rfl), List.destutter'_cons_neg _ (not_not.mpr rfl),
        ih, List.getLast?_cons_cons]
    · rw [List.destutter'_cons_pos _ h, List.destutter'_cons_pos _ h, ih, List.getLast?_cons_cons,
        List.cons_append]

theorem destutter_concat (a : String) (l : List String) :
    (l ++ [a]).destutter (· ≠ ·) =
      l.destutter (· ≠ ·) ++ if l.getLast? = some a then [] else [a] := by
  cases l with
  | nil => rfl
  | cons b l => exact destutter'_concat a b l

/-! ## Dated beats -/

namespace Beat

def edit? : Int × Beat → Option TimedText
  | (time, edited text) => some ⟨time, text⟩
  | _ => none

def offer? : Int × Beat → Option TimedText
  | (time, offered text) => some ⟨time, text⟩
  | _ => none

/-- The request whose compile the worker takes up at a dated beat. -/
def taken? : Int × Beat → Option Nat
  | (_, taken request) => some request
  | _ => none

def edits (beats : List (Int × Beat)) : List TimedText := beats.filterMap edit?

/-- The texts that were offered among dated beats. -/
def offers (beats : List (Int × Beat)) : List TimedText := beats.filterMap offer?

/-- The requests whose compiles the worker took up among dated beats. -/
def takings (beats : List (Int × Beat)) : List Nat := beats.filterMap taken?

theorem edits_append (beats more : List (Int × Beat)) :
    edits (beats ++ more) = edits beats ++ edits more := List.filterMap_append

theorem filterMap_dated {α : Type} (f : Int × Beat → Option α) (time : Int) (beat? : Option Beat) :
    (beat?.toList.map (time, ·)).filterMap f = (beat?.bind fun beat => f (time, beat)).toList := by
  cases beat? with
  | none => rfl
  | some beat =>
    show [(time, beat)].filterMap f = (f (time, beat)).toList
    cases h : f (time, beat) <;> simp [h]

end Beat

namespace Session

/-- The beats of a run with their times. -/
def beats (w : Workshop σ ν) (s : Session σ ν) : List Event → List (Int × Beat)
  | [] => []
  | e :: es => (s.beat? e).toList.map (s.now, ·) ++ (s.step w e).beats w es

theorem beats_append (w : Workshop σ ν) (s : Session σ ν) (es es' : List Event) :
    s.beats w (es ++ es') = s.beats w es ++ (s.run w es).beats w es' := by
  induction es generalizing s with
  | nil => rfl
  | cons e es ih =>
    show _ ++ (s.step w e).beats w (es ++ es') = _ ++ _ ++ _
    rw [ih, List.append_assoc]
    rfl

end Session

namespace Opening

variable (o : Opening) (w : Workshop σ ν) (es : List Event)

/-- The beats of a run with their times. -/
def beats : List (Int × Beat) := (o.session : Session σ ν).beats w es

def edits : List TimedText := Beat.edits (o.beats w es)

/-- The texts that a run offers for submission. -/
def offers : List TimedText := Beat.offers (o.beats w es)

/-- The requests whose compiles the worker takes up in the course of a run. -/
def taken : List Nat := Beat.takings (o.beats w es)

theorem beats_snoc (e : Event) : o.beats w (es ++ [e]) =
    o.beats w es ++ ((o.run w es).beat? e).toList.map ((o.run w es).now, ·) := by
  unfold beats
  rw [Session.beats_append]
  show _ ++ (_ ++ []) = _
  rw [List.append_nil]
  rfl

theorem edits_snoc (e : Event) : o.edits w (es ++ [e]) = o.edits w es ++
    (((o.run w es).beat? e).bind fun beat => Beat.edit? ((o.run w es).now, beat)).toList := by
  unfold edits Beat.edits
  rw [beats_snoc, List.filterMap_append, Beat.filterMap_dated]

theorem offers_snoc (e : Event) : o.offers w (es ++ [e]) = o.offers w es ++
    (((o.run w es).beat? e).bind fun beat => Beat.offer? ((o.run w es).now, beat)).toList := by
  unfold offers Beat.offers
  rw [beats_snoc, List.filterMap_append, Beat.filterMap_dated]

theorem taken_snoc (e : Event) : o.taken w (es ++ [e]) = o.taken w es ++
    (((o.run w es).beat? e).bind fun beat => Beat.taken? ((o.run w es).now, beat)).toList := by
  unfold taken Beat.takings
  rw [beats_snoc, List.filterMap_append, Beat.filterMap_dated]

end Opening

/-! ## What the watch keeps -/

def Request.text (q : Request) : String := q.source.text

theorem Request.map_text_withdrawn (requests : List Request) :
    (withdrawn requests).map text = requests.map text := by
  refine List.ext_getElem? fun k => ?_
  unfold withdrawn
  rw [List.getElem?_map, List.getElem?_modify, List.getElem?_map]
  cases requests[k]? with
  | none => rfl
  | some q =>
    show some (text (ite _ _ _)) = some (text q)
    split <;> rfl

namespace Watch

/-- The edit that waits, at the time when its text will have rested. -/
def pending? (v : Watch) : Option TimedText := v.timer.map fun t => ⟨t.deadline, t.text⟩

/-- The compiles of all requests have begun, or of all but the newest one, which is about to begin
before another text can have rested. -/
inductive Begun (v : Watch) (begun : List Nat) : Prop where
  | all (hstarts : v.starts = 0) (hbegun : begun = List.range v.requests.length)
  | butLast {request : Nat} (hstarts : v.starts = {request})
    (hlast : request + 1 = v.requests.length) (hbegun : begun = List.range request)
    (hlive : Request.Live v.requests request)
    (hnow : ∀ timer, v.timer = some timer → v.now < timer.deadline)

/-- The compiles that have begun and those that are about to are those of all requests. -/
theorem Begun.append_starts {v : Watch} {begun starts : List Nat} (h : v.Begun begun)
    (hstarts : v.starts = ↑starts) : begun ++ starts = List.range v.requests.length := by
  cases h with
  | all hnone hbegun =>
    have hnil : starts = [] := (Multiset.coe_eq_zero _).mp (hstarts.symm.trans hnone)
    rw [hnil, List.append_nil]
    exact hbegun
  | @butLast request hone hlast hbegun =>
    have hsome : starts = [request] := Multiset.coe_eq_singleton.mp (hstarts.symm.trans hone)
    rw [hsome, hbegun, ← List.range_succ]
    exact congrArg List.range hlast

/-- What the edits so far, the texts offered and the compiles taken up have to do with the watch. -/
structure Keeps (d : Int) (edits offers : List TimedText) (taken : List Nat) (v : Watch) :
    Prop where
  opened : v.closed = false
  /-- The waits are numbered by the edits. -/
  count : v.timerCount = edits.length
  /-- The edit that waits is the newest one, and has not waited too long. -/
  waiting : ∀ timer, v.timer = some timer → timer.serial + 1 = v.timerCount ∧
    v.now ≤ timer.deadline ∧ ∃ earlier x, edits = earlier ++ [x] ∧
      x.after d = ⟨timer.deadline, timer.text⟩
  /-- If no edit waits then the newest one has rested. -/
  idle : v.timer = none → ∀ earlier x, edits = earlier ++ [x] → x.time + d ≤ v.now
  /-- The ends of waits that stand in the queue are over. -/
  due : ∀ serial, .wait serial ∈ v.cues → serial < v.timerCount ∧
    ∀ timer, v.timer = some timer → timer.serial = serial → timer.deadline ≤ v.now
  /-- The end of the wait stands in the queue once, from the time when it is over. -/
  once : ∀ timer, v.timer = some timer →
    v.cues.count (.wait timer.serial) = if v.now < timer.deadline then 0 else 1
  offered : offers ++ v.pending?.toList = TimedText.rested d none edits
  requests : v.requests.map Request.text = (offers.map TimedText.text).destutter (· ≠ ·)
  last : v.lastText = (offers.map TimedText.text).getLast?
  started : v.Begun (taken ++ v.compiles)

namespace Keeps

variable {w : Workshop σ ν} {edits offers : List TimedText} {taken : List Nat} {v : Watch} {d : Int}

/-- If all edits follow each other early there is at most one request, of the last text. -/
theorem requests_of_burst (h : v.Keeps d edits offers taken)
    (hburst : edits.IsChain fun a b => b.time < a.time + d) :
    v.requests.map Request.text <+: (edits.getLast?.map TimedText.text).toList := by
  rw [h.requests]
  have hrested : TimedText.rested d none edits = [] ∨ _ := TimedText.rested_of_burst hburst
  rcases hrested with hnone | ⟨x, hx, hone⟩
  · have hnil : offers = [] := (List.append_eq_nil_iff.mp (h.offered.trans hnone)).1
    rw [hnil]
    exact List.nil_prefix
  · rcases List.append_eq_singleton_iff.mp (h.offered.trans hone) with ⟨hnil, -⟩ | ⟨hsome, -⟩
    · rw [hnil]
      exact List.nil_prefix
    · rw [hsome, hx]
      exact List.prefix_refl _

/-! ### Edits -/

/-- Another edit leaves the ones that rest before it as they are: those that were offered. -/
theorem rested_before (h : v.Keeps d edits offers taken) (text : String)
    (hgap : TimedText.Apart d (edits ++ [⟨v.now, text⟩])) :
    TimedText.rested d (some v.now) edits = offers := by
  cases htimer : v.timer with
  | some timer =>
    -- the newest edit still waits, so its text has not rested
    obtain ⟨-, hnow, earlier, x, hedits, hx⟩ := h.waiting timer htimer
    have hoffers := h.offered
    have hearly : v.now ≤ x.time + d := hnow.trans_eq (congrArg TimedText.time hx).symm
    rw [hedits, TimedText.rested_concat, hx] at hoffers
    rw [hedits, TimedText.rested_concat_early (y := ⟨v.now, text⟩) hearly]
    exact List.append_cancel_right (hoffers.symm.trans (by simp [pending?, htimer]))
  | none =>
    -- the newest edit has rested, and not just now
    have hoffers : offers = TimedText.rested d none edits := by
      simpa [pending?, htimer] using h.offered
    rw [hoffers]
    rcases List.eq_nil_or_concat edits with hedits | ⟨earlier, x, hedits⟩
    · rw [hedits]
      rfl
    · rw [List.concat_eq_append] at hedits
      rw [hedits, List.append_assoc] at hgap
      have hne : v.now ≠ x.time + d := (List.isChain_append_cons_cons.mp hgap).2.1
      have hle := h.idle htimer earlier x hedits
      rw [hedits, TimedText.rested_concat_late (y := ⟨v.now, text⟩)
        (Int.lt_iff_le_and_ne.mpr ⟨hle, hne.symm⟩)]

theorem edit (h : v.Keeps d edits offers taken) (hd : 0 < d) (text : String)
    (hgap : TimedText.Apart d (edits ++ [⟨v.now, text⟩])) :
    Keeps d (edits ++ [⟨v.now, text⟩]) offers taken
      { v with timer := some ⟨v.timerCount, v.now + d, text⟩, timerCount := v.timerCount + 1 } := by
  have hlater : v.now < v.now + d := Int.lt_add_of_pos_right _ hd
  refine ⟨h.opened, ?_, ?_, nofun, ?_, ?_, ?_, h.requests, h.last, ?_⟩
  · rw [List.length_append, ← h.count]
    rfl
  · rintro timer ⟨⟩
    exact ⟨rfl, Int.le_of_lt hlater, _, _, rfl, rfl⟩
  · intro serial hserial
    obtain ⟨hlt, -⟩ := h.due serial hserial
    refine ⟨Nat.lt_succ_of_lt hlt, ?_⟩
    rintro timer ⟨⟩ heq
    exact absurd heq (Nat.ne_of_gt hlt)
  · rintro timer ⟨⟩
    have hnew : .wait v.timerCount ∉ v.cues := fun hmem => Nat.lt_irrefl _ (h.due _ hmem).1
    rw [if_pos hlater]
    exact Multiset.count_eq_zero_of_notMem hnew
  · rw [TimedText.rested_concat, h.rested_before text hgap]
    rfl
  · cases h.started with
    | all hstarts hbegun => exact .all hstarts hbegun
    | butLast hstarts hlast hbegun hlive =>
      refine .butLast hstarts hlast hbegun hlive ?_
      rintro timer ⟨⟩
      exact hlater

/-! ### Waits -/

/-- Time goes on while no compile is about to begin, whatever cue there then is. -/
theorem later (h : v.Keeps d edits offers taken) {now : Int} {cues : Multiset Cue}
    (hnow : v.now ≤ now) (htimer : ∀ timer, v.timer = some timer → now ≤ timer.deadline)
    (hdue : ∀ serial, .wait serial ∈ cues → serial < v.timerCount ∧
      ∀ timer, v.timer = some timer → timer.serial = serial → timer.deadline ≤ now)
    (honce : ∀ timer, v.timer = some timer →
      cues.count (.wait timer.serial) = if now < timer.deadline then 0 else 1)
    (hstarts : v.starts = 0) (hstarts' : cues.filterMap Cue.start? = v.starts) :
    Keeps d edits offers taken { v with now := now, cues := cues } := by
  refine ⟨h.opened, h.count, ?_, ?_, hdue, honce, h.offered, h.requests, h.last, ?_⟩
  · intro timer heq
    obtain ⟨hserial, -, hlast⟩ := h.waiting timer heq
    exact ⟨hserial, htimer timer heq, hlast⟩
  · intro hnone earlier x hedits
    exact (h.idle hnone earlier x hedits).trans hnow
  · cases h.started with
    | all _ hbegun => exact .all (hstarts'.trans hstarts) hbegun
    | butLast hone => exact absurd (hstarts.symm.trans hone) (Multiset.singleton_ne_zero _).symm

theorem pass (h : v.Keeps d edits offers taken) {span : Int} (hspan : 0 ≤ span)
    (htimer : ∀ timer, v.timer = some timer → v.now + span ≤ timer.deadline)
    (hstarts : v.starts = 0)
    (hasleep : ∀ timer, v.timer = some timer → v.now < timer.deadline →
      v.now + span < timer.deadline) :
    Keeps d edits offers taken { v with now := v.now + span } := by
  have hnow : v.now ≤ v.now + span := Int.le_add_of_nonneg_right hspan
  refine h.later hnow htimer (fun serial hserial => ?_) (fun timer heq => ?_) hstarts rfl
  · obtain ⟨hlt, hover⟩ := h.due serial hserial
    exact ⟨hlt, fun timer heq hs => (hover timer heq hs).trans hnow⟩
  · have hsame : v.now < timer.deadline ↔ v.now + span < timer.deadline :=
      ⟨hasleep timer heq, fun hlt => Int.lt_of_le_of_lt hnow hlt⟩
    rw [h.once timer heq]
    exact if_congr hsame rfl rfl

theorem rouse (h : v.Keeps d edits offers taken) {span : Int} (hspan : 0 ≤ span) {timer : Timer}
    (htimer : v.timer = some timer) (hstarts : v.starts = 0) (hasleep : v.now < timer.deadline)
    (hdue : v.now + span = timer.deadline) :
    Keeps d edits offers taken
      { v with now := v.now + span, cues := .wait timer.serial ::ₘ v.cues } := by
  have hnow : v.now ≤ v.now + span := Int.le_add_of_nonneg_right hspan
  have hone : ∀ {timer' : Timer}, v.timer = some timer' → timer' = timer :=
    fun heq => Option.some.inj (heq.symm.trans htimer)
  refine h.later hnow ?_ (fun serial hserial => ?_) ?_ hstarts (Multiset.filterMap_cons_none _ _ rfl)
  · intro timer' heq
    rw [hone heq]
    exact hdue.le
  · rcases Multiset.mem_cons.mp hserial with hnew | hold
    · obtain rfl := Cue.wait.inj hnew
      refine ⟨Nat.lt_of_succ_le (h.waiting timer htimer).1.le, fun timer' heq _ => ?_⟩
      rw [hone heq]
      exact hdue.ge
    · obtain ⟨hlt, hover⟩ := h.due serial hold
      exact ⟨hlt, fun timer' heq hs => (hover timer' heq hs).trans hnow⟩
  · intro timer' heq
    rw [hone heq, Multiset.count_cons_self, h.once timer htimer, if_pos hasleep,
      if_neg (Int.not_lt.mpr hdue.ge)]

theorem lapse (h : v.Keeps d edits offers taken) {serial : Nat} {rest : Multiset Cue}
    (hcues : v.cues = .wait serial ::ₘ rest)
    (htimer : ∀ timer, v.timer = some timer → timer.serial ≠ serial) :
    Keeps d edits offers taken { v with cues := rest } := by
  have hstarts : v.starts = Watch.starts { v with cues := rest } := starts_of_wait hcues
  refine ⟨h.opened, h.count, h.waiting, h.idle, ?_, ?_, h.offered, h.requests, h.last, ?_⟩
  · intro serial hserial
    exact h.due serial (by rw [hcues]; exact Multiset.mem_cons_of_mem hserial)
  · intro timer heq
    have hne : Cue.wait timer.serial ≠ .wait serial := fun hcue =>
      htimer timer heq (Cue.wait.inj hcue)
    rw [← h.once timer heq, hcues, Multiset.count_cons_of_ne hne]
  · cases h.started with
    | all hall hbegun => exact .all (hstarts ▸ hall) hbegun
    | butLast hone hlast hbegun hlive hnow => exact .butLast (hstarts ▸ hone) hlast hbegun hlive hnow

/-! ### Offers -/

section Offered

variable {timer : Timer} {rest : Multiset Cue} (h : v.Keeps d edits offers taken)
  (htimer : v.timer = some timer) (hcues : v.cues = .wait timer.serial ::ₘ rest)

include h htimer hcues

theorem deadline_eq_now : timer.deadline = v.now := by
  have hcue : .wait timer.serial ∈ v.cues := by
    rw [hcues]
    exact Multiset.mem_cons_self _ _
  exact Int.le_antisymm ((h.due _ hcue).2 timer htimer rfl) (h.waiting timer htimer).2.1

/-- While a text that has rested is offered no compile is about to begin. -/
theorem begun_of_due :
    rest.filterMap Cue.start? = 0 ∧ taken ++ v.compiles = List.range v.requests.length := by
  cases h.started with
  | all hstarts hbegun => exact ⟨(starts_of_wait hcues).symm.trans hstarts, hbegun⟩
  | butLast _ _ _ _ hnow =>
    exact absurd (hnow timer htimer) (h.deadline_eq_now htimer hcues).not_gt

/-- Offering a text that has rested, whatever requests and cues that leads to. -/
theorem offer {cues : Multiset Cue} {requests : List Request}
    (hrest : ∀ serial, .wait serial ∈ cues → .wait serial ∈ rest)
    (hrequests : requests.map Request.text =
      (offers.map TimedText.text ++ [timer.text]).destutter (· ≠ ·))
    (hbegun : Watch.Begun
      { v with timer := none, requests := requests, lastText := some timer.text, cues := cues }
      (taken ++ v.compiles)) :
    Keeps d edits (offers ++ [⟨v.now, timer.text⟩]) taken
      { v with timer := none, requests := requests, lastText := some timer.text, cues := cues } := by
  have hnow := h.deadline_eq_now htimer hcues
  obtain ⟨-, -, earlier, x, hedits, hx⟩ := h.waiting timer htimer
  have htexts : (offers ++ [TimedText.mk v.now timer.text]).map TimedText.text =
      offers.map TimedText.text ++ [timer.text] := List.map_append
  refine ⟨h.opened, h.count, nofun, ?_, ?_, nofun, ?_, htexts ▸ hrequests, ?_, hbegun⟩
  · intro _ earlier' x' hedits'
    obtain rfl : x = x' := by simpa using (List.append_inj' (hedits.symm.trans hedits') rfl).2
    exact (congrArg TimedText.time hx).trans_le hnow.le
  · intro serial hserial
    have hold : .wait serial ∈ v.cues := by
      rw [hcues]
      exact Multiset.mem_cons_of_mem (hrest serial hserial)
    exact ⟨(h.due serial hold).1, nofun⟩
  · have hoffers : offers ++ [⟨timer.deadline, timer.text⟩] = TimedText.rested d none edits := by
      simpa [pending?, htimer] using h.offered
    rw [← hoffers, hnow]
    exact List.append_nil _
  · rw [htexts, List.getLast?_concat]

theorem refuse (hlast : v.lastText = some timer.text) :
    Keeps d edits (offers ++ [⟨v.now, timer.text⟩]) taken
      { v with timer := none, cues := rest } := by
  obtain ⟨hrest, hbegun⟩ := h.begun_of_due htimer hcues
  have hrequests : v.requests.map Request.text =
      (offers.map TimedText.text ++ [timer.text]).destutter (· ≠ ·) := by
    rw [destutter_concat, if_pos (h.last.symm.trans hlast), List.append_nil]
    exact h.requests
  have hoffer := h.offer htimer hcues (fun _ => id) hrequests (.all hrest hbegun)
  rw [← hlast] at hoffer
  exact hoffer

theorem submit (hlast : v.lastText ≠ some timer.text) :
    Keeps d edits (offers ++ [⟨v.now, timer.text⟩]) taken { v with
      timer := none
      requests := Request.withdrawn v.requests ++ [⟨.ofString timer.text, false⟩]
      lastText := some timer.text
      cues := .start v.requests.length ::ₘ rest } := by
  obtain ⟨hrest, hbegun⟩ := h.begun_of_due htimer hcues
  have hlength : (Request.withdrawn v.requests).length = v.requests.length :=
    Request.length_withdrawn
  refine h.offer htimer hcues (fun serial hserial => by simpa using hserial) ?_
    (.butLast ?_ ?_ hbegun ?_ nofun)
  · have hold : (offers.map TimedText.text).getLast? ≠ some timer.text :=
      fun heq => hlast (h.last.trans heq)
    rw [destutter_concat, if_neg hold, ← h.requests, List.map_append, Request.map_text_withdrawn]
    exact congrArg _ (congrArg (· :: []) String.ofList_toList)
  · exact (starts_of_start rfl).trans (congrArg _ hrest)
  · rw [List.length_append, hlength]
    rfl
  · exact Request.live_append_new.mpr (.inr hlength.symm)

end Offered

/-! ### Compiles -/

/-- A compile that is about to begin is that of the newest request, which is live. -/
theorem begun_of_start (h : v.Keeps d edits offers taken) {request : Nat} {rest : Multiset Cue}
    (hcues : v.cues = .start request ::ₘ rest) :
    rest.filterMap Cue.start? = 0 ∧ request + 1 = v.requests.length ∧
      taken ++ v.compiles = List.range request ∧ Request.Live v.requests request := by
  have hstarts := starts_of_start hcues
  cases h.started with
  | all hall => exact absurd (hstarts.symm.trans hall) Multiset.cons_ne_zero
  | butLast hone hlast hbegun hlive =>
    obtain ⟨rfl, hrest⟩ := (Multiset.singleton_eq_cons_iff _).mp (hone.symm.trans hstarts)
    exact ⟨hrest, hlast, hbegun, hlive⟩

theorem begin (h : v.Keeps d edits offers taken) {request : Nat} {rest : Multiset Cue}
    (hcues : v.cues = .start request ::ₘ rest) :
    Keeps d edits offers taken { v with cues := rest, compiles := v.compiles ++ [request] } := by
  obtain ⟨hrest, hlast, hbegun, -⟩ := h.begun_of_start hcues
  refine ⟨h.opened, h.count, h.waiting, h.idle, ?_, ?_, h.offered, h.requests, h.last,
    .all hrest ?_⟩
  · intro serial hserial
    exact h.due serial (by rw [hcues]; exact Multiset.mem_cons_of_mem hserial)
  · intro timer heq
    have hne : Cue.wait timer.serial ≠ .start request := nofun
    rw [← h.once timer heq, hcues, Multiset.count_cons_of_ne hne]
  · rw [← List.append_assoc, hbegun, ← List.range_succ]
    exact congrArg List.range hlast

theorem take (h : v.Keeps d edits offers taken) {request : Nat} {rest : List Nat}
    (hcompiles : v.compiles = request :: rest) :
    Keeps d edits offers (taken ++ [request]) { v with compiles := rest } := by
  have hsame : taken ++ [request] ++ rest = taken ++ v.compiles := by
    rw [hcompiles, ← List.append_cons]
  refine ⟨h.opened, h.count, h.waiting, h.idle, h.due, h.once, h.offered, h.requests, h.last, ?_⟩
  cases h.started with
  | all hstarts hbegun => exact .all hstarts (hsame.trans hbegun)
  | butLast hone hlast hbegun hlive hnow =>
    exact .butLast hone hlast (hsame.trans hbegun) hlive hnow

/-! ### Every tick -/

/-- **The watch keeps the time.** Every tick keeps what there is between the edits, the texts
offered, the compiles taken up and the watch. -/
theorem tick {v' : Watch} {beat? : Option Beat} (h : v.Keeps w.delay edits offers taken)
    (hdelay : 0 < w.delay) (htick : Tick w v beat? v')
    (hgap : TimedText.Apart w.delay
      (edits ++ (beat?.bind fun beat => Beat.edit? (v.now, beat)).toList)) :
    v'.Keeps w.delay (edits ++ (beat?.bind fun beat => Beat.edit? (v.now, beat)).toList)
      (offers ++ (beat?.bind fun beat => Beat.offer? (v.now, beat)).toList)
      (taken ++ (beat?.bind fun beat => Beat.taken? (v.now, beat)).toList) := by
  cases htick with
  | stay => simpa using h
  | edit text =>
    simpa [Beat.edit?, Beat.offer?, Beat.taken?] using h.edit hdelay text hgap
  | pass span hspan htimer hstarts hasleep => simpa using h.pass hspan htimer hstarts hasleep
  | rouse span hspan htimer hstarts hasleep hdue =>
    simpa using h.rouse hspan htimer hstarts hasleep hdue
  | lapse hcues htimer => simpa using h.lapse hcues htimer
  | refuse htimer hcues hlast =>
    simpa [Beat.edit?, Beat.offer?, Beat.taken?] using h.refuse htimer hcues hlast
  | submit htimer hcues hlast =>
    simpa [Beat.edit?, Beat.offer?, Beat.taken?] using h.submit htimer hcues hlast
  | begin hcues => simpa using h.begin hcues
  | skip hcues hlive => exact absurd (h.begun_of_start hcues).2.2.2 hlive
  | take hcompiles => simpa [Beat.edit?, Beat.offer?, Beat.taken?] using h.take hcompiles

end Keeps

end Watch

end LiveSketch

import LiveSketch.Proofs.Session.Closing
import LiveSketch.Proofs.Studio.Event

/-!
# The documents of a studio

Whatever a studio does is made of a few things: steps of its sessions, messages that are for no
document, and changes to its own books (`Works`). Opening and closing add to these that a document
is entered among those shown, or struck out.

Documents have keys of their own, their sessions are regular, each address is shown once, and a
session that is not closed is shown under its address (`Ordered`). Every run keeps that
(`ordered_run`).
-/

namespace LiveSketch

variable {σ ν : Type}

/-- The document once its session has made a step, with what scripts share in this state. -/
def Document.step (p : StudioPlan σ ν) (shared : Option σ) (d : Document σ ν) (e : Event) :
    Document σ ν :=
  { d with session := { d.session with shared := shared }.step (p.workshop shared d.address) e }

namespace Document

variable {p : StudioPlan σ ν} {shared : Option σ} {d : Document σ ν} {e : Event}

theorem regular_step (h : d.session.view.Regular) : (d.step p shared e).session.view.Regular :=
  View.Regular.move (v := Session.view { d.session with shared := shared }) h
    (Session.step_move _ _ e)

theorem closed_step_close : (d.step p shared .close).session.closed = true :=
  congrArg View.closed (Session.view_close { d.session with shared := shared })

/-- What a step of the session announces to the editor. -/
def calls (p : StudioPlan σ ν) (shared : Option σ) (d : Document σ ν) (e : Event) : List Notice :=
  ((d.step p shared e).session.transcript.drop d.session.transcript.length).filter Notice.isCall

theorem calls_of_unmarked (h : Session.mark? { d.session with shared := shared } e = none) :
    d.calls p shared e = [] :=
  Session.calls_of_unmarked (s := { d.session with shared := shared }) h

theorem calls_of_closed (h : d.session.view.Regular) (hclosed : d.session.closed = true) :
    d.calls p shared e = [] :=
  Session.calls_of_closed (s := { d.session with shared := shared }) h hclosed e

end Document

theorem View.Move.closed {w : Workshop σ ν} {v v' : View σ ν} {m : Option Mark}
    (h : Move w v m v') (hclosed : v.closed = true) : v'.closed = true := by
  cases h with
  | close => rfl
  | _ => exact hclosed

theorem Session.closed_step {w : Workshop σ ν} {s : Session σ ν} (h : s.closed = true) (e : Event) :
    (s.step w e).closed = true := (s.step_move w e).closed h

/-! ## Mail -/

/-- The document that a message is for. -/
def Message.address? : Message → Option String
  | status address _ | reports address _ | preview address _ _ _ _ => some address
  | alert _ | note _ _ | log _ | ended _ _ => none

namespace Studio

/-- What the editor was told for a document. -/
def mail (s : Studio σ ν) (address : String) : List Message :=
  s.messages.filter fun m => m.address? == some address

theorem mail_tell (s : Studio σ ν) (m : Message) (address : String) :
    (s.tell m).mail address =
      s.mail address ++ if m.address? = some address then [m] else [] := by
  unfold mail tell
  rw [List.filter_append]
  by_cases h : m.address? = some address <;> simp [h]

/-- What a session announces is for its own document, and comes of calls alone. -/
theorem address?_of_mem_messagesOf {p : StudioPlan σ ν} {s : Studio σ ν} {address receiver : String}
    {n : Notice} {m : Message} (hm : m ∈ s.messagesOf p address n) (hto : m.address? = some receiver) :
    receiver = address ∧ n.isCall = true := by
  cases n with
  | mode mode =>
    obtain rfl := List.mem_singleton.mp hm
    exact ⟨(Option.some.inj hto).symm, rfl⟩
  | diagnostics ds source =>
    obtain rfl := List.mem_singleton.mp hm
    exact ⟨(Option.some.inj hto).symm, rfl⟩
  | picture picture =>
    refine ⟨?_, rfl⟩
    have hmem : m ∈ pictureMessages p.previewsBlocked address picture := hm
    unfold pictureMessages at hmem
    split at hmem
    · obtain rfl := List.mem_singleton.mp hmem
      exact (Option.some.inj hto).symm
    · simp only [List.mem_cons, List.not_mem_nil, or_false] at hmem
      rcases hmem with rfl | rfl <;> cases hto
    · cases hmem
  | failure line =>
    obtain rfl := List.mem_singleton.mp hm
    cases hto
  | ended id outcome =>
    unfold messagesOf at hm
    dsimp only at hm
    split at hm
    · unfold endMessages at hm
      split at hm
      · obtain rfl := List.mem_singleton.mp hm
        cases hto
      · split at hm
        · simp only [List.mem_cons, List.not_mem_nil, or_false] at hm
          rcases hm with rfl | rfl <;> cases hto
        · obtain rfl := List.mem_singleton.mp hm
          cases hto
    · cases hm

/-! ## Steps of one session -/

variable {p : StudioPlan σ ν} {s s' : Studio σ ν}

theorem mem_documents_of_document? {key : Nat} {d : Document σ ν} (h : s.document? key = some d) :
    d ∈ s.documents ∧ d.key = key :=
  ⟨List.mem_of_find?_eq_some h, by simpa using List.find?_some h⟩

/-- The session under a key makes a step, and all others stay as they are. -/
theorem documents_within (hkeys : (s.documents.map Document.key).Nodup) (key : Nat) (e : Event) :
    (s.within p key fun w session => session.step w e).documents =
      s.documents.map fun d => if d.key = key then d.step p s.shared e else d := by
  unfold within
  cases hfind : s.document? key with
  | none =>
    have hnone : ∀ d ∈ s.documents, d.key ≠ key := by
      simpa using List.find?_eq_none.mp hfind
    have hsame : s.documents.map (fun d => if d.key = key then d.step p s.shared e else d) =
        s.documents.map id := List.map_congr_left fun d hd => if_neg (hnone d hd)
    rw [hsame, List.map_id]
  | some d =>
    obtain ⟨hd, hkey⟩ := mem_documents_of_document? hfind
    unfold putBack
    dsimp only
    refine List.map_congr_left fun d' hd' => ?_
    rw [hkey]
    by_cases hsame : d'.key = key
    · obtain rfl : d' = d := List.inj_on_of_nodup_map hkeys hd' hd (hsame.trans hkey.symm)
      rw [if_pos hsame, if_pos hsame]
      rfl
    · rw [if_neg hsame, if_neg hsame]

theorem mail_within {key : Nat} {e : Event} {address : String}
    (hsilent : ∀ d ∈ s.documents, d.key = key → d.address = address → d.calls p s.shared e = []) :
    (s.within p key fun w session => session.step w e).mail address = s.mail address := by
  unfold within
  cases hfind : s.document? key with
  | none => rfl
  | some d =>
    obtain ⟨hd, hkey⟩ := mem_documents_of_document? hfind
    unfold mail putBack
    dsimp only
    rw [List.filter_append, List.append_right_eq_self, List.filter_eq_nil_iff]
    intro m hm hto
    obtain ⟨n, hn, hm⟩ := List.mem_flatMap.mp hm
    obtain ⟨haddress, hcall⟩ := address?_of_mem_messagesOf hm (by simpa using hto)
    have hnone := hsilent d hd hkey haddress.symm
    unfold Document.calls at hnone
    rw [List.filter_eq_nil_iff] at hnone
    exact hnone n hn hcall

/-! ## Documents in order -/

/-- Documents have keys of their own and regular sessions, each address is shown once, and what is
open is shown. -/
structure Ordered (p : StudioPlan σ ν) (s : Studio σ ν) : Prop where
  keys : (s.documents.map Document.key).Nodup
  fresh : ∀ d ∈ s.documents, d.key < s.keyCount
  regular : ∀ d ∈ s.documents, d.session.view.Regular
  once : (s.shown.map Prod.fst).Nodup
  shown : ∀ a key, (a, key) ∈ s.shown → ∃ d ∈ s.documents, d.address = a ∧ d.key = key
  unclosed : ∀ d ∈ s.documents, d.session.closed = false → (d.address, d.key) ∈ s.shown

theorem Ordered.congr (h : s.Ordered p) (hdocuments : s'.documents.Perm s.documents)
    (hshown : s'.shown = s.shown) (hcount : s'.keyCount = s.keyCount) : s'.Ordered p where
  keys := ((hdocuments.map _).nodup_iff).mpr h.keys
  fresh d hd := by
    rw [hcount]
    exact h.fresh d (hdocuments.mem_iff.mp hd)
  regular d hd := h.regular d (hdocuments.mem_iff.mp hd)
  once := by
    rw [hshown]
    exact h.once
  shown a key he := by
    rw [hshown] at he
    obtain ⟨d, hd, hdoc⟩ := h.shown a key he
    exact ⟨d, hdocuments.mem_iff.mpr hd, hdoc⟩
  unclosed d hd hopen := by
    rw [hshown]
    exact h.unclosed d (hdocuments.mem_iff.mp hd) hopen

theorem shown_within (key : Nat) (e : Event) :
    (s.within p key fun w session => session.step w e).shown = s.shown := by
  unfold within
  split <;> rfl

theorem keyCount_within (key : Nat) (e : Event) :
    (s.within p key fun w session => session.step w e).keyCount = s.keyCount := by
  unfold within
  split <;> rfl

/-- A document after a step of one session is one from before, which may have made the step. -/
theorem exists_of_mem_within (hkeys : (s.documents.map Document.key).Nodup) {key : Nat} {e : Event}
    {d' : Document σ ν}
    (hd' : d' ∈ (s.within p key fun w session => session.step w e).documents) :
    ∃ d ∈ s.documents, d' = d ∨ d' = d.step p s.shared e := by
  rw [documents_within hkeys] at hd'
  obtain ⟨d, hd, rfl⟩ := List.mem_map.mp hd'
  refine ⟨d, hd, ?_⟩
  split
  · exact .inr rfl
  · exact .inl rfl

theorem Ordered.within (h : s.Ordered p) (key : Nat) (e : Event) :
    (s.within p key fun w session => session.step w e).Ordered p where
  keys := by
    have hkeys : (s.documents.map fun d => if d.key = key then d.step p s.shared e else d).map
        Document.key = s.documents.map Document.key := by
      rw [List.map_map]
      refine List.map_congr_left fun d _ => ?_
      show (if d.key = key then d.step p s.shared e else d).key = d.key
      split <;> rfl
    rw [documents_within h.keys, hkeys]
    exact h.keys
  fresh d' hd' := by
    rw [keyCount_within]
    obtain ⟨d, hd, rfl | rfl⟩ := exists_of_mem_within h.keys hd'
    · exact h.fresh d' hd
    · exact h.fresh d hd
  regular d' hd' := by
    obtain ⟨d, hd, rfl | rfl⟩ := exists_of_mem_within h.keys hd'
    · exact h.regular d' hd
    · exact Document.regular_step (h.regular d hd)
  once := by
    rw [shown_within]
    exact h.once
  shown a key' he := by
    rw [shown_within] at he
    obtain ⟨d, hd, rfl, rfl⟩ := h.shown a key' he
    refine ⟨if d.key = key then d.step p s.shared e else d, ?_, ?_, ?_⟩
    · rw [documents_within h.keys]
      exact List.mem_map_of_mem hd
    · split <;> rfl
    · split <;> rfl
  unclosed d' hd' hopen := by
    rw [shown_within]
    obtain ⟨d, hd, rfl | rfl⟩ := exists_of_mem_within h.keys hd'
    · exact h.unclosed d' hd hopen
    · refine h.unclosed d hd ?_
      cases hclosed : d.session.closed with
      | false => rfl
      | true =>
        have hstays : (d.step p s.shared e).session.closed = true :=
          Session.closed_step (s := { d.session with shared := s.shared }) hclosed e
        rw [hstays] at hopen
        cases hopen

/-- The session shown for an address is the only one that is open under it. -/
theorem Ordered.shownDocument?_eq_some (h : s.Ordered p) {address : String} {d : Document σ ν}
    (hd : s.shownDocument? address = some d) :
    d ∈ s.documents ∧ d.address = address ∧ (address, d.key) ∈ s.shown := by
  unfold shownDocument? at hd
  obtain ⟨key, hkey, hfind⟩ := Option.bind_eq_some_iff.mp hd
  obtain ⟨⟨a, key'⟩, he, rfl⟩ := Option.map_eq_some_iff.mp hkey
  have ha : a = address := by simpa using List.find?_some he
  subst ha
  have hmem := List.mem_of_find?_eq_some he
  obtain ⟨hdoc, hsame⟩ := mem_documents_of_document? hfind
  obtain ⟨d', hd', haddress, hkey'⟩ := h.shown a key' hmem
  obtain rfl : d = d' := List.inj_on_of_nodup_map h.keys hdoc hd' (hsame.trans hkey'.symm)
  exact ⟨hdoc, haddress, by rw [hsame]; exact hmem⟩

/-- No document is shown under the address. -/
def Hidden (address : String) (s : Studio σ ν) : Prop := address ∉ s.shown.map Prod.fst

theorem Ordered.closed_of_hidden (h : s.Ordered p) {address : String} (hhidden : s.Hidden address) :
    ∀ d ∈ s.documents, d.address = address → d.session.closed = true := by
  intro d hd haddress
  cases hopen : d.session.closed with
  | true => rfl
  | false =>
    have hmem := List.mem_map_of_mem (f := Prod.fst) (h.unclosed d hd hopen)
    rw [haddress] at hmem
    exact absurd hmem hhidden

theorem Ordered.hidden_of_shownDocument?_eq_none (h : s.Ordered p) {address : String}
    (hnone : s.shownDocument? address = none) : s.Hidden address := by
  intro hmem
  obtain ⟨⟨a, key⟩, he, rfl⟩ := List.mem_map.mp hmem
  cases hfind : s.shown.find? (·.1 == a) with
  | none =>
    have hnot := List.find?_eq_none.mp hfind (a, key) he
    exact hnot (beq_self_eq_true a)
  | some entry =>
    obtain ⟨a', key'⟩ := entry
    obtain ⟨d, hd, -, hkey⟩ := h.shown a' key' (List.mem_of_find?_eq_some hfind)
    have hdocument : s.document? key' = none := by
      simpa [shownDocument?, hfind] using hnone
    have hnot := List.find?_eq_none.mp hdocument d hd
    exact hnot (by simpa using hkey)

theorem perm_moveLast (s : Studio σ ν) (key : Nat) :
    (s.moveLast key).documents.Perm s.documents := by
  refine List.Perm.trans List.perm_append_comm ?_
  simpa [bne] using List.filter_append_perm (fun d : Document σ ν => d.key == key) s.documents

/-! ## What is done without opening or closing -/

/-- What a studio does without entering a document among those shown or striking one out. -/
inductive Works (p : StudioPlan σ ν) : Studio σ ν → Studio σ ν → Prop where
  | rest (s : Studio σ ν) : Works p s s
  /-- A session makes a step. -/
  | session (s : Studio σ ν) (key : Nat) (e : Event) :
    Works p s (s.within p key fun w session => session.step w e)
  /-- Queues, pledges and the clock are kept. -/
  | book (s : Studio σ ν) (turns jobs : List Nat) (pledges : List Pledge) (now : Int) :
    Works p s { s with turns := turns, jobs := jobs, pledges := pledges, now := now }
  | reorder (s : Studio σ ν) {documents : List (Document σ ν)}
    (hperm : documents.Perm s.documents) : Works p s { s with documents := documents }
  /-- The editor is told something that is for no document. -/
  | tell (s : Studio σ ν) {m : Message} (hm : m.address? = none) : Works p s (s.tell m)
  | trans {s s' s'' : Studio σ ν} (h : Works p s s') (h' : Works p s' s'') : Works p s s''

namespace Works

theorem ordered (h : Works p s s') (hs : s.Ordered p) : s'.Ordered p := by
  induction h with
  | rest s => exact hs
  | session s key e => exact hs.within key e
  | book s => exact hs.congr (.refl _) rfl rfl
  | reorder s hperm => exact hs.congr hperm rfl rfl
  | tell s hm => exact hs.congr (.refl _) rfl rfl
  | trans h h' ih ih' => exact ih' (ih hs)

theorem shown (h : Works p s s') : s'.shown = s.shown := by
  induction h with
  | session s key e => exact shown_within key e
  | trans h h' ih ih' => exact ih'.trans ih
  | _ => rfl

theorem foldl {α : Type} {f : Studio σ ν → α → Studio σ ν} (hf : ∀ s a, Works p s (f s a))
    (as : List α) (s : Studio σ ν) : Works p s (as.foldl f s) := by
  induction as generalizing s with
  | nil => exact .rest s
  | cons a as ih => exact (hf s a).trans (ih (f s a))

theorem moveLast (s : Studio σ ν) (key : Nat) : Works p s (s.moveLast key) :=
  .reorder s (s.perm_moveLast key)

theorem pledge (s : Studio σ ν) (key : Nat) (pledge : Pledge) (command : Command) :
    Works p s (s.pledge p key pledge command) :=
  (book s s.turns s.jobs (s.pledges ++ [pledge]) s.now).trans
    (session _ key (.start s.pledges.length command))

theorem obey (s : Studio σ ν) (name : String) (key : Nat) (order : Order) :
    Works p s (s.obey p name key order) := by
  cases order with
  | resize address width height => exact pledge s key _ _
  | recolor address mode =>
    unfold Studio.obey
    dsimp only
    split
    · exact (tell s rfl).trans (tell _ rfl)
    · rename_i mode _
      exact (session s key (.equip (.pixels mode))).trans (pledge _ key _ _)
  | redraw address => exact pledge s key _ _

theorem command (s : Studio σ ν) (name : String) (arguments : List Datum) :
    Works p s (s.command p name arguments) := by
  unfold Studio.command
  split
  · unfold follow
    split
    · exact tell s rfl
    · split
      · exact (tell s rfl).trans (tell _ rfl)
      · exact obey s _ _ _
  · exact tell s rfl
  · exact rest s

theorem advance (s : Studio σ ν) (span : Int) : Works p s (s.advance p span) :=
  (foldl (fun s (d : Document σ ν) => session s d.key (.pass span)) _ s).trans (book _ _ _ _ _)

theorem turn (s : Studio σ ν) (key place : Nat) : Works p s (s.step p (.turn key place)) :=
  (book s (s.turns.erase key) s.jobs s.pledges s.now).trans (session _ key (.turn place))

theorem complete (s : Studio σ ν) (key : Nat) (foundAt : Option Nat) :
    Works p s (s.step p (.complete key foundAt)) :=
  (book s s.turns (s.jobs.erase key) s.pledges s.now).trans (session _ key (.complete foundAt))

end Works

/-! ## Opening and closing -/

/-- An address is struck out of those shown. -/
def hide (s : Studio σ ν) (address : String) : Studio σ ν :=
  { s with shown := s.shown.filter (·.1 != address) }

def newDocument (p : StudioPlan σ ν) (s : Studio σ ν) (address : String) (mode : ColorMode) :
    Document σ ν :=
  ⟨s.keyCount, address, .new (some (.pixels mode)) p.width p.height s.now⟩

/-- A new document is entered among those shown. -/
def enter (p : StudioPlan σ ν) (s : Studio σ ν) (address : String) (mode : ColorMode) :
    Studio σ ν :=
  { s with
    documents := s.documents ++ [s.newDocument p address mode]
    shown := s.shown ++ [(address, s.keyCount)]
    keyCount := s.keyCount + 1 }

/-- The document of an edit is refused, or is one that is shown or is entered. -/
theorem opened_cases (s : Studio σ ν) (address : String) :
    (s.shownDocument? address = none ∧ ColorMode.ofName? p.colorMode = none ∧
      ∃ fault, s.opened p address = .error fault) ∨
    (∃ d, s.shownDocument? address = some d ∧ s.opened p address = .ok (s, d.key)) ∨
    ∃ mode, s.shownDocument? address = none ∧ ColorMode.ofName? p.colorMode = some mode ∧
      s.opened p address = .ok (s.enter p address mode, s.keyCount) := by
  unfold opened
  cases hshown : s.shownDocument? address with
  | some d => exact .inr (.inl ⟨d, rfl, rfl⟩)
  | none =>
    cases hmode : ColorMode.ofName? p.colorMode with
    | none => exact .inl ⟨rfl, rfl, _, rfl⟩
    | some mode => exact .inr (.inr ⟨mode, rfl, rfl, rfl⟩)

theorem step_edit_of_refused {address : String} {fault : Fault}
    (h : s.opened p address = .error fault) (text : String) :
    s.step p (.edit address text) = s := by
  unfold step edit
  dsimp only
  rw [h]
  rfl

theorem step_edit_of_opened {address : String} {s' : Studio σ ν} {key : Nat}
    (h : s.opened p address = .ok (s', key)) (text : String) :
    s.step p (.edit address text) =
      (s'.moveLast key).within p key fun w session => session.step w (.edit text) := by
  unfold step edit
  dsimp only
  rw [h]
  rfl

theorem works_of_opened {address : String} {s' : Studio σ ν} {key : Nat}
    (h : s.opened p address = .ok (s', key)) (text : String) :
    Works p s' (s.step p (.edit address text)) := by
  rw [step_edit_of_opened h]
  exact (Works.moveLast s' key).trans (.session _ key (.edit text))

/-- An edit is refused, or is one of a document that is shown or has just been entered. -/
theorem step_edit_cases (s : Studio σ ν) (address text : String) :
    (s.shownDocument? address = none ∧ ColorMode.ofName? p.colorMode = none ∧
      s.step p (.edit address text) = s) ∨
    (∃ d, s.shownDocument? address = some d ∧ Works p s (s.step p (.edit address text))) ∨
    ∃ mode, s.shownDocument? address = none ∧ ColorMode.ofName? p.colorMode = some mode ∧
      Works p (s.enter p address mode) (s.step p (.edit address text)) := by
  rcases opened_cases (p := p) s address with
    ⟨hshown, hmode, _, hrefused⟩ | ⟨d, hshown, hopened⟩ | ⟨mode, hshown, hmode, hopened⟩
  · exact .inl ⟨hshown, hmode, step_edit_of_refused hrefused text⟩
  · exact .inr (.inl ⟨d, hshown, works_of_opened hopened text⟩)
  · exact .inr (.inr ⟨mode, hshown, hmode, works_of_opened hopened text⟩)

theorem Ordered.enter (h : s.Ordered p) {address : String}
    (hnone : s.shownDocument? address = none) (mode : ColorMode) :
    (s.enter p address mode).Ordered p where
  keys := by
    show ((s.documents ++ [s.newDocument p address mode]).map Document.key).Nodup
    rw [List.map_append, List.nodup_append]
    refine ⟨h.keys, List.nodup_singleton _, fun key hkey key' hkey' heq => ?_⟩
    obtain ⟨d, hd, rfl⟩ := List.mem_map.mp hkey
    obtain rfl : key' = s.keyCount := by simpa [newDocument] using hkey'
    exact Nat.ne_of_lt (h.fresh d hd) heq
  fresh d hd := by
    show d.key < s.keyCount + 1
    rcases List.mem_append.mp hd with hd | hd
    · exact Nat.lt_succ_of_lt (h.fresh d hd)
    · obtain rfl := List.mem_singleton.mp hd
      exact Nat.lt_succ_self _
  regular d hd := by
    rcases List.mem_append.mp hd with hd | hd
    · exact h.regular d hd
    · obtain rfl := List.mem_singleton.mp hd
      exact Opening.regular_session ⟨some (.pixels mode), p.width, p.height, s.now⟩
  once := by
    show ((s.shown ++ [(address, s.keyCount)]).map Prod.fst).Nodup
    rw [List.map_append, List.nodup_append]
    refine ⟨h.once, List.nodup_singleton _, fun a ha a' ha' heq => ?_⟩
    obtain rfl := List.mem_singleton.mp ha'
    rw [heq] at ha
    exact h.hidden_of_shownDocument?_eq_none hnone ha
  shown a key he := by
    rcases List.mem_append.mp he with he | he
    · obtain ⟨d, hd, hdoc⟩ := h.shown a key he
      exact ⟨d, List.mem_append_left _ hd, hdoc⟩
    · obtain ⟨rfl, rfl⟩ := Prod.mk.inj (List.mem_singleton.mp he)
      exact ⟨s.newDocument p a mode, List.mem_append_right _ List.mem_cons_self, rfl, rfl⟩
  unclosed d hd hopen := by
    rcases List.mem_append.mp hd with hd | hd
    · exact List.mem_append_left _ (h.unclosed d hd hopen)
    · obtain rfl := List.mem_singleton.mp hd
      exact List.mem_append_right _ List.mem_cons_self

/-- An address can be struck out once nothing is open under it. -/
theorem Ordered.hide (h : s.Ordered p) {address : String}
    (hclosed : ∀ d ∈ s.documents, d.address = address → d.session.closed = true) :
    (s.hide address).Ordered p where
  keys := h.keys
  fresh := h.fresh
  regular := h.regular
  once := h.once.sublist (List.Sublist.map _ List.filter_sublist)
  shown a key he := h.shown a key (List.mem_of_mem_filter he)
  unclosed d hd hopen := by
    refine List.mem_filter.mpr ⟨h.unclosed d hd hopen, ?_⟩
    rw [bne_iff_ne]
    intro haddress
    rw [hclosed d hd haddress] at hopen
    cases hopen

/-- Closing a document closes its session, strikes out its address and clears its reports. -/
theorem exists_close_eq (h : s.Ordered p) (address : String) :
    ∃ s' : Studio σ ν, Works p s s' ∧ (∀ a, s'.mail a = s.mail a) ∧
      (∀ d ∈ s'.documents, d.address = address → d.session.closed = true) ∧
      s.close p address = (s'.hide address).tell (.reports address []) := by
  unfold close
  cases hshown : s.shownDocument? address with
  | none =>
    have hhidden := h.hidden_of_shownDocument?_eq_none hshown
    refine ⟨s, .rest s, fun a => rfl, h.closed_of_hidden hhidden, ?_⟩
    have hall : s.shown.filter (·.1 != address) = s.shown := by
      refine List.filter_eq_self.mpr fun e he => ?_
      rw [bne_iff_ne]
      rintro rfl
      exact hhidden (List.mem_map_of_mem he)
    unfold Studio.hide
    rw [hall]
  | some d =>
    obtain ⟨hd, haddress, hmem⟩ := h.shownDocument?_eq_some hshown
    have hwithin := h.within d.key .close
    refine ⟨_, .session s d.key .close, fun a => ?_, fun d' hd' haddress' => ?_, ?_⟩
    · refine mail_within fun d' hd' _ _ => ?_
      exact Document.calls_of_unmarked rfl
    · rw [documents_within h.keys] at hd'
      obtain ⟨e, he, rfl⟩ := List.mem_map.mp hd'
      by_cases hkey : e.key = d.key
      · rw [if_pos hkey]
        exact Document.closed_step_close
      · rw [if_neg hkey] at haddress' ⊢
        cases hopen : e.session.closed with
        | true => rfl
        | false =>
          -- the address is shown once, for the other document
          have hother := h.unclosed e he hopen
          rw [haddress'] at hother
          have hsame := List.inj_on_of_nodup_map h.once hother hmem rfl
          exact absurd (congrArg Prod.snd hsame) hkey
    · unfold Studio.hide
      rw [shown_within]
      rfl

/-- Closing the sessions under some keys, one after the other. -/
def closeEach (p : StudioPlan σ ν) (s : Studio σ ν) (entries : List (String × Nat)) : Studio σ ν :=
  entries.foldl (fun s e => s.within p e.2 fun _ session => session.close) s

theorem works_closeEach (s : Studio σ ν) (entries : List (String × Nat)) :
    Works p s (s.closeEach p entries) :=
  Works.foldl (fun s (e : String × Nat) => .session s e.2 .close) entries s

theorem closed_of_mem_closeEach (h : s.Ordered p) (entries : List (String × Nat)) :
    ∀ d ∈ (s.closeEach p entries).documents, d.key ∈ entries.map Prod.snd →
      d.session.closed = true := by
  -- from the end, for the last session is the one that closes last
  induction entries using List.reverseRecOn with
  | nil => exact fun d _ hkey => absurd hkey List.not_mem_nil
  | append_singleton entries e ih =>
    intro d' hd' hkey
    have hlast : s.closeEach p (entries ++ [e]) = (s.closeEach p entries).within p e.2
        fun w session => session.step w .close := by
      unfold closeEach
      rw [List.foldl_append]
      rfl
    have hordered := (works_closeEach s entries).ordered h
    rw [hlast, documents_within hordered.keys] at hd'
    obtain ⟨d, hd, rfl⟩ := List.mem_map.mp hd'
    by_cases hsame : d.key = e.2
    · rw [if_pos hsame]
      exact Document.closed_step_close
    · rw [if_neg hsame] at hkey ⊢
      refine ih d hd ?_
      rw [List.map_append, List.mem_append] at hkey
      exact hkey.resolve_right fun hlast => hsame (List.mem_singleton.mp hlast)

theorem Ordered.closeAll (h : s.Ordered p) : (s.closeAll p).Ordered p := by
  have hworks := works_closeEach (p := p) s s.shown
  have hordered := hworks.ordered h
  refine ⟨hordered.keys, hordered.fresh, hordered.regular, List.nodup_nil, nofun, ?_⟩
  intro d hd hopen
  have hmem := hordered.unclosed d hd hopen
  rw [hworks.shown] at hmem
  have hclosed := closed_of_mem_closeEach h s.shown d hd (List.mem_map_of_mem hmem)
  rw [hclosed] at hopen
  cases hopen

/-! ## Every run -/

theorem Ordered.step (h : s.Ordered p) (e : StudioEvent) : (s.step p e).Ordered p := by
  cases e with
  | edit address text =>
    rcases step_edit_cases (p := p) s address text with
      ⟨-, -, hsame⟩ | ⟨d, -, hworks⟩ | ⟨mode, hnone, -, hworks⟩
    · rwa [hsame]
    · exact hworks.ordered h
    · exact hworks.ordered (h.enter hnone mode)
  | close address =>
    obtain ⟨s', hworks, -, hclosed, heq⟩ := exists_close_eq h address
    show (s.close p address).Ordered p
    rw [heq]
    exact ((hworks.ordered h).hide hclosed).congr (.refl _) rfl rfl
  | shutdown => exact h.closeAll
  | command name arguments => exact (Works.command s name arguments).ordered h
  | greet => exact h.congr (.refl _) rfl rfl
  | pass span => exact (Works.advance s span).ordered h
  | turn key place => exact (Works.turn s key place).ordered h
  | complete key foundAt => exact (Works.complete s key foundAt).ordered h

theorem ordered_empty : (empty : Studio σ ν).Ordered p where
  keys := List.nodup_nil
  fresh _ hd := absurd hd List.not_mem_nil
  regular _ hd := absurd hd List.not_mem_nil
  once := List.nodup_nil
  shown _ _ he := absurd he List.not_mem_nil
  unclosed _ hd := absurd hd List.not_mem_nil

theorem ordered_run (h : s.Ordered p) (es : List StudioEvent) : (s.run p es).Ordered p := by
  induction es generalizing s with
  | nil => exact h
  | cons e es ih => exact ih (h.step e)

end Studio

/-- **Order.** Whatever happens to a studio, its documents stay in order. -/
theorem StudioPlan.ordered_run (p : StudioPlan σ ν) (es : List StudioEvent) : (p.run es).Ordered p :=
  Studio.ordered_run Studio.ordered_empty es

end LiveSketch

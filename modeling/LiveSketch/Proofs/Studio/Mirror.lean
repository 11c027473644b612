import LiveSketch.Proofs.Session.Numbering
import LiveSketch.Proofs.Studio.Documents

/-!
# One address of a studio

A studio mirrors another at an address if it has what that one has there and nothing else
(`Studio.Mirrors`): the same documents, shown alike, and the same mail. Keys and command numbers are
counted over all documents, so they differ: the key of a document is its rank among those of the
address (`Studio.rank`), and sessions are compared without numbers. Scripts must find what they
share alike in both (`StudioPlan.SharesAlike`).

What is done to a document of the address keeps this if it is done in both studios
(`Mirrors.within_own`), and what is done to any other if it is done in the first alone and leaves
what scripts share as it was (`Mirrors.within_other`).
-/

namespace LiveSketch

variable {σ ν : Type}

/-! ## What scripts share -/

namespace StudioPlan

/-- What scripts share after one draw they find as after another: texts are the same programs, the
same is loaded, and a script that is to draw is in the same state. -/
structure SharesAlike (p : StudioPlan σ ν) (a b : Option σ) : Prop where
  programOf : p.programOf a = p.programOf b
  loaded : p.loaded a = p.loaded b
  enter : p.enter a = p.enter b

namespace SharesAlike

variable {p : StudioPlan σ ν} {a b c : Option σ}

theorem refl (a : Option σ) : p.SharesAlike a a := ⟨rfl, rfl, rfl⟩

theorem of_eq (h : a = b) : p.SharesAlike a b := h ▸ refl a

theorem symm (h : p.SharesAlike a b) : p.SharesAlike b a :=
  ⟨h.programOf.symm, h.loaded.symm, h.enter.symm⟩

theorem trans (h : p.SharesAlike a b) (h' : p.SharesAlike b c) : p.SharesAlike a c :=
  ⟨h.programOf.trans h'.programOf, h.loaded.trans h'.loaded, h.enter.trans h'.enter⟩

theorem workshop (h : p.SharesAlike a b) (address : String) :
    p.workshop a address = p.workshop b address := by
  unfold StudioPlan.workshop
  rw [h.programOf, h.loaded]

end SharesAlike

end StudioPlan

/-! ## Without numbers -/

/-- The session with all commands numbered alike, without what scripts share. -/
def Session.unnumbered (s : Session σ ν) : Session σ ν := s.renumber (fun _ => 0) none

/-- The event with its command numbered like any other. -/
def Event.unnumbered (e : Event) : Event := e.renumber fun _ => 0

/-- The document under another key, its commands numbered alike. -/
def Document.under (key : Nat) (d : Document σ ν) : Document σ ν :=
  ⟨key, d.address, d.session.unnumbered⟩

/-- The document without what scripts share, which the studio keeps. -/
def Document.alone (d : Document σ ν) : Document σ ν :=
  { d with session := { d.session with shared := none } }

namespace Document

variable {p : StudioPlan σ ν} {a b : Option σ} {d d' : Document σ ν} {e e' : Event}

/-- A step of a session that is handed `a`, taken on the session without numbers that is handed
`b`. -/
theorem exists_step_eq (h : p.SharesAlike a b) (key : Nat) (d : Document σ ν) (e : Event) :
    ∃ x, ((d.step p a e).session.renumber (fun _ => 0) x =
        ((d.under key).step p b e.unnumbered).session) ∧
      Session.Hands { d.session with shared := a } (d.step p a e).session b x := by
  have hstep := Session.renumber_step (fun _ => 0) { d.session with shared := a }
    (w := p.workshop a d.address) h.enter.symm e
  show ∃ x, _ = Session.step (p.workshop b d.address) _ _ ∧ _
  rw [← h.workshop]
  exact hstep

theorem under_step (h : p.SharesAlike a b) (key : Nat) (d : Document σ ν) (e : Event) :
    (d.step p a e).under key = ((d.under key).step p b e.unnumbered).alone := by
  obtain ⟨x, hx, -⟩ := exists_step_eq h key d e
  unfold alone
  rw [← hx]
  rfl

/-- What scripts find alike before a step of the same session they find alike after it. -/
theorem shared_step (h : p.SharesAlike a b) {key : Nat} (hunder : d'.under key = d.under key)
    (he : e.unnumbered = e'.unnumbered) :
    p.SharesAlike (d.step p a e).session.shared (d'.step p b e').session.shared := by
  obtain ⟨x, hx, hhands⟩ := exists_step_eq h key d e
  obtain ⟨y, hy, hhands'⟩ := exists_step_eq (.refl b) key d' e'
  have hxy : x = y := by
    rw [hunder, ← he, ← hx] at hy
    exact (congrArg Session.shared hy).symm
  have hafter : (d'.step p b e').session.shared = x := by
    rcases hhands' with ⟨hb, hstays⟩ | hboth
    · exact hstays.trans (hb.symm.trans hxy.symm)
    · exact hboth.symm.trans hxy.symm
  rw [hafter]
  rcases hhands with ⟨rfl, hstays⟩ | hboth
  · rw [hstays]
    exact h
  · exact .of_eq hboth.symm

end Document

/-! ## Mail of a session -/

/-- What the editor is sent for a document when its session announces something. -/
def Notice.mail (p : StudioPlan σ ν) (address : String) : Notice → List Message
  | .mode m => [.status address m]
  | .diagnostics ds source => [.reports address (editorReports ds source)]
  | .picture shown => (pictureMessages p.previewsBlocked address shown).filter
      fun m => m.address? == some address
  | .failure _ | .ended _ _ => []

/-- What the editor is sent for a document when its session goes on. -/
def Document.sent (p : StudioPlan σ ν) (before after : Document σ ν) : List Message :=
  (after.session.transcript.drop before.session.transcript.length).flatMap
    (Notice.mail p before.address)

theorem filter_messagesOf (p : StudioPlan σ ν) (s : Studio σ ν) (address : String) (n : Notice) :
    (s.messagesOf p address n).filter (fun m => m.address? == some address) = n.mail p address := by
  cases n with
  | mode m => simp [Studio.messagesOf, Notice.mail, Message.address?]
  | diagnostics ds source => simp [Studio.messagesOf, Notice.mail, Message.address?]
  | picture shown => rfl
  | failure line => rfl
  | ended id outcome =>
    refine List.filter_eq_nil_iff.mpr fun m hm hto => ?_
    cases (Studio.address?_of_mem_messagesOf hm (eq_of_beq hto)).2

theorem Document.sent_under (p : StudioPlan σ ν) (key : Nat) (before after : Document σ ν) :
    (before.under key).sent p (after.under key) = before.sent p after := by
  have hmail : ∀ n : Notice,
      (n.renumber fun _ => 0).mail p before.address = n.mail p before.address := by
    intro n
    cases n <;> rfl
  unfold Document.sent
  show List.flatMap _ (List.drop (List.map _ _).length (List.map _ _)) = _
  rw [List.length_map, ← List.map_drop, List.flatMap_map]
  exact List.flatMap_congr fun n _ => hmail n

namespace Studio

variable {p : StudioPlan σ ν} {s s' t t' : Studio σ ν} {u : String}

theorem mail_within_eq (key : Nat) (e : Event) :
    (s.within p key fun w session => session.step w e).mail u = s.mail u ++
      (match s.document? key with
        | some d => if d.address = u then d.sent p (d.step p s.shared e) else []
        | none => []) := by
  unfold within
  cases hfind : s.document? key with
  | none => exact (List.append_nil _).symm
  | some d =>
    unfold mail putBack
    dsimp only
    rw [List.filter_append, List.filter_flatMap]
    congr 1
    split
    · rename_i haddress
      subst haddress
      exact List.flatMap_congr fun n _ => filter_messagesOf p s d.address n
    · rename_i haddress
      refine List.flatMap_eq_nil_iff.mpr fun n _ => List.filter_eq_nil_iff.mpr fun m hm hto => ?_
      exact haddress (address?_of_mem_messagesOf hm (eq_of_beq hto)).1.symm

/-! ## Ranks -/

/-- How many documents of the address have smaller keys, so were opened before. -/
def rank (s : Studio σ ν) (u : String) (key : Nat) : Nat :=
  s.documents.countP fun d => d.address == u && decide (d.key < key)

theorem rank_lt {d : Document σ ν} (hd : d ∈ s.documents) (haddress : d.address = u) {key : Nat}
    (hlt : d.key < key) : s.rank u d.key < s.rank u key := by
  obtain ⟨before, after, hsplit⟩ := List.append_of_mem hd
  have hmono : ∀ ds : List (Document σ ν),
      (ds.countP fun d' => d'.address == u && decide (d'.key < d.key)) ≤
        ds.countP fun d' => d'.address == u && decide (d'.key < key) := by
    intro ds
    refine List.countP_mono_left fun d' _ h => ?_
    simp only [Bool.and_eq_true, decide_eq_true_eq] at h ⊢
    exact ⟨h.1, Nat.lt_trans h.2 hlt⟩
  unfold rank
  rw [hsplit, List.countP_append, List.countP_append, List.countP_cons_of_neg (by simp),
    List.countP_cons_of_pos (by simp [haddress, hlt])]
  have hbefore := hmono before
  have hafter := hmono after
  omega

theorem rank_inj {d d' : Document σ ν} (hd : d ∈ s.documents) (hd' : d' ∈ s.documents)
    (haddress : d.address = u) (haddress' : d'.address = u) :
    s.rank u d.key = s.rank u d'.key ↔ d.key = d'.key := by
  refine ⟨fun heq => ?_, fun heq => by rw [heq]⟩
  rcases Nat.lt_trichotomy d.key d'.key with hlt | hsame | hlt
  · exact absurd heq (Nat.ne_of_lt (rank_lt hd haddress hlt))
  · exact hsame
  · exact absurd heq.symm (Nat.ne_of_lt (rank_lt hd' haddress' hlt))

theorem rank_congr
    (h : (s'.documents.map fun d => (d.address, d.key)).Perm
      (s.documents.map fun d => (d.address, d.key))) : s'.rank u = s.rank u := by
  have hcount : ∀ (r : Studio σ ν) (key : Nat), r.rank u key =
      (r.documents.map fun d => (d.address, d.key)).countP
        fun e => e.1 == u && decide (e.2 < key) := by
    intro r key
    rw [List.countP_map]
    rfl
  funext key
  rw [hcount, hcount]
  exact h.countP_eq _

theorem rank_within (hkeys : (s.documents.map Document.key).Nodup) (key : Nat) (e : Event) :
    (s.within p key fun w session => session.step w e).rank u = s.rank u := by
  refine rank_congr (.of_eq ?_)
  rw [documents_within hkeys, List.map_map]
  refine List.map_congr_left fun d _ => ?_
  dsimp only [Function.comp]
  split <;> rfl

theorem countP_documents_within (hkeys : (s.documents.map Document.key).Nodup) (key : Nat)
    (e : Event) :
    (s.within p key fun w session => session.step w e).documents.countP (·.address == u) =
      s.documents.countP (·.address == u) := by
  rw [documents_within hkeys, List.countP_map]
  refine List.countP_congr fun d _ => ?_
  dsimp only [Function.comp]
  split <;> exact Iff.rfl

theorem mem_documents_within (hkeys : (s.documents.map Document.key).Nodup) {d : Document σ ν}
    (hd : d ∈ s.documents) (e : Event) :
    d.step p s.shared e ∈ (s.within p d.key fun w session => session.step w e).documents := by
  rw [documents_within hkeys]
  exact List.mem_map.mpr ⟨d, hd, if_pos rfl⟩

theorem shared_within {d : Document σ ν} (hd : s.document? d.key = some d) (e : Event) :
    (s.within p d.key fun w session => session.step w e).shared =
      (d.step p s.shared e).session.shared := by
  unfold within
  rw [hd]
  rfl

theorem shared_within_of_not_endsJob (key : Nat) {e : Event} (he : e.endsJob = false) :
    (s.within p key fun w session => session.step w e).shared = s.shared := by
  cases hfind : s.document? key with
  | none =>
    unfold within
    rw [hfind]
  | some d =>
    obtain ⟨-, rfl⟩ := mem_documents_of_document? hfind
    rw [shared_within hfind]
    exact Session.shared_step { d.session with shared := s.shared } _ he

theorem now_within (key : Nat) (e : Event) :
    (s.within p key fun w session => session.step w e).now = s.now := by
  unfold within
  split <;> rfl

/-- The document under the key, if there is one, has another address. -/
def IsOther (s : Studio σ ν) (u : String) (key : Nat) : Prop :=
  ∀ d ∈ s.documents, d.key = key → d.address ≠ u

theorem Ordered.isOther (hs : s.Ordered p) {d : Document σ ν} (hd : d ∈ s.documents)
    (hne : d.address ≠ u) : s.IsOther u d.key := by
  intro d' hd' hkey
  obtain rfl := List.inj_on_of_nodup_map hs.keys hd' hd hkey
  exact hne

/-- The rank of the document under a key, if it has the address. -/
def rank? (s : Studio σ ν) (u : String) (key : Nat) : Option Nat :=
  (s.document? key).bind fun d => if d.address = u then some (s.rank u key) else none

/-- In a list without repeated keys an entry is found by its key. -/
theorem find?_of_nodup_map {α κ : Type} [DecidableEq κ] {key : α → κ} {l : List α}
    (h : (l.map key).Nodup) {a : α} (ha : a ∈ l) : l.find? (key · == key a) = some a := by
  cases hfind : l.find? (key · == key a) with
  | none => exact absurd (List.find?_eq_none.mp hfind a ha) (by simp)
  | some b =>
    have hkey : key b = key a := by simpa using List.find?_some hfind
    exact congrArg some (List.inj_on_of_nodup_map h (List.mem_of_find?_eq_some hfind) ha hkey)

theorem Ordered.document?_key (h : s.Ordered p) {d : Document σ ν} (hd : d ∈ s.documents) :
    s.document? d.key = some d := find?_of_nodup_map h.keys hd

theorem Ordered.shownDocument?_of_mem (h : s.Ordered p) {a : String} {d : Document σ ν}
    (hd : d ∈ s.documents) (hmem : (a, d.key) ∈ s.shown) : s.shownDocument? a = some d := by
  have hfind : s.shown.find? (·.1 == a) = some (a, d.key) := find?_of_nodup_map h.once hmem
  unfold shownDocument?
  rw [hfind]
  exact h.document?_key hd

/-! ## Mirrors -/

/-- The studios differ at most in their queues and pledges, in the order of documents and in mail
for other addresses. -/
structure Alike (u : String) (s s' : Studio σ ν) : Prop where
  documents : s'.documents.Perm s.documents
  shared : s'.shared = s.shared
  shown : s'.shown = s.shown
  keyCount : s'.keyCount = s.keyCount
  now : s'.now = s.now
  mail : s'.mail u = s.mail u

namespace Alike

theorem refl : Alike u s s := ⟨.refl _, rfl, rfl, rfl, rfl, rfl⟩

theorem tell {m : Message} (hm : m.address? ≠ some u) : Alike u s (s.tell m) where
  documents := .refl _
  shared := rfl
  shown := rfl
  keyCount := rfl
  now := rfl
  mail := by rw [mail_tell, if_neg hm, List.append_nil]

theorem moveLast (s : Studio σ ν) (key : Nat) : Alike u s (s.moveLast key) where
  documents := s.perm_moveLast key
  shared := rfl
  shown := rfl
  keyCount := rfl
  now := rfl
  mail := rfl

theorem book (s : Studio σ ν) (turns jobs : List Nat) (pledges : List Pledge) :
    Alike u s { s with turns := turns, jobs := jobs, pledges := pledges } :=
  ⟨.refl _, rfl, rfl, rfl, rfl, rfl⟩

end Alike

/-- The second studio has of an address what the first one has, and of other addresses nothing, and
scripts find what they share alike in both. -/
structure Mirrors (p : StudioPlan σ ν) (u : String) (s t : Studio σ ν) : Prop where
  shared : p.SharesAlike s.shared t.shared
  documents : (t.documents.map fun e => e.under e.key).Perm
    ((s.documents.filter (·.address == u)).map fun d => d.under (s.rank u d.key))
  shown : t.shown = (s.shown.filter (·.1 == u)).map fun e => (e.1, s.rank u e.2)
  keyCount : t.keyCount = s.documents.countP (·.address == u)
  now : t.now = s.now
  mail : t.mail u = s.mail u

namespace Mirrors

theorem exists_document (h : Mirrors p u s t) {d : Document σ ν} (hd : d ∈ s.documents)
    (haddress : d.address = u) :
    ∃ e ∈ t.documents, e.key = s.rank u d.key ∧ e.under e.key = d.under (s.rank u d.key) := by
  have hmem : d.under (s.rank u d.key) ∈
      (s.documents.filter (·.address == u)).map fun d => d.under (s.rank u d.key) :=
    List.mem_map_of_mem (List.mem_filter.mpr ⟨hd, by simpa using haddress⟩)
  obtain ⟨e, he, heq⟩ := List.mem_map.mp (h.documents.mem_iff.mpr hmem)
  exact ⟨e, he, congrArg Document.key heq, heq⟩

/-- Documents that are changed alike, each under its key and address, stay mirrored. -/
theorem documents_map (h : Mirrors p u s t) {g g' f : Document σ ν → Document σ ν}
    (hs' : s'.documents = s.documents.map g) (ht' : t'.documents = t.documents.map g')
    (hg : ∀ d, (g d).address = d.address ∧ (g d).key = d.key) (hg' : ∀ e, (g' e).key = e.key)
    (hf : ∀ d ∈ s.documents, d.address = u →
      (g d).under (s.rank u d.key) = f (d.under (s.rank u d.key)))
    (hf' : ∀ e, (g' e).under e.key = f (e.under e.key)) :
    (t'.documents.map fun e => e.under e.key).Perm
      ((s'.documents.filter (·.address == u)).map fun d => d.under (s'.rank u d.key)) := by
  have hrank : s'.rank u = s.rank u := by
    refine rank_congr (.of_eq ?_)
    rw [hs', List.map_map]
    exact List.map_congr_left fun d _ => Prod.ext (hg d).1 (hg d).2
  have hown : s'.documents.filter (·.address == u) =
      (s.documents.filter (·.address == u)).map g := by
    rw [hs', List.filter_map]
    congr 1
    exact List.filter_congr fun d _ => congrArg (· == u) (hg d).1
  have hleft : t'.documents.map (fun e => e.under e.key) =
      (t.documents.map fun e => e.under e.key).map f := by
    rw [ht', List.map_map, List.map_map]
    refine List.map_congr_left fun e _ => ?_
    dsimp only [Function.comp]
    rw [hg', hf']
  have hright : ((s.documents.filter (·.address == u)).map g).map
      (fun d => d.under (s.rank u d.key)) =
        ((s.documents.filter (·.address == u)).map fun d => d.under (s.rank u d.key)).map f := by
    rw [List.map_map, List.map_map]
    refine List.map_congr_left fun d hd => ?_
    obtain ⟨hd, haddress⟩ := List.mem_filter.mp hd
    dsimp only [Function.comp]
    rw [(hg d).2, hf d hd (eq_of_beq haddress)]
  rw [hleft, hown, hrank, hright]
  exact h.documents.map f

/-! ### Steps of one session -/

/-- What a document of another address does is not seen, if it leaves what scripts share. -/
theorem within_other (h : Mirrors p u s t) (hs : s.Ordered p) {key : Nat}
    (hother : s.IsOther u key) {e : Event}
    (hspared : p.SharesAlike s.shared (s.within p key fun w session => session.step w e).shared) :
    Mirrors p u (s.within p key fun w session => session.step w e) t where
  shared := hspared.symm.trans h.shared
  documents := by
    refine h.documents_map (f := id) (documents_within hs.keys key e)
      (List.map_id _).symm (fun d => ?_) (fun _ => rfl) (fun d hd haddress => ?_) (fun _ => rfl)
    · split <;> exact ⟨rfl, rfl⟩
    · rw [if_neg fun hkey => hother d hd hkey haddress]
      rfl
  shown := by
    rw [shown_within, rank_within hs.keys]
    exact h.shown
  keyCount := h.keyCount.trans (countP_documents_within hs.keys key e).symm
  now := h.now.trans (now_within key e).symm
  mail := by
    rw [mail_within_eq, h.mail]
    cases hfind : s.document? key with
    | none => exact (List.append_nil _).symm
    | some d =>
      obtain ⟨hd, hkey⟩ := mem_documents_of_document? hfind
      dsimp only
      rw [if_neg (hother d hd hkey), List.append_nil]

theorem within_other_of_not_endsJob (h : Mirrors p u s t) (hs : s.Ordered p) {key : Nat}
    (hother : s.IsOther u key) {e : Event} (he : e.endsJob = false) :
    Mirrors p u (s.within p key fun w session => session.step w e) t :=
  h.within_other hs hother (.of_eq (shared_within_of_not_endsJob key he).symm)

theorem within_own (h : Mirrors p u s t) (hs : s.Ordered p) (ht : t.Ordered p) {d : Document σ ν}
    (hd : d ∈ s.documents) (haddress : d.address = u) {e e' : Event}
    (he : e.unnumbered = e'.unnumbered) :
    Mirrors p u (s.within p d.key fun w session => session.step w e)
      (t.within p (s.rank u d.key) fun w session => session.step w e') where
  shared := by
    obtain ⟨d', hd', hkey, hunder⟩ := h.exists_document hd haddress
    rw [← hkey, shared_within (hs.document?_key hd), shared_within (ht.document?_key hd')]
    have hsame : d'.under d'.key = d.under d'.key := hkey ▸ hunder
    exact Document.shared_step h.shared hsame he
  documents := by
    refine h.documents_map (documents_within hs.keys d.key e) (documents_within ht.keys _ e')
      (f := fun x => if x.key = s.rank u d.key then (x.step p t.shared e.unnumbered).alone else x)
      (fun x => ?_) (fun x => ?_) (fun x hx hxaddress => ?_) (fun x => ?_)
    · split <;> exact ⟨rfl, rfl⟩
    · split <;> rfl
    · have hrank := rank_inj hx hd hxaddress haddress
      by_cases hkey : x.key = d.key
      · rw [if_pos hkey, if_pos (show (x.under (s.rank u x.key)).key = _ from hrank.mpr hkey)]
        exact x.under_step h.shared (s.rank u x.key) e
      · rw [if_neg hkey, if_neg (show (x.under (s.rank u x.key)).key ≠ _ from mt hrank.mp hkey)]
    · by_cases hkey : x.key = s.rank u d.key
      · rw [if_pos hkey, if_pos (show (x.under x.key).key = _ from hkey), he]
        exact x.under_step (.refl _) x.key e'
      · rw [if_neg hkey, if_neg (show (x.under x.key).key ≠ _ from hkey)]
  shown := by
    rw [shown_within, shown_within, rank_within hs.keys]
    exact h.shown
  keyCount := by
    rw [keyCount_within, countP_documents_within hs.keys]
    exact h.keyCount
  now := by
    rw [now_within, now_within]
    exact h.now
  mail := by
    obtain ⟨d', hd', hkey, hunder⟩ := h.exists_document hd haddress
    have hfind : s.document? d.key = some d := hs.document?_key hd
    have hfind' : t.document? (s.rank u d.key) = some d' := hkey ▸ ht.document?_key hd'
    have haddress' : d'.address = u := (congrArg Document.address hunder).trans haddress
    have hstep : (d'.step p t.shared e').under d'.key =
        (d.step p s.shared e).under (s.rank u d.key) := by
      rw [Document.under_step (.refl _), Document.under_step h.shared, hunder, he]
    rw [mail_within_eq, mail_within_eq, hfind, hfind', h.mail]
    dsimp only
    rw [if_pos haddress, if_pos haddress', ← d'.sent_under p d'.key, hunder, hstep,
      d.sent_under p]

/-! ### Books and messages -/

theorem congr (h : Mirrors p u s t) (hs : Alike u s s') (ht : Alike u t t') : Mirrors p u s' t' where
  shared := by
    rw [hs.shared, ht.shared]
    exact h.shared
  documents := by
    have hrank : s'.rank u = s.rank u := rank_congr (hs.documents.map _)
    rw [hrank]
    exact (ht.documents.map _).trans (h.documents.trans ((hs.documents.symm.filter _).map _))
  shown := by
    rw [ht.shown, hs.shown, rank_congr (hs.documents.map _)]
    exact h.shown
  keyCount := (ht.keyCount.trans h.keyCount).trans (hs.documents.symm.countP_eq _)
  now := (ht.now.trans h.now).trans hs.now.symm
  mail := (ht.mail.trans h.mail).trans hs.mail.symm

/-- What the editor is told in both is told alike. -/
theorem tell (h : Mirrors p u s t) (m : Message) : Mirrors p u (s.tell m) (t.tell m) where
  shared := h.shared
  documents := h.documents
  shown := h.shown
  keyCount := h.keyCount
  now := h.now
  mail := by rw [mail_tell, mail_tell, h.mail]

theorem tell_other (h : Mirrors p u s t) {m : Message} (hm : m.address? ≠ some u) :
    Mirrors p u (s.tell m) t := h.congr (.tell hm) .refl

/-! ### Opening and closing -/

/-- A document that is entered for another address is not seen. -/
theorem enter_other (h : Mirrors p u s t) {a : String} (ha : a ≠ u) (mode : ColorMode) :
    Mirrors p u (s.enter p a mode) t := by
  have hnew : ((s.newDocument p a mode).address == u) = false := by simpa [newDocument] using ha
  have hrank : (s.enter p a mode).rank u = s.rank u := by
    funext key
    show (s.documents ++ [s.newDocument p a mode]).countP _ = _
    rw [List.countP_append, List.countP_singleton, if_neg]
    · rfl
    · rw [hnew]
      exact Bool.false_ne_true
  refine ⟨h.shared, ?_, ?_, ?_, h.now, h.mail⟩
  · show List.Perm _ (((s.documents ++ [s.newDocument p a mode]).filter _).map _)
    rw [hrank, List.filter_append, List.filter_singleton, hnew, cond_false, List.append_nil]
    exact h.documents
  · show t.shown = ((s.shown ++ [(a, s.keyCount)]).filter _).map _
    rw [hrank, List.filter_append, List.filter_singleton, beq_false_of_ne ha, cond_false,
      List.append_nil]
    exact h.shown
  · show t.keyCount = (s.documents ++ [s.newDocument p a mode]).countP _
    rw [List.countP_append, List.countP_singleton, hnew, if_neg Bool.false_ne_true]
    exact h.keyCount

theorem rank_enter (mode : ColorMode) {key : Nat} (hkey : key ≤ s.keyCount) :
    (s.enter p u mode).rank u key = s.rank u key := by
  show (s.documents ++ [s.newDocument p u mode]).countP _ = _
  rw [List.countP_append, List.countP_singleton, if_neg]
  · rfl
  · rw [Bool.and_eq_true, decide_eq_true_eq]
    exact fun hnew => Nat.not_lt.mpr hkey hnew.2

theorem rank_keyCount (h : Mirrors p u s t) (hs : s.Ordered p) (mode : ColorMode) :
    (s.enter p u mode).rank u s.keyCount = t.keyCount := by
  rw [rank_enter mode (Nat.le_refl _), h.keyCount]
  refine List.countP_congr fun d hd => ?_
  simp [hs.fresh d hd]

/-- A document that is entered for the address is entered in the mirror. -/
theorem enter_own (h : Mirrors p u s t) (hs : s.Ordered p) (mode : ColorMode) :
    Mirrors p u (s.enter p u mode) (t.enter p u mode) := by
  have hnew : ((s.newDocument p u mode).address == u) = true := beq_self_eq_true u
  have hlast := h.rank_keyCount hs mode
  refine ⟨h.shared, ?_, ?_, ?_, h.now, h.mail⟩
  · have hold : (s.documents.filter (·.address == u)).map
        (fun d => d.under ((s.enter p u mode).rank u d.key)) =
          (s.documents.filter (·.address == u)).map fun d => d.under (s.rank u d.key) := by
      refine List.map_congr_left fun d hd => ?_
      rw [rank_enter mode (Nat.le_of_lt (hs.fresh d (List.mem_filter.mp hd).1))]
    show List.Perm ((t.documents ++ [t.newDocument p u mode]).map _)
      (((s.documents ++ [s.newDocument p u mode]).filter _).map _)
    rw [List.filter_append, List.filter_singleton, hnew, cond_true, List.map_append,
      List.map_append, hold]
    refine h.documents.append (.of_eq ?_)
    show [Document.under t.keyCount ⟨t.keyCount, u, .new _ _ _ t.now⟩] =
      [Document.under ((s.enter p u mode).rank u s.keyCount) ⟨s.keyCount, u, .new _ _ _ s.now⟩]
    rw [hlast, h.now]
    rfl
  · have hold : (s.shown.filter (·.1 == u)).map
        (fun e => (e.1, (s.enter p u mode).rank u e.2)) =
          (s.shown.filter (·.1 == u)).map fun e => (e.1, s.rank u e.2) := by
      refine List.map_congr_left fun e he => ?_
      obtain ⟨d, hd, -, hkey⟩ := hs.shown e.1 e.2 (List.mem_filter.mp he).1
      rw [rank_enter mode (Nat.le_of_lt (hkey ▸ hs.fresh d hd))]
    show t.shown ++ [(u, t.keyCount)] = ((s.shown ++ [(u, s.keyCount)]).filter _).map _
    rw [List.filter_append, List.filter_singleton, beq_self_eq_true, cond_true, List.map_append,
      hold, ← hlast, h.shown]
    rfl
  · show t.keyCount + 1 = (s.documents ++ [s.newDocument p u mode]).countP _
    rw [List.countP_append, List.countP_singleton, if_pos hnew, h.keyCount]

theorem hide_other (h : Mirrors p u s t) {a : String} (ha : a ≠ u) : Mirrors p u (s.hide a) t := by
  refine ⟨h.shared, h.documents, ?_, h.keyCount, h.now, h.mail⟩
  show t.shown = ((s.shown.filter (·.1 != a)).filter (·.1 == u)).map _
  have hsame : (s.shown.filter (·.1 != a)).filter (·.1 == u) = s.shown.filter (·.1 == u) := by
    rw [List.filter_filter]
    refine List.filter_congr fun e _ => ?_
    by_cases he : e.1 = u
    · simp [he, Ne.symm ha]
    · simp [he]
  rw [hsame]
  exact h.shown

theorem hide_own (h : Mirrors p u s t) : Mirrors p u (s.hide u) (t.hide u) := by
  refine ⟨h.shared, h.documents, ?_, h.keyCount, h.now, h.mail⟩
  show t.shown.filter (·.1 != u) = ((s.shown.filter (·.1 != u)).filter (·.1 == u)).map _
  have hnone : (s.shown.filter (·.1 != u)).filter (·.1 == u) = [] := by
    rw [List.filter_filter]
    exact List.filter_eq_nil_iff.mpr fun e _ => by simp
  rw [hnone, h.shown]
  refine List.filter_eq_nil_iff.mpr fun e he => ?_
  obtain ⟨e', he', rfl⟩ := List.mem_map.mp he
  simpa using (List.mem_filter.mp he').2

theorem shownDocument? (h : Mirrors p u s t) (hs : s.Ordered p) (ht : t.Ordered p) :
    (t.shownDocument? u).map (fun e => e.under e.key) =
      (s.shownDocument? u).map fun d => d.under (s.rank u d.key) := by
  cases hshown : s.shownDocument? u with
  | none =>
    have hhidden := hs.hidden_of_shownDocument?_eq_none hshown
    have hempty : t.shown = [] := by
      rw [h.shown, List.map_eq_nil_iff, List.filter_eq_nil_iff]
      rintro e he hu
      exact hhidden ((eq_of_beq hu) ▸ List.mem_map_of_mem he)
    have hnone : t.shownDocument? u = none := by
      unfold Studio.shownDocument?
      rw [hempty]
      rfl
    rw [hnone]
    rfl
  | some d =>
    obtain ⟨hd, haddress, hmem⟩ := hs.shownDocument?_eq_some hshown
    obtain ⟨e, he, hkey, hunder⟩ := h.exists_document hd haddress
    have hmem' : (u, e.key) ∈ t.shown := by
      rw [h.shown, hkey]
      exact List.mem_map.mpr ⟨_, List.mem_filter.mpr ⟨hmem, beq_self_eq_true u⟩, rfl⟩
    rw [ht.shownDocument?_of_mem he hmem']
    exact congrArg some hunder

theorem shownDocument?_of_none (h : Mirrors p u s t) (hs : s.Ordered p) (ht : t.Ordered p)
    (hnone : s.shownDocument? u = none) : t.shownDocument? u = none := by
  have hsame := h.shownDocument? hs ht
  rw [hnone] at hsame
  exact Option.map_eq_none_iff.mp hsame

theorem shownDocument?_of_some (h : Mirrors p u s t) (hs : s.Ordered p) (ht : t.Ordered p)
    {d : Document σ ν} (hsome : s.shownDocument? u = some d) :
    ∃ e, t.shownDocument? u = some e ∧ e.key = s.rank u d.key := by
  have hsame := h.shownDocument? hs ht
  rw [hsome] at hsame
  obtain ⟨e, he, hunder⟩ := Option.map_eq_some_iff.mp hsame
  exact ⟨e, he, congrArg Document.key hunder⟩

end Mirrors

end Studio

end LiveSketch

import LiveSketch.Proofs.Studio.Closing
import LiveSketch.Proofs.Studio.Queues

/-!
# Refused requests

A command can be refused for its arguments, for a document that is not open, for a size or for a
pixel format (`Refusal`), and each of these is noticed at another point of its way. None of them
leaves a trace but the message that says so (`Undisturbed`).

1. A step that only announces brings up no turn and no job, because no entry was missing before
   (`books_within`).
2. A size that is not positive is found out by the session, whose answer comes back as the words of
   its fault (`pledge_of_invalid`); all else is found out before a session is asked.
3. So each refusal disturbs nothing and is told (`Refusal.spec`), and every command that is refused
   is refused in one of these ways (`Refuses.exists_refusal`).
-/

namespace LiveSketch

variable {σ ν : Type}

/-! ## What stays -/

/-- The session without what it has announced. -/
def Session.muted (s : Session σ ν) : Session σ ν := { s with transcript := [] }

/-- The document without what its session has announced. What scripts share is not kept with a
document, but with the studio. -/
def Document.muted (d : Document σ ν) : Document σ ν :=
  { d with session := { d.session.muted with shared := none } }

def invalidSize (width height : Int) : Fault :=
  .plain "ValueError" ("Invalid drawing size " ++ toString width ++ "x" ++ toString height)

/-- A size that is not positive is refused before anything is done. -/
theorem Session.startCommand_of_invalid (s : Session σ ν) (id : Nat) {width height : Int}
    (h : width ≤ 0 ∨ height ≤ 0) : s.startCommand id (.resize width height) =
      s.announce (.ended id (.error (invalidSize width height))) := if_pos h

namespace Studio

variable {p : StudioPlan σ ν} {s s' : Studio σ ν}

/-- No document comes or goes, no session changes but for what it has announced, and no turn and no
job comes up. -/
structure Undisturbed (s s' : Studio σ ν) : Prop where
  documents : s'.documents.map Document.muted = s.documents.map Document.muted
  shared : s'.shared = s.shared
  shown : s'.shown = s.shown
  keyCount : s'.keyCount = s.keyCount
  turns : s'.turns = s.turns
  jobs : s'.jobs = s.jobs
  now : s'.now = s.now

theorem undisturbed_tell (s : Studio σ ν) (m : Message) : s.Undisturbed (s.tell m) :=
  ⟨rfl, rfl, rfl, rfl, rfl, rfl, rfl⟩

theorem Undisturbed.trans {s'' : Studio σ ν} (h : s.Undisturbed s') (h' : s'.Undisturbed s'') :
    s.Undisturbed s'' where
  documents := h'.documents.trans h.documents
  shared := h'.shared.trans h.shared
  shown := h'.shown.trans h.shown
  keyCount := h'.keyCount.trans h.keyCount
  turns := h'.turns.trans h.turns
  jobs := h'.jobs.trans h.jobs
  now := h'.now.trans h.now

theorem append_replicate_of_le {queue : List Nat} {key n : Nat} (h : n ≤ queue.count key) :
    queue ++ List.replicate (n - queue.count key) key = queue := by
  rw [Nat.sub_eq_zero_of_le h, List.replicate_zero, List.append_nil]

/-- What only announces brings up no turn and no job, and leaves what scripts share. -/
theorem books_within (hserved : s.Served) (key : Nat)
    {f : Workshop σ ν → Session σ ν → Session σ ν}
    (hquiet : ∀ w session, (f w session).muted = session.muted) :
    (s.within p key f).turns = s.turns ∧ (s.within p key f).jobs = s.jobs ∧
      (s.within p key f).shared = s.shared := by
  unfold within
  cases hfind : s.document? key with
  | none => exact ⟨rfl, rfl, rfl⟩
  | some d =>
    obtain ⟨hd, -⟩ := mem_documents_of_document? hfind
    obtain ⟨after, hafter⟩ : ∃ after,
        after = f (p.workshop s.shared d.address) { d.session with shared := s.shared } := ⟨_, rfl⟩
    have hmuted : after.muted = Session.muted { d.session with shared := s.shared } :=
      hafter ▸ hquiet _ _
    have hready : after.ready = d.session.ready := (congrArg Session.ready hmuted :)
    have hjobs : after.jobs = d.session.jobs := (congrArg Session.jobs hmuted :)
    have hshared : after.shared = s.shared := (congrArg Session.shared hmuted :)
    unfold putBack
    dsimp only
    rw [← hafter, hready, hjobs]
    exact ⟨append_replicate_of_le (hserved d hd).1, append_replicate_of_le (hserved d hd).2, hshared⟩

theorem undisturbed_within (hs : s.Ordered p) (hserved : s.Served) (key : Nat) {e : Event}
    (hquiet : ∀ (w : Workshop σ ν) (session : Session σ ν),
      (session.step w e).muted = session.muted) :
    s.Undisturbed (s.within p key fun w session => session.step w e) where
  documents := by
    rw [documents_within hs.keys, List.map_map]
    refine List.map_congr_left fun d _ => ?_
    show (if d.key = key then d.step p s.shared e else d).muted = d.muted
    split
    · have hmuted := hquiet (p.workshop s.shared d.address) { d.session with shared := s.shared }
      exact congrArg (fun session => Document.mk d.key d.address { session with shared := none }) hmuted
    · rfl
  shared := (books_within hserved key hquiet).2.2
  shown := shown_within key e
  keyCount := keyCount_within key e
  turns := (books_within hserved key hquiet).1
  jobs := (books_within hserved key hquiet).2.1
  now := by
    unfold within
    split <;> rfl

theorem messages_within_announce {key : Nat} {d : Document σ ν} {n : Notice}
    {f : Workshop σ ν → Session σ ν → Session σ ν} (hd : s.document? key = some d)
    (hf : f (p.workshop s.shared d.address) { d.session with shared := s.shared } =
      Session.announce { d.session with shared := s.shared } n) :
    (s.within p key f).messages = s.messages ++ s.messagesOf p d.address n := by
  unfold within
  rw [hd]
  unfold putBack
  dsimp only
  rw [hf]
  unfold Session.announce
  dsimp only
  rw [List.drop_left, List.flatMap_singleton]

/-- Asking a session for a size that is not positive disturbs nothing. -/
theorem undisturbed_of_invalid (hs : s.Ordered p) (hserved : s.Served) (key id : Nat)
    {width height : Int} (h : width ≤ 0 ∨ height ≤ 0) : s.Undisturbed
      (s.within p key fun _ session => session.startCommand id (.resize width height)) := by
  refine undisturbed_within (e := .start id (.resize width height)) hs hserved key
    fun w session => ?_
  show (session.startCommand id (.resize width height)).muted = session.muted
  rw [session.startCommand_of_invalid id h]
  rfl

/-- The end of a command is told to nobody's document. -/
theorem address?_of_mem_messagesOf_ended {address : String} {id : Nat} {outcome : Except Fault Unit}
    {m : Message} (hm : m ∈ s.messagesOf p address (.ended id outcome)) : m.address? = none := by
  cases hto : m.address? with
  | none => rfl
  | some receiver => cases (address?_of_mem_messagesOf hm hto).2

theorem exists_messages_of_invalid (key id : Nat) {width height : Int}
    (h : width ≤ 0 ∨ height ≤ 0) : ∃ sent,
      (s.within p key fun _ session =>
        session.startCommand id (.resize width height)).messages = s.messages ++ sent ∧
      ∀ m ∈ sent, m.address? = none := by
  cases hfind : s.document? key with
  | none =>
    refine ⟨[], ?_, fun _ hm => absurd hm List.not_mem_nil⟩
    unfold within
    rw [hfind, List.append_nil]
  | some d => exact ⟨_, messages_within_announce hfind (Session.startCommand_of_invalid _ id h),
      fun _ => address?_of_mem_messagesOf_ended⟩

end Studio

/-! ## Commands that are refused -/

/-- What a command asks for cannot be done for any document. -/
def Order.IsImpossible : Order → Prop
  | resize _ width height => width ≤ 0 ∨ height ≤ 0
  | recolor _ mode => ColorMode.ofName? mode = none
  | redraw _ => False

namespace Studio

/-- A document is open under the address. -/
def IsOpen (s : Studio σ ν) (address : Datum) : Prop :=
  ∃ a d, addressOf address = .ok (some a) ∧ s.shownDocument? a = some d

/-- The studio refuses the command: an argument cannot be read, the document is not open, or what is
asked for cannot be done. -/
def Refuses (s : Studio σ ν) (name : String) (arguments : List Datum) : Prop :=
  (∃ fault, Order.read? name arguments = some (.error fault)) ∨
    ∃ order, Order.read? name arguments = some (.ok order) ∧
      (¬ s.IsOpen order.address ∨ order.IsImpossible)

/-- How a command is refused: with words for the user, or by a fault of the command. -/
inductive Refusal (s : Studio σ ν) (name : String) (arguments : List Datum) :
    Except Fault String → Prop
  | unread {fault : Fault} (hread : Order.read? name arguments = some (.error fault)) :
    Refusal s name arguments (.error fault)
  /-- What stands for the address is nothing that could be looked up. -/
  | unsought {order : Order} {fault : Fault}
    (hread : Order.read? name arguments = some (.ok order))
    (haddress : addressOf order.address = .error fault) :
    Refusal s name arguments (.error fault)
  | unopened {order : Order} {address : Option String}
    (hread : Order.read? name arguments = some (.ok order))
    (haddress : addressOf order.address = .ok address)
    (hnone : address.bind s.shownDocument? = none) :
    Refusal s name arguments (.ok (order.address.plain ++ " is not open"))
  | badSize {address : Datum} {a : String} {d : Document σ ν} {width height : Int}
    (hread : Order.read? name arguments = some (.ok (.resize address width height)))
    (haddress : addressOf address = .ok (some a)) (hshown : s.shownDocument? a = some d)
    (hsize : width ≤ 0 ∨ height ≤ 0) :
    Refusal s name arguments
      (.ok ("Invalid drawing size " ++ toString width ++ "x" ++ toString height))
  | badMode {address : Datum} {a mode : String} {d : Document σ ν}
    (hread : Order.read? name arguments = some (.ok (.recolor address mode)))
    (haddress : addressOf address = .ok (some a)) (hshown : s.shownDocument? a = some d)
    (hmode : ColorMode.ofName? mode = none) :
    Refusal s name arguments (.ok (ColorMode.unsupported mode))

/-- What the editor is told of a refusal. -/
def refusalMessages (name : String) : Except Fault String → List Message
  | .ok text => [.alert text, .ended name (.ok ())]
  | .error fault => [.ended name (.error fault)]

variable {p : StudioPlan σ ν} {s : Studio σ ν} {name : String} {arguments : List Datum}
  {outcome : Except Fault String}

theorem address?_of_mem_refusalMessages {m : Message} (hm : m ∈ refusalMessages name outcome) :
    m.address? = none := by
  cases outcome with
  | ok text =>
    simp only [refusalMessages, List.mem_cons, List.not_mem_nil, or_false] at hm
    rcases hm with rfl | rfl <;> rfl
  | error fault =>
    obtain rfl := List.mem_singleton.mp hm
    rfl

theorem Refuses.exists_refusal (h : s.Refuses name arguments) :
    ∃ outcome, s.Refusal name arguments outcome := by
  rcases h with ⟨fault, hread⟩ | ⟨order, hread, hrefused⟩
  · exact ⟨_, .unread hread⟩
  cases haddress : addressOf order.address with
  | error fault => exact ⟨_, .unsought hread haddress⟩
  | ok address =>
    cases hshown : address.bind s.shownDocument? with
    | none => exact ⟨_, .unopened hread haddress hshown⟩
    | some d =>
      obtain ⟨a, rfl, hshown⟩ := Option.bind_eq_some_iff.mp hshown
      have himpossible := hrefused.resolve_left (not_not.mpr ⟨a, d, haddress, hshown⟩)
      cases order with
      | resize address width height => exact ⟨_, .badSize hread haddress hshown himpossible⟩
      | recolor address mode => exact ⟨_, .badMode hread haddress hshown himpossible⟩
      | redraw address => exact absurd himpossible id

/-- A command whose arguments are read and whose address can be looked up does not fail. -/
theorem Refusal.exists_text (h : s.Refusal name arguments outcome) {order : Order}
    (hread : Order.read? name arguments = some (.ok order)) {address : Option String}
    (haddress : addressOf order.address = .ok address) : ∃ text, outcome = .ok text := by
  cases h with
  | unread hread' => rw [hread] at hread'; cases hread'
  | unsought hread' haddress' =>
    rw [hread] at hread'
    cases hread'
    rw [haddress] at haddress'
    cases haddress'
  | unopened | badSize | badMode => exact ⟨_, rfl⟩

theorem command_of_read {order : Order} (hread : Order.read? name arguments = some (.ok order)) :
    s.command p name arguments = s.follow p name order := by
  unfold command
  rw [hread]

theorem follow_of_shown {order : Order} {a : String} {d : Document σ ν}
    (haddress : addressOf order.address = .ok (some a)) (hshown : s.shownDocument? a = some d) :
    s.follow p name order = s.obey p name d.key order := by
  unfold follow
  rw [haddress]
  dsimp only [Option.bind_some]
  rw [hshown]

theorem document?_of_shownDocument? {a : String} {d : Document σ ν}
    (h : s.shownDocument? a = some d) : s.document? d.key = some d := by
  unfold shownDocument? at h
  obtain ⟨key, -, hfind⟩ := Option.bind_eq_some_iff.mp h
  obtain ⟨-, rfl⟩ := mem_documents_of_document? hfind
  exact hfind

/-- A pledge of a size that is not positive ends with the words of the session's fault. -/
theorem pledge_of_invalid (hs : s.Ordered p) (hserved : s.Served) {d : Document σ ν}
    (hd : s.document? d.key = some d) (name : String) {width height : Int}
    (h : width ≤ 0 ∨ height ≤ 0) :
    s.Undisturbed (s.pledge p d.key ⟨name, true⟩ (.resize width height)) ∧
      (s.pledge p d.key ⟨name, true⟩ (.resize width height)).messages =
        s.messages ++ refusalMessages name
          (.ok ("Invalid drawing size " ++ toString width ++ "x" ++ toString height)) := by
  obtain ⟨pledged, hpledged⟩ : ∃ pledged : Studio σ ν,
      pledged = { s with pledges := s.pledges ++ [⟨name, true⟩] } := ⟨_, rfl⟩
  have hordered : pledged.Ordered p := hpledged ▸ hs.congr (.refl _) rfl rfl
  have hqueues : pledged.Served := hpledged ▸ hserved.congr (List.Subset.refl _) rfl rfl
  have hdisturbed : s.Undisturbed pledged := hpledged ▸ ⟨rfl, rfl, rfl, rfl, rfl, rfl, rfl⟩
  have hfind : pledged.document? d.key = some d := hpledged ▸ hd
  -- the session knows the command by its place behind all earlier ones
  have hpledge : pledged.pledges[s.pledges.length]? = some ⟨name, true⟩ := by
    rw [hpledged]
    exact List.getElem?_concat_length
  have hmessages : pledged.messages = s.messages := hpledged ▸ rfl
  unfold pledge
  rw [← hpledged]
  refine ⟨hdisturbed.trans (undisturbed_of_invalid hordered hqueues d.key _ h), ?_⟩
  rw [messages_within_announce hfind (Session.startCommand_of_invalid _ _ h), hmessages]
  unfold messagesOf
  dsimp only
  rw [hpledge]
  rfl

theorem Refusal.spec (h : s.Refusal name arguments outcome) (hs : s.Ordered p)
    (hserved : s.Served) :
    s.Undisturbed (s.command p name arguments) ∧
      (s.command p name arguments).messages = s.messages ++ refusalMessages name outcome := by
  have halert : ∀ text, s.Undisturbed ((s.tell (.alert text)).endNow name (.ok ())) ∧
      ((s.tell (.alert text)).endNow name (.ok ())).messages =
        s.messages ++ refusalMessages name (.ok text) := fun text =>
    ⟨(undisturbed_tell s _).trans (undisturbed_tell _ _), List.append_assoc _ _ _⟩
  cases h with
  | unread hread =>
    unfold command
    rw [hread]
    exact ⟨undisturbed_tell s _, rfl⟩
  | unsought hread haddress =>
    rw [command_of_read hread]
    unfold follow
    rw [haddress]
    exact ⟨undisturbed_tell s _, rfl⟩
  | unopened hread haddress hnone =>
    rw [command_of_read hread]
    unfold follow
    rw [haddress]
    dsimp only
    rw [hnone]
    exact halert _
  | @badSize address a d width height hread haddress hshown hsize =>
    have hcommand : s.command p name arguments =
        s.pledge p d.key ⟨name, true⟩ (.resize width height) :=
      (command_of_read hread).trans (follow_of_shown haddress hshown)
    rw [hcommand]
    exact pledge_of_invalid hs hserved (document?_of_shownDocument? hshown) name hsize
  | @badMode address a mode d hread haddress hshown hmode =>
    have hcommand : s.command p name arguments = s.obey p name d.key (.recolor address mode) :=
      (command_of_read hread).trans (follow_of_shown haddress hshown)
    rw [hcommand]
    unfold obey
    dsimp only
    rw [hmode]
    exact halert _

end Studio

open Studio

/-- **Refusals.** Whatever happened to a studio before, a command that it refuses disturbs nothing,
and the editor is told of it, for no document. If the arguments are read, the user is shown one
message and the command does not fail; only a list or a dictionary in place of an address fails it,
for nothing can be looked up by these. Nor does it disturb anything to ask a session itself for a
size that is not positive, which it answers by a fault. -/
theorem refused_requests_disturb_nothing (p : StudioPlan σ ν) (es : List StudioEvent) :
    (∀ name arguments, (p.run es).Refuses name arguments →
      (p.run es).Undisturbed ((p.run es).command p name arguments) ∧
      ∃ outcome, (p.run es).Refusal name arguments outcome ∧
        ((p.run es).command p name arguments).messages =
          (p.run es).messages ++ refusalMessages name outcome ∧
        (∀ m ∈ refusalMessages name outcome, m.address? = none) ∧
        ∀ order address, Order.read? name arguments = some (.ok order) →
          addressOf order.address = .ok address → ∃ text, outcome = .ok text) ∧
    ∀ (key id : Nat) (width height : Int), (width ≤ 0 ∨ height ≤ 0) →
      let after := (p.run es).within p key fun _ session =>
        session.startCommand id (.resize width height)
      (p.run es).Undisturbed after ∧
      (∃ sent, after.messages = (p.run es).messages ++ sent ∧ ∀ m ∈ sent, m.address? = none) ∧
      ∀ session : Session σ ν, session.startCommand id (.resize width height) =
        session.announce (.ended id (.error (invalidSize width height))) := by
  have hordered := p.ordered_run es
  have hserved := p.served_run es
  refine ⟨fun name arguments hrefuses => ?_, fun key id width height hsize => ⟨?_, ?_, ?_⟩⟩
  · obtain ⟨outcome, hrefusal⟩ := hrefuses.exists_refusal
    obtain ⟨hdisturbed, hmessages⟩ := hrefusal.spec hordered hserved
    exact ⟨hdisturbed, outcome, hrefusal, hmessages, fun _ => address?_of_mem_refusalMessages,
      fun _ _ hread => hrefusal.exists_text hread⟩
  · exact undisturbed_of_invalid hordered hserved key id hsize
  · exact exists_messages_of_invalid key id hsize
  · exact fun session => session.startCommand_of_invalid id hsize

/-! ### A flat drawing -/

/-- The arguments of a command that asks for a drawing without height. -/
def flatArguments : List Datum := [.text "a", .text " 40 ", .int 0]

/-- It shows one message, while a compile is under way; a negative width that the session is asked
for disturbs as little. -/
theorem undisturbed_by_flat :
    (StudioPlan.unclosed.run openingRun).Refuses "fiddle.setDrawingSize" flatArguments ∧
      (StudioPlan.unclosed.run openingRun).Undisturbed
        ((StudioPlan.unclosed.run openingRun).command .unclosed "fiddle.setDrawingSize"
          flatArguments) ∧
      (∃ text, ((StudioPlan.unclosed.run openingRun).command .unclosed "fiddle.setDrawingSize"
        flatArguments).messages = (StudioPlan.unclosed.run openingRun).messages ++
          [.alert text, .ended "fiddle.setDrawingSize" (.ok ())]) ∧
      (StudioPlan.unclosed.run openingRun).Undisturbed
        ((StudioPlan.unclosed.run openingRun).within .unclosed 0 fun _ session =>
          session.startCommand 7 (.resize (-1) 5)) := by
  have hread : Order.read? "fiddle.setDrawingSize" flatArguments =
      some (.ok (.resize (.text "a") 40 0)) := by rfl
  have hrefuses : (StudioPlan.unclosed.run openingRun).Refuses "fiddle.setDrawingSize"
      flatArguments := .inr ⟨_, hread, .inr (.inr (Int.le_refl 0))⟩
  obtain ⟨hdisturbed, outcome, -, hmessages, -, htext⟩ :=
    (refused_requests_disturb_nothing .unclosed openingRun).1 _ _ hrefuses
  obtain ⟨text, rfl⟩ := htext _ _ hread rfl
  have hnarrow := (refused_requests_disturb_nothing .unclosed openingRun).2 0 7 (-1) 5
    (.inl (by decide))
  exact ⟨hrefuses, hdisturbed, ⟨text, hmessages⟩, hnarrow.1⟩

end LiveSketch

import LiveSketch.Proofs.Session.Offer
import LiveSketch.Proofs.Studio.Documents

/-!
# Closed documents

Once a document is closed no session under its address is open, and what its closed sessions still
have under way cannot be seen. So the editor hears nothing more of the address, until it is edited
again, but for the empty reports with which each further closing is answered.
-/

namespace LiveSketch

variable {σ ν : Type}

namespace StudioEvent

/-- The event opens a document with this address, unless it is open. A studio that is set up with an
unknown pixel format refuses every edit. -/
def opens (p : StudioPlan σ ν) (address : String) : StudioEvent → Bool
  | edit a _ => a == address && (ColorMode.ofName? p.colorMode).isSome
  | _ => false

/-- The event closes the document with this address, if it is open. -/
def closes (address : String) : StudioEvent → Bool
  | close a => a == address
  | _ => false

end StudioEvent

namespace Studio

variable {p : StudioPlan σ ν} {s s' : Studio σ ν} {address : String}

/-! ## What is kept while an address is hidden -/

theorem Works.hidden (h : Works p s s') (hhidden : s.Hidden address) : s'.Hidden address := by
  unfold Hidden
  rwa [h.shown]

/-- The editor hears nothing of a hidden address from the work of a studio. -/
theorem Works.mail (h : Works p s s') (hs : s.Ordered p) (hhidden : s.Hidden address) :
    s'.mail address = s.mail address := by
  induction h with
  | session s key e =>
    refine mail_within fun d hd _ haddress => ?_
    have hclosed := hs.closed_of_hidden hhidden d hd haddress
    exact Document.calls_of_closed (hs.regular d hd) hclosed
  | tell s hm =>
    rw [mail_tell, hm, if_neg nofun]
    exact List.append_nil _
  | trans h h' ih ih' => rw [ih' (h.ordered hs) (h.hidden hhidden), ih hs hhidden]
  | _ => rfl

theorem hidden_hide (s : Studio σ ν) (address : String) : (s.hide address).Hidden address := by
  intro hmem
  obtain ⟨entry, he, rfl⟩ := List.mem_map.mp hmem
  have hne := (List.mem_filter.mp he).2
  simp at hne

/-- Whatever closes a document, its address is hidden, and empty reports are all that it is sent. -/
theorem close_spec (h : s.Ordered p) (address : String) :
    (s.close p address).Hidden address ∧
      (s.close p address).mail address = s.mail address ++ [.reports address []] ∧
      ∀ a, a ≠ address → (s.close p address).mail a = s.mail a ∧
        (s.Hidden a → (s.close p address).Hidden a) := by
  obtain ⟨s', hworks, hmail, -, heq⟩ := exists_close_eq h address
  have hsent : ∀ a, (s.close p address).mail a =
      s.mail a ++ if some address = some a then [.reports address []] else [] := by
    intro a
    rw [heq, mail_tell]
    exact congrArg (· ++ _) (hmail a)
  refine ⟨?_, ?_, fun a ha => ⟨?_, fun hhidden => ?_⟩⟩
  · rw [heq]
    exact hidden_hide s' address
  · rw [hsent, if_pos rfl]
  · rw [hsent, if_neg fun hsame => ha (Option.some.inj hsame).symm, List.append_nil]
  · rw [heq]
    intro hmem
    obtain ⟨entry, he, rfl⟩ := List.mem_map.mp hmem
    refine hhidden (List.mem_map_of_mem ?_)
    rw [← hworks.shown]
    exact List.mem_of_mem_filter he

theorem mail_closeAll (s : Studio σ ν) (a : String) : (s.closeAll p).mail a = s.mail a := by
  have heach : ∀ (entries : List (String × Nat)) (s : Studio σ ν),
      (s.closeEach p entries).mail a = s.mail a := by
    intro entries
    induction entries with
    | nil => exact fun s => rfl
    | cons e entries ih =>
      intro s
      refine (ih _).trans ?_
      exact mail_within (e := .close) fun d _ _ _ => Document.calls_of_unmarked rfl
  exact heach s.shown s

theorem hidden_enter (hhidden : s.Hidden address) {a : String} (ha : a ≠ address)
    (mode : ColorMode) : (s.enter p a mode).Hidden address := by
  intro hmem
  have hmem' : address ∈ (s.shown ++ [(a, s.keyCount)]).map Prod.fst := hmem
  rw [List.map_append, List.mem_append] at hmem'
  rcases hmem' with hold | hnew
  · exact hhidden hold
  · exact ha (List.mem_singleton.mp hnew).symm

theorem step_edit_of_hidden (h : s.Ordered p) (hhidden : s.Hidden address) {a text : String}
    (hopens : (StudioEvent.edit a text).opens p address = false) :
    (s.step p (.edit a text)).Hidden address ∧
      (s.step p (.edit a text)).mail address = s.mail address := by
  rcases step_edit_cases (p := p) s a text with
    ⟨-, -, hsame⟩ | ⟨d, -, hworks⟩ | ⟨mode, hnone, hmode, hworks⟩
  · rw [hsame]
    exact ⟨hhidden, rfl⟩
  · exact ⟨hworks.hidden hhidden, hworks.mail h hhidden⟩
  · have ha : a ≠ address := by
      rintro rfl
      simp [StudioEvent.opens, hmode] at hopens
    have hentered := hidden_enter (p := p) hhidden ha mode
    exact ⟨hworks.hidden hentered, hworks.mail (h.enter hnone mode) hentered⟩

/-- While an address is hidden, a closing keeps it hidden, and is heard of there if it is its own. -/
theorem step_close_of_hidden (h : s.Ordered p) (hhidden : s.Hidden address) (a : String) :
    (s.step p (.close a)).Hidden address ∧ (s.step p (.close a)).mail address =
      s.mail address ++ if (StudioEvent.close a).closes address then [.reports address []] else [] := by
  obtain ⟨hclosed, hmail, hother⟩ := close_spec h a
  by_cases ha : a = address
  · subst ha
    have hcloses : (StudioEvent.close a).closes a = true := beq_self_eq_true a
    rw [if_pos hcloses]
    exact ⟨hclosed, hmail⟩
  · have hcloses : ¬ (StudioEvent.close a).closes address = true := by
      simpa [StudioEvent.closes] using ha
    obtain ⟨hmail', hstays⟩ := hother address (Ne.symm ha)
    rw [if_neg hcloses, List.append_nil]
    exact ⟨hstays hhidden, hmail'⟩

/-- While an address is hidden, an event that does not open it keeps it hidden and sends it nothing,
or empty reports if it closes it. -/
theorem step_of_hidden (h : s.Ordered p) (hhidden : s.Hidden address) {e : StudioEvent}
    (he : e.opens p address = false) :
    (s.step p e).Hidden address ∧ (s.step p e).mail address =
      s.mail address ++ if e.closes address then [.reports address []] else [] := by
  have hworks : ∀ s', Works p s s' → s'.Hidden address ∧ s'.mail address = s.mail address ++ [] := by
    intro s' hworks
    rw [List.append_nil]
    exact ⟨hworks.hidden hhidden, hworks.mail h hhidden⟩
  cases e with
  | edit a text =>
    obtain ⟨hstays, hmail⟩ := step_edit_of_hidden h hhidden he
    exact ⟨hstays, hmail.trans (List.append_nil _).symm⟩
  | close a => exact step_close_of_hidden h hhidden a
  | shutdown => exact ⟨List.not_mem_nil, (mail_closeAll s address).trans (List.append_nil _).symm⟩
  | command name arguments => exact hworks _ (.command s name arguments)
  | greet => exact hworks _ (.tell s rfl)
  | pass span => exact hworks _ (.advance s span)
  | turn key place => exact hworks _ (.turn s key place)
  | complete key foundAt => exact hworks _ (.complete s key foundAt)

theorem mail_run_of_hidden (h : s.Ordered p) (hhidden : s.Hidden address) {es : List StudioEvent}
    (hes : es.all (fun e => !e.opens p address) = true) :
    (s.run p es).mail address =
      s.mail address ++ List.replicate (es.countP (·.closes address)) (.reports address []) := by
  induction es generalizing s with
  | nil => exact (List.append_nil _).symm
  | cons e es ih =>
    rw [List.all_cons, Bool.and_eq_true, Bool.not_eq_true'] at hes
    obtain ⟨hhidden', hmail⟩ := step_of_hidden h hhidden hes.1
    refine (ih (h.step e) hhidden' hes.2).trans ?_
    rw [hmail, List.append_assoc, List.countP_cons]
    congr 1
    cases e.closes address with
    | true => rw [if_pos rfl, if_pos rfl, Nat.add_comm, List.replicate_add]; rfl
    | false => rw [if_neg nofun, if_neg nofun, Nat.add_zero, List.nil_append]

end Studio

/-- **Closing is final.** After a session is closed, whatever happens to it, its face and the calls to
its editor stay as they were, and it makes no request. After a document is closed, empty reports are
the last that the editor is sent for its address: it is sent nothing more for it, until an edit opens
it again, but the same empty reports whenever it is closed once more. -/
theorem closing_is_final :
    (∀ (o : Opening) (w : Workshop σ ν) (es es' : List Event),
      (o.run w (es ++ .close :: es')).face = (o.run w es).face ∧
        (o.run w (es ++ .close :: es')).requests.length = (o.run w es).requests.length) ∧
    ∀ (p : StudioPlan σ ν) (address : String) (es es' : List StudioEvent),
      es'.all (fun e => !e.opens p address) = true →
        (p.run (es ++ .close address :: es')).mail address = (p.run es).mail address ++
          .reports address [] ::
            List.replicate (es'.countP (·.closes address)) (.reports address []) := by
  refine ⟨fun o w es es' => o.final_run w es es', fun p address es es' hes => ?_⟩
  have hordered := p.ordered_run es
  obtain ⟨hhidden, hmail, -⟩ := Studio.close_spec hordered address
  have hrun : p.run (es ++ .close address :: es') = ((p.run es).close p address).run p es' :=
    Studio.run_append p _ es (.close address :: es')
  have hafter : ((p.run es).close p address).Ordered p := hordered.step (.close address)
  rw [hrun, Studio.mail_run_of_hidden hafter hhidden hes, hmail, List.append_assoc]
  rfl

/-! ## A document that is closed while it is compiled -/

/-- A studio in which every text has an opening bracket too many. -/
def StudioPlan.unclosed : StudioPlan Unit Unit where
  programOf _ _ := .unclosed
  engine := .idle
  enter _ s := s
  references := ⟨[]⟩
  loaded _ := ⟨[], []⟩
  delay := 0
  width := 4
  height := 4
  colorMode := "RGBA"
  previewsBlocked := true

/-- A document is opened, its edit rests, and the compile of its text is begun. -/
def openingRun : List StudioEvent := [.edit "a" "(", .turn 0 0, .turn 0 0, .turn 0 0]

/-- The compile ends, and its outcome comes to be taken over. The document is closed once more. -/
def endingRun : List StudioEvent := [.complete 0 none, .turn 0 0, .turn 0 0, .close "a"]

/-- The error of the text is never reported. -/
theorem mail_closing :
    (StudioPlan.unclosed.run (openingRun ++ .close "a" :: endingRun)).mail "a" =
      [.status "a" .working, .reports "a" [], .reports "a" []] := by
  have hbefore : (StudioPlan.unclosed.run openingRun).mail "a" = [.status "a" .working] := rfl
  rw [closing_is_final.2 StudioPlan.unclosed "a" openingRun endingRun rfl, hbefore]
  rfl

end LiveSketch

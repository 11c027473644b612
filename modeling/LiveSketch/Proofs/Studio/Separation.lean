import LiveSketch.Proofs.Session.Report
import LiveSketch.Proofs.Studio.Closing
import LiveSketch.Proofs.Studio.Mirror

/-!
# Documents do not interfere

Of a run, an address has the events that are for it alone (`StudioPlan.kept`): its calls, its
commands, the turns and jobs of its sessions, time and the end of the whole. In the run of these a
session is met under its rank.

All scripts find the same modules, so what one does to them the others can tell. An address fares as
if it were alone if the draws of the other documents leave what scripts share as they found it
(`StudioPlan.run_kept`), and need not otherwise (`run_not_always_kept`).
-/

namespace LiveSketch

variable {σ ν : Type}

/-! ## Events of one address -/

namespace StudioEvent

/-- The first argument of a command is this address. -/
def isFor (u : String) : List Datum → Bool
  | .text a :: _ => a == u
  | _ => false

/-- The event as it happens to a studio that has nothing but this address, if it does. -/
def keptFor (u : String) (s : Studio σ ν) : StudioEvent → Option StudioEvent
  | edit a text => if a = u then some (.edit a text) else none
  | close a => if a = u then some (.close a) else none
  | shutdown => some .shutdown
  | command name arguments => if isFor u arguments then some (.command name arguments) else none
  | greet => none
  | pass span => some (.pass span)
  | turn key place => (s.rank? u key).map fun key => .turn key place
  | complete key foundAt => (s.rank? u key).map fun key => .complete key foundAt

end StudioEvent

namespace Studio

/-- The events of a run that happen to one address. -/
def kept (p : StudioPlan σ ν) (u : String) : Studio σ ν → List StudioEvent → List StudioEvent
  | _, [] => []
  | s, e :: es => (e.keptFor u s).toList ++ kept p u (s.step p e) es

/-- Whatever happens in a run, but not to one address, leaves what scripts share as it was. -/
def Spared (p : StudioPlan σ ν) (u : String) : Studio σ ν → List StudioEvent → Prop
  | _, [] => True
  | s, e :: es => (e.keptFor u s = none → p.SharesAlike s.shared (s.step p e).shared) ∧
    Spared p u (s.step p e) es

variable {p : StudioPlan σ ν} {s t : Studio σ ν} {u : String}

/-! ## Edits -/

theorem opened_of_shown {a : String} {d : Document σ ν} (h : s.shownDocument? a = some d) :
    s.opened p a = .ok (s, d.key) := by
  unfold opened
  rw [h]

theorem opened_of_entered {a : String} {mode : ColorMode} (h : s.shownDocument? a = none)
    (hmode : ColorMode.ofName? p.colorMode = some mode) :
    s.opened p a = .ok (s.enter p a mode, s.keyCount) := by
  unfold opened
  rw [h, hmode]
  rfl

theorem opened_of_refused {a : String} (h : s.shownDocument? a = none)
    (hmode : ColorMode.ofName? p.colorMode = none) : ∃ fault, s.opened p a = .error fault := by
  unfold opened
  rw [h, hmode]
  exact ⟨_, rfl⟩

namespace Mirrors

theorem edit_other (h : Mirrors p u s t) (hs : s.Ordered p) {key : Nat} (hother : s.IsOther u key)
    (text : String) : Mirrors p u
      ((s.moveLast key).within p key fun w session => session.step w (.edit text)) t := by
  have hmoved := Alike.moveLast (u := u) s key
  refine (h.congr hmoved .refl).within_other_of_not_endsJob ((Works.moveLast s key).ordered hs) ?_ rfl
  exact fun d hd => hother d (hmoved.documents.mem_iff.mp hd)

theorem edit_own (h : Mirrors p u s t) (hs : s.Ordered p) (ht : t.Ordered p) {d : Document σ ν}
    (hd : d ∈ s.documents) (haddress : d.address = u) (text : String) : Mirrors p u
      ((s.moveLast d.key).within p d.key fun w session => session.step w (.edit text))
      ((t.moveLast (s.rank u d.key)).within p (s.rank u d.key)
        fun w session => session.step w (.edit text)) := by
  have hmoved := Alike.moveLast (u := u) s d.key
  have hrank : (s.moveLast d.key).rank u = s.rank u := rank_congr (hmoved.documents.map _)
  have hboth := h.congr hmoved (Alike.moveLast t (s.rank u d.key))
  have hstep := hboth.within_own ((Works.moveLast s d.key).ordered hs)
    ((Works.moveLast t (s.rank u d.key)).ordered ht) (hmoved.documents.mem_iff.mpr hd) haddress
    (Eq.refl (Event.edit text).unnumbered)
  rwa [hrank] at hstep

theorem step_edit_other (h : Mirrors p u s t) (hs : s.Ordered p) {a : String} (ha : a ≠ u)
    (text : String) : Mirrors p u (s.step p (.edit a text)) t := by
  rcases opened_cases (p := p) s a with
    ⟨-, -, _, hrefused⟩ | ⟨d, hshown, hopened⟩ | ⟨mode, hnone, -, hopened⟩
  · rw [step_edit_of_refused hrefused]
    exact h
  · obtain ⟨hd, haddress, -⟩ := hs.shownDocument?_eq_some hshown
    rw [step_edit_of_opened hopened]
    exact h.edit_other hs (hs.isOther hd (haddress ▸ ha)) text
  · rw [step_edit_of_opened hopened]
    have hs' := hs.enter hnone mode
    refine (h.enter_other ha mode).edit_other hs' ?_ text
    exact hs'.isOther (d := s.newDocument p a mode) (List.mem_append_right _ List.mem_cons_self) ha

theorem step_edit_own (h : Mirrors p u s t) (hs : s.Ordered p) (ht : t.Ordered p) (text : String) :
    Mirrors p u (s.step p (.edit u text)) (t.step p (.edit u text)) := by
  cases hshown : s.shownDocument? u with
  | some d =>
    obtain ⟨hd, haddress, -⟩ := hs.shownDocument?_eq_some hshown
    obtain ⟨e, hshown', hkey⟩ := h.shownDocument?_of_some hs ht hshown
    rw [step_edit_of_opened (opened_of_shown hshown),
      step_edit_of_opened (opened_of_shown hshown'), hkey]
    exact h.edit_own hs ht hd haddress text
  | none =>
    have hshown' := h.shownDocument?_of_none hs ht hshown
    cases hmode : ColorMode.ofName? p.colorMode with
    | none =>
      obtain ⟨_, hrefused⟩ := opened_of_refused hshown hmode
      obtain ⟨_, hrefused'⟩ := opened_of_refused hshown' hmode
      rw [step_edit_of_refused hrefused, step_edit_of_refused hrefused']
      exact h
    | some mode =>
      have hentered := (h.enter_own hs mode).edit_own (hs.enter hshown mode) (ht.enter hshown' mode)
        (d := s.newDocument p u mode) (List.mem_append_right _ List.mem_cons_self) rfl text
      have hkey : (s.enter p u mode).rank u s.keyCount = t.keyCount := h.rank_keyCount hs mode
      rw [step_edit_of_opened (opened_of_entered hshown hmode),
        step_edit_of_opened (opened_of_entered hshown' hmode), ← hkey]
      exact hentered

end Mirrors

/-! ## Closing -/

namespace Mirrors

theorem step_close_own (h : Mirrors p u s t) (hs : s.Ordered p) (ht : t.Ordered p) :
    Mirrors p u (s.step p (.close u)) (t.step p (.close u)) := by
  show Mirrors p u (s.close p u) (t.close p u)
  unfold close
  cases hshown : s.shownDocument? u with
  | none =>
    rw [h.shownDocument?_of_none hs ht hshown]
    exact h.tell _
  | some d =>
    obtain ⟨hd, haddress, -⟩ := hs.shownDocument?_eq_some hshown
    obtain ⟨e, hshown', hkey⟩ := h.shownDocument?_of_some hs ht hshown
    have hclosed := (h.within_own hs ht hd haddress (Eq.refl Event.close.unnumbered)).hide_own
    unfold hide at hclosed
    rw [shown_within, shown_within] at hclosed
    rw [hshown']
    dsimp only
    rw [hkey]
    exact hclosed.tell _

theorem step_close_other (h : Mirrors p u s t) (hs : s.Ordered p) {a : String} (ha : a ≠ u) :
    Mirrors p u (s.step p (.close a)) t := by
  have htold : (Message.reports a []).address? ≠ some u := fun hto => ha (Option.some.inj hto)
  show Mirrors p u (s.close p a) t
  unfold close
  cases hshown : s.shownDocument? a with
  | none => exact h.tell_other htold
  | some d =>
    obtain ⟨hd, haddress, -⟩ := hs.shownDocument?_eq_some hshown
    have hother := hs.isOther hd (haddress ▸ ha : d.address ≠ u)
    have hclosed := (h.within_other_of_not_endsJob hs hother (e := .close) rfl).hide_other ha
    unfold hide at hclosed
    rw [shown_within] at hclosed
    exact hclosed.tell_other htold

/-- Closing all sessions closes those of the address in the mirror. -/
theorem closeEach (h : Mirrors p u s t) (hs : s.Ordered p) (ht : t.Ordered p)
    (entries : List (String × Nat))
    (hentries : ∀ e ∈ entries, ∃ d ∈ s.documents, d.address = e.1 ∧ d.key = e.2) :
    Mirrors p u (s.closeEach p entries)
      (t.closeEach p ((entries.filter (·.1 == u)).map fun e => (e.1, s.rank u e.2))) := by
  induction entries generalizing s t with
  | nil => exact h
  | cons e entries ih =>
    obtain ⟨d, hd, haddress, hkey⟩ := hentries e List.mem_cons_self
    have hrest : ∀ e' ∈ entries, ∃ d ∈ (s.within p e.2 fun w session =>
        session.step w .close).documents, d.address = e'.1 ∧ d.key = e'.2 := by
      intro e' he'
      obtain ⟨d', hd', haddress', hkey'⟩ := hentries e' (List.mem_cons_of_mem _ he')
      rw [documents_within hs.keys]
      refine ⟨_, List.mem_map_of_mem hd', ?_, ?_⟩
      · split <;> exact haddress'
      · split <;> exact hkey'
    have hrank := rank_within (p := p) (u := u) hs.keys e.2 .close
    by_cases hu : e.1 = u
    · have hstep := h.within_own hs ht hd (haddress.trans hu) (Eq.refl Event.close.unnumbered)
      rw [hkey] at hstep
      have hall := ih hstep (hs.within e.2 .close) (ht.within (s.rank u e.2) .close) hrest
      rw [hrank] at hall
      rw [List.filter_cons_of_pos (by simpa using hu), List.map_cons]
      exact hall
    · have hother : s.IsOther u e.2 := hkey ▸ hs.isOther hd (haddress ▸ hu)
      have hstep := h.within_other_of_not_endsJob hs hother (e := .close) rfl
      have hall := ih hstep (hs.within e.2 .close) ht hrest
      rw [hrank] at hall
      rw [List.filter_cons_of_neg (by simpa using hu)]
      exact hall

theorem step_shutdown (h : Mirrors p u s t) (hs : s.Ordered p) (ht : t.Ordered p) :
    Mirrors p u (s.step p .shutdown) (t.step p .shutdown) := by
  have hclosed := h.closeEach hs ht s.shown fun e he => hs.shown e.1 e.2 he
  rw [← h.shown] at hclosed
  exact ⟨hclosed.shared, hclosed.documents, rfl, hclosed.keyCount, hclosed.now, hclosed.mail⟩

end Mirrors

/-! ## Time -/

/-- Time goes on for some sessions, one after the other. -/
theorem documents_passEach (hs : s.Ordered p) (span : Int) (ds : List (Document σ ν))
    (hds : (ds.map Document.key).Nodup) :
    let pass (s : Studio σ ν) (d : Document σ ν) : Studio σ ν :=
      s.within p d.key fun w session => session.step w (.pass span)
    let after := ds.foldl pass s
    after.documents = s.documents.map (fun d => if d.key ∈ ds.map Document.key then
        d.step p s.shared (.pass span) else d) ∧
      after.shared = s.shared ∧ after.shown = s.shown ∧ after.keyCount = s.keyCount ∧
      after.now = s.now ∧ after.mail u = s.mail u := by
  induction ds generalizing s with
  | nil => exact ⟨by simp, rfl, rfl, rfl, rfl, rfl⟩
  | cons d ds ih =>
    obtain ⟨hnot, hrest⟩ := List.nodup_cons.mp hds
    obtain ⟨hdocuments, hshared, hshown, hcount, hnow, hmail⟩ :=
      ih (hs.within d.key (.pass span)) hrest
    have hkept : (s.within p d.key fun w session => session.step w (.pass span)).shared = s.shared :=
      shared_within_of_not_endsJob d.key rfl
    refine ⟨?_, hshared.trans hkept, hshown.trans (shown_within _ _),
      hcount.trans (keyCount_within _ _), hnow.trans (now_within _ _), hmail.trans ?_⟩
    · refine hdocuments.trans ?_
      rw [hkept, documents_within hs.keys, List.map_map]
      refine List.map_congr_left fun d' _ => ?_
      dsimp only [Function.comp]
      by_cases hkey : d'.key = d.key
      · have hnot' : (d'.step p s.shared (.pass span)).key ∉ ds.map Document.key := by
          show d'.key ∉ _
          rwa [hkey]
        simp only [if_pos hkey]
        rw [if_neg hnot', if_pos (by simp [hkey])]
      · simp only [if_neg hkey]
        simp only [List.map_cons, List.mem_cons, hkey, false_or]
    · exact mail_within fun d' _ _ _ => Document.calls_of_unmarked rfl

/-- Time goes on for all documents, in whatever order they are served. -/
theorem documents_advance (hs : s.Ordered p) (span : Int) :
    (s.advance p span).documents = s.documents.map (fun d => d.step p s.shared (.pass span)) ∧
      (s.advance p span).shared = s.shared ∧ (s.advance p span).shown = s.shown ∧
      (s.advance p span).keyCount = s.keyCount ∧ (s.advance p span).now = s.now + span ∧
      (s.advance p span).mail u = s.mail u := by
  let due (d : Document σ ν) : Int := (d.session.timer.map Timer.deadline).getD 0
  have hperm := List.mergeSort_perm s.documents fun a b => decide (due a ≤ due b)
  obtain ⟨hdocuments, hshared, hshown, hcount, hnow, hmail⟩ := documents_passEach (u := u) hs span
    (s.documents.mergeSort fun a b => decide (due a ≤ due b))
    ((hperm.map Document.key).nodup_iff.mpr hs.keys)
  refine ⟨hdocuments.trans ?_, hshared, hshown, hcount, congrArg (· + span) hnow, hmail⟩
  refine List.map_congr_left fun d hd => if_pos ?_
  exact List.mem_map_of_mem (hperm.mem_iff.mpr hd)

theorem Mirrors.advance (h : Mirrors p u s t) (hs : s.Ordered p) (ht : t.Ordered p) (span : Int) :
    Mirrors p u (s.advance p span) (t.advance p span) := by
  obtain ⟨hdocuments, hshared, hshown, hcount, hnow, hmail⟩ := documents_advance (u := u) hs span
  obtain ⟨hdocuments', hshared', hshown', hcount', hnow', hmail'⟩ :=
    documents_advance (u := u) ht span
  have hrank : (s.advance p span).rank u = s.rank u := by
    refine rank_congr (.of_eq ?_)
    rw [hdocuments, List.map_map]
    rfl
  have hown : (s.advance p span).documents.countP (·.address == u) =
      s.documents.countP (·.address == u) := by
    rw [hdocuments, List.countP_map]
    rfl
  exact {
    shared := by
      rw [hshared, hshared']
      exact h.shared
    documents := h.documents_map (f := fun x => (x.step p t.shared (.pass span)).alone) hdocuments
      hdocuments' (fun _ => ⟨rfl, rfl⟩) (fun _ => rfl) (fun d _ _ => d.under_step h.shared _ _)
      (fun e => e.under_step (.refl _) e.key _)
    shown := by
      rw [hshown', hshown, hrank]
      exact h.shown
    keyCount := hcount'.trans (h.keyCount.trans hown.symm)
    now := hnow'.trans ((congrArg (· + span) h.now).trans hnow.symm)
    mail := hmail'.trans (h.mail.trans hmail.symm) }

/-! ## Commands -/

theorem exists_of_bind_ok {α β : Type} {x : Except Fault α} {f : α → Except Fault β} {b : β}
    (h : x >>= f = .ok b) : ∃ a, x = .ok a ∧ f a = .ok b := by
  cases x with
  | error fault => cases h
  | ok a => exact ⟨a, rfl, h⟩

theorem argumentAt_of_read? {name : String} {arguments : List Datum} {order : Order}
    (h : Order.read? name arguments = some (.ok order)) :
    argumentAt arguments 0 = .ok order.address := by
  unfold Order.read? at h
  split at h
  · obtain ⟨address, hfirst, h⟩ := exists_of_bind_ok (Option.some.inj h)
    obtain ⟨width, -, h⟩ := exists_of_bind_ok h
    obtain ⟨width, -, h⟩ := exists_of_bind_ok h
    obtain ⟨height, -, h⟩ := exists_of_bind_ok h
    obtain ⟨height, -, h⟩ := exists_of_bind_ok h
    cases h
    exact hfirst
  · split at h
    · obtain ⟨address, hfirst, h⟩ := exists_of_bind_ok (Option.some.inj h)
      obtain ⟨mode, -, h⟩ := exists_of_bind_ok h
      cases h
      exact hfirst
    · split at h
      · obtain ⟨address, hfirst, h⟩ := exists_of_bind_ok (Option.some.inj h)
        cases h
        exact hfirst
      · cases h

theorem eq_text_of_addressOf {address : Datum} {a : String}
    (h : addressOf address = .ok (some a)) : address = .text a := by
  cases address <;> cases h
  rfl

/-- The commands for an address are those whose document it is. -/
theorem isFor_iff {arguments : List Datum} {first : Datum}
    (h : argumentAt arguments 0 = .ok first) :
    StudioEvent.isFor u arguments = true ↔ first = .text u := by
  cases arguments with
  | nil => cases h
  | cons a rest =>
    cases h
    cases first <;> simp [StudioEvent.isFor]

namespace Mirrors

theorem pledge_own (h : Mirrors p u s t) (hs : s.Ordered p) (ht : t.Ordered p) {d : Document σ ν}
    (hd : d ∈ s.documents) (haddress : d.address = u) (pledge : Pledge) (command : Command) :
    Mirrors p u (s.pledge p d.key pledge command)
      (t.pledge p (s.rank u d.key) pledge command) := by
  have hsame : (Event.start s.pledges.length command).unnumbered =
      (Event.start t.pledges.length command).unnumbered := rfl
  exact within_own (s := { s with pledges := s.pledges ++ [pledge] })
    (t := { t with pledges := t.pledges ++ [pledge] }) (h.congr (.book s _ _ _) (.book t _ _ _))
    ((Works.book s _ _ _ _).ordered hs) ((Works.book t _ _ _ _).ordered ht) hd haddress hsame

theorem pledge_other (h : Mirrors p u s t) (hs : s.Ordered p) {key : Nat} (hother : s.IsOther u key)
    (pledge : Pledge) (command : Command) : Mirrors p u (s.pledge p key pledge command) t :=
  within_other_of_not_endsJob (s := { s with pledges := s.pledges ++ [pledge] })
    (e := .start s.pledges.length command) (h.congr (.book s _ _ _) .refl)
    ((Works.book s _ _ _ _).ordered hs) hother rfl

theorem obey_own (h : Mirrors p u s t) (hs : s.Ordered p) (ht : t.Ordered p) {d : Document σ ν}
    (hd : d ∈ s.documents) (haddress : d.address = u) (name : String) (order : Order) :
    Mirrors p u (s.obey p name d.key order) (t.obey p name (s.rank u d.key) order) := by
  cases order with
  | resize address width height => exact h.pledge_own hs ht hd haddress _ _
  | redraw address => exact h.pledge_own hs ht hd haddress _ _
  | recolor address mode =>
    unfold obey
    dsimp only
    split
    · exact (h.tell _).tell _
    · rename_i mode _
      have hequipped := h.within_own hs ht hd haddress
        (Eq.refl (Event.equip (.pixels mode)).unnumbered)
      have hd' := mem_documents_within (p := p) hs.keys hd (.equip (.pixels mode))
      have hpledged := hequipped.pledge_own (hs.within d.key (.equip (.pixels mode)))
        (ht.within (s.rank u d.key) (.equip (.pixels mode))) hd' haddress ⟨name, false⟩ .render
      rw [rank_within hs.keys] at hpledged
      exact hpledged

/-- A caller whose order is refused is told so under no address. -/
theorem refuse_other (h : Mirrors p u s t) (text name : String) :
    Mirrors p u ((s.tell (.alert text)).endNow name (.ok ())) t := by
  have halert : Mirrors p u (s.tell (.alert text)) t := h.tell_other nofun
  exact halert.tell_other nofun

theorem obey_other (h : Mirrors p u s t) (hs : s.Ordered p) {d : Document σ ν}
    (hd : d ∈ s.documents) (hne : d.address ≠ u) (name : String) (order : Order) :
    Mirrors p u (s.obey p name d.key order) t := by
  have hother := hs.isOther hd hne
  cases order with
  | resize address width height => exact h.pledge_other hs hother _ _
  | redraw address => exact h.pledge_other hs hother _ _
  | recolor address mode =>
    unfold obey
    dsimp only
    split
    · exact h.refuse_other _ _
    · rename_i mode _
      have hs' := hs.within d.key (.equip (.pixels mode))
      have hd' := mem_documents_within (p := p) hs.keys hd (.equip (.pixels mode))
      exact (h.within_other_of_not_endsJob hs hother rfl).pledge_other hs' (hs'.isOther hd' hne) _ _

theorem command_own (h : Mirrors p u s t) (hs : s.Ordered p) (ht : t.Ordered p) (name : String)
    {arguments : List Datum} (hfor : StudioEvent.isFor u arguments = true) :
    Mirrors p u (s.command p name arguments) (t.command p name arguments) := by
  unfold command
  cases hread : Order.read? name arguments with
  | none => exact h
  | some read =>
    cases read with
    | error fault => exact h.tell _
    | ok order =>
      have hto : addressOf order.address = .ok (some u) := by
        rw [(isFor_iff (argumentAt_of_read? hread)).mp hfor]
        rfl
      dsimp only
      unfold follow
      rw [hto]
      dsimp only [Option.bind_some]
      cases hshown : s.shownDocument? u with
      | none =>
        rw [h.shownDocument?_of_none hs ht hshown]
        exact (h.tell _).tell _
      | some d =>
        obtain ⟨hd, haddress, -⟩ := hs.shownDocument?_eq_some hshown
        obtain ⟨e, hshown', hkey⟩ := h.shownDocument?_of_some hs ht hshown
        rw [hshown']
        dsimp only
        rw [hkey]
        exact h.obey_own hs ht hd haddress name order

theorem command_other (h : Mirrors p u s t) (hs : s.Ordered p) (name : String)
    {arguments : List Datum} (hfor : StudioEvent.isFor u arguments = false) :
    Mirrors p u (s.command p name arguments) t := by
  unfold command
  cases hread : Order.read? name arguments with
  | none => exact h
  | some read =>
    cases read with
    | error fault => exact h.tell_other nofun
    | ok order =>
      dsimp only
      unfold follow
      cases hto : addressOf order.address with
      | error fault => exact h.tell_other nofun
      | ok address =>
        dsimp only
        cases hshown : address.bind s.shownDocument? with
        | none =>
          exact h.refuse_other _ _
        | some d =>
          obtain ⟨a, rfl, hshown⟩ := Option.bind_eq_some_iff.mp hshown
          obtain ⟨hd, haddress, -⟩ := hs.shownDocument?_eq_some hshown
          have hne : d.address ≠ u := by
            rintro rfl
            subst haddress
            have htext := (isFor_iff (argumentAt_of_read? hread)).mpr (eq_text_of_addressOf hto)
            rw [hfor] at htext
            cases htext
          exact h.obey_other hs hd hne name order

end Mirrors

/-! ## Turns and jobs -/

theorem rank?_eq_some {key r : Nat} (h : s.rank? u key = some r) :
    ∃ d ∈ s.documents, d.address = u ∧ d.key = key ∧ s.rank u d.key = r := by
  obtain ⟨d, hfind, hr⟩ := Option.bind_eq_some_iff.mp h
  obtain ⟨hd, hkey⟩ := mem_documents_of_document? hfind
  split at hr
  · rename_i haddress
    exact ⟨d, hd, haddress, hkey, hkey ▸ Option.some.inj hr⟩
  · cases hr

theorem Ordered.isOther_of_rank?_eq_none (hs : s.Ordered p) {key : Nat}
    (h : s.rank? u key = none) : s.IsOther u key := by
  rintro d hd rfl haddress
  unfold rank? at h
  rw [hs.document?_key hd] at h
  simp [haddress] at h

/-- A turn or a job of one session is one of the session of the same rank in the mirror, whatever is
noted of it in the queues. -/
theorem Mirrors.step_queued (h : Mirrors p u s t) (hs : s.Ordered p) (ht : t.Ordered p)
    (event : Nat → StudioEvent) {e : Event} (queues : Studio σ ν → Nat → List Nat × List Nat)
    (hevent : ∀ (s : Studio σ ν) key, s.step p (event key) =
      { s with turns := (queues s key).1, jobs := (queues s key).2 }.within p key
        fun w session => session.step w e)
    (key : Nat)
    (hspared : s.rank? u key = none → p.SharesAlike s.shared (s.step p (event key)).shared) :
    Mirrors p u (s.step p (event key)) (t.run p ((s.rank? u key).map event).toList) := by
  have hs' := (Works.book (p := p) s (queues s key).1 (queues s key).2 s.pledges s.now).ordered hs
  rw [hevent] at hspared ⊢
  cases hrank : s.rank? u key with
  | none =>
    exact within_other (h.congr (.book s _ _ _) .refl) hs' (hs.isOther_of_rank?_eq_none hrank)
      (hspared hrank)
  | some r =>
    obtain ⟨d, hd, haddress, rfl, rfl⟩ := rank?_eq_some hrank
    show Mirrors p u _ (t.step p (event (s.rank u d.key)))
    rw [hevent]
    exact within_own (h.congr (.book s _ _ _) (.book t _ _ _)) hs'
      ((Works.book t _ _ _ _).ordered ht) hd haddress rfl

/-! ## Every run -/

theorem Mirrors.step (h : Mirrors p u s t) (hs : s.Ordered p) (ht : t.Ordered p) (e : StudioEvent)
    (hspared : e.keptFor u s = none → p.SharesAlike s.shared (s.step p e).shared) :
    Mirrors p u (s.step p e) (t.run p (e.keptFor u s).toList) := by
  cases e with
  | edit a text =>
    by_cases ha : a = u
    · subst ha
      rw [StudioEvent.keptFor, if_pos rfl]
      exact h.step_edit_own hs ht text
    · rw [StudioEvent.keptFor, if_neg ha]
      exact h.step_edit_other hs ha text
  | close a =>
    by_cases ha : a = u
    · subst ha
      rw [StudioEvent.keptFor, if_pos rfl]
      exact h.step_close_own hs ht
    · rw [StudioEvent.keptFor, if_neg ha]
      exact h.step_close_other hs ha
  | shutdown => exact h.step_shutdown hs ht
  | command name arguments =>
    cases hfor : StudioEvent.isFor u arguments with
    | true =>
      rw [StudioEvent.keptFor, if_pos hfor]
      exact h.command_own hs ht name hfor
    | false =>
      rw [StudioEvent.keptFor, if_neg (by rw [hfor]; exact Bool.false_ne_true)]
      exact h.command_other hs name hfor
  | greet => exact h.tell_other nofun
  | pass span => exact h.advance hs ht span
  | turn key place =>
    refine h.step_queued hs ht (.turn · place) (fun s key => (s.turns.erase key, s.jobs))
      (fun _ _ => rfl) key fun hrank => hspared ?_
    rw [StudioEvent.keptFor, hrank]
    rfl
  | complete key foundAt =>
    refine h.step_queued hs ht (.complete · foundAt) (fun s key => (s.turns, s.jobs.erase key))
      (fun _ _ => rfl) key fun hrank => hspared ?_
    rw [StudioEvent.keptFor, hrank]
    rfl

theorem Mirrors.run (h : Mirrors p u s t) (hs : s.Ordered p) (ht : t.Ordered p)
    {es : List StudioEvent} (hspared : Spared p u s es) :
    Mirrors p u (s.run p es) (t.run p (kept p u s es)) := by
  induction es generalizing s t with
  | nil => exact h
  | cons e es ih =>
    show Mirrors p u ((s.step p e).run p es)
      (t.run p ((e.keptFor u s).toList ++ kept p u (s.step p e) es))
    rw [run_append]
    exact ih (h.step hs ht e hspared.1) (hs.step e) (ordered_run ht _) hspared.2

theorem mirrors_empty (u : String) : Mirrors p u (empty : Studio σ ν) empty :=
  ⟨.refl _, .refl _, rfl, rfl, rfl, rfl⟩

end Studio

namespace StudioPlan

/-- The events of a run that happen to one address. -/
def kept (p : StudioPlan σ ν) (u : String) (es : List StudioEvent) : List StudioEvent :=
  Studio.kept p u .empty es

/-- The draws of all other documents leave what scripts share as they found it. -/
def Spares (p : StudioPlan σ ν) (u : String) (es : List StudioEvent) : Prop :=
  Studio.Spared p u .empty es

/-- The address fares as in the run of the events that are for it alone: its session is the same but
for the numbers of commands, with its texts, its mode, its diagnostics, its artifact, its size and
its way of making surfaces, and the editor is sent the same mail for it, in the same order. -/
def FaresAlone (p : StudioPlan σ ν) (u : String) (es : List StudioEvent) : Prop :=
  ((p.run (p.kept u es)).shownDocument? u).map (·.session.unnumbered) =
      ((p.run es).shownDocument? u).map (·.session.unnumbered) ∧
    (p.run (p.kept u es)).mail u = (p.run es).mail u

/-- **Separation.** Whatever happens to a studio, an address fares as if it were alone, if the draws
of other documents leave what scripts share as they found it. -/
theorem run_kept (p : StudioPlan σ ν) (es : List StudioEvent) (u : String) (h : p.Spares u es) :
    p.FaresAlone u es := by
  have hmirrors : Studio.Mirrors p u (p.run es) (p.run (p.kept u es)) :=
    (Studio.mirrors_empty u).run Studio.ordered_empty Studio.ordered_empty h
  have hshown := hmirrors.shownDocument? (p.ordered_run es) (p.ordered_run (p.kept u es))
  refine ⟨?_, hmirrors.mail⟩
  have hsessions := congrArg (Option.map Document.session) hshown
  rw [Option.map_map, Option.map_map] at hsessions
  exact hsessions

end StudioPlan

/-! ## Scripts with a shade in common -/

/-- Scripts that all know one shade: some give it another value, and the others are stopped by a
fault that tells it. -/
def Engine.shading : Engine (Bool × Nat) Unit where
  runBody := pure ()
  global? _ := pure (some ())
  member? _ _ := pure none
  construct _ := pure ()
  isCallable _ := pure true
  call _ _ _ _ := do
    let (paints, shade) ← get
    if paints then
      set (paints, 7)
      pure ([], .ok ())
    else pure ([], .error (.plain "ValueError" (toString shade)))
  inquire _ _ := throw (.plain "LookupError" "nothing was raised")

/-- The shade after the last draw. -/
def shadeOf (shared : Option (Bool × Nat)) : Nat := (shared.map Prod.snd).getD 0

/-- A studio of such scripts, in which one text gives the shade another value. -/
def StudioPlan.shading : StudioPlan (Bool × Nat) Unit where
  programOf _ source := ⟨⟨[], .ok .drawing⟩, ⟨[], .ok ()⟩, (source.chars = ['P'], 0)⟩
  engine := .shading
  enter last s := (s.1, shadeOf last)
  references := ⟨[]⟩
  loaded _ := ⟨[], []⟩
  delay := 0
  width := 4
  height := 4
  colorMode := "RGBA"
  previewsBlocked := true

/-- A text is opened, compiled and drawn. -/
def drawingRun (key : Nat) (address text : String) : List StudioEvent :=
  [.edit address text, .turn key 0, .turn key 0, .turn key 0, .complete key none, .turn key 0,
    .turn key 0, .complete key none, .turn key 0, .turn key 0]

def Studio.reports? (s : Studio σ ν) (address : String) : Option (List Diagnostic) :=
  (s.shownDocument? address).map (·.session.diagnostics)

/-- The shade is the same after each event of a run. -/
def Studio.keepsShade : Studio (Bool × Nat) Unit → List StudioEvent → Bool
  | _, [] => true
  | s, e :: es => shadeOf (s.step .shading e).shared == shadeOf s.shared &&
    (s.step .shading e).keepsShade es

theorem Studio.spared_of_keepsShade {u : String} {s : Studio (Bool × Nat) Unit}
    {es : List StudioEvent} (h : s.keepsShade es = true) : Spared .shading u s es := by
  induction es generalizing s with
  | nil => trivial
  | cons e es ih =>
    obtain ⟨hshade, hrest⟩ := (Bool.and_eq_true _ _).mp h
    refine ⟨fun _ => ⟨rfl, rfl, funext fun state => ?_⟩, ih hrest⟩
    exact congrArg (Prod.mk state.1) (eq_of_beq hshade).symm

/-- Two documents of which neither paints: the second one fares as if it were alone. -/
theorem kept_telling :
    StudioPlan.shading.Spares "b" (drawingRun 0 "a" "T" ++ drawingRun 1 "b" "T") ∧
      StudioPlan.shading.FaresAlone "b" (drawingRun 0 "a" "T" ++ drawingRun 1 "b" "T") ∧
      (StudioPlan.shading.run (drawingRun 0 "a" "T" ++ drawingRun 1 "b" "T")).reports? "b" =
        some [⟨.error, "0", 0, 0, 1⟩] := by
  have hspares : StudioPlan.shading.Spares "b" (drawingRun 0 "a" "T" ++ drawingRun 1 "b" "T") :=
    Studio.spared_of_keepsShade (by decide +kernel)
  exact ⟨hspares, StudioPlan.run_kept _ _ _ hspares, by decide +kernel⟩

/-- The shade that one document paints is reported by another. -/
theorem run_not_always_kept :
    ¬ ∀ (p : StudioPlan (Bool × Nat) Unit) (es : List StudioEvent) (u : String),
      p.FaresAlone u es := by
  intro h
  have hbeside : (StudioPlan.shading.run (drawingRun 0 "a" "P" ++ drawingRun 1 "b" "T")).reports? "b" =
      some [⟨.error, "7", 0, 0, 1⟩] := by decide +kernel
  have halone : (StudioPlan.shading.run (StudioPlan.shading.kept "b"
      (drawingRun 0 "a" "P" ++ drawingRun 1 "b" "T"))).reports? "b" =
        some [⟨.error, "0", 0, 0, 1⟩] := by decide +kernel
  have hsame := congrArg (Option.map Session.diagnostics)
    (h .shading (drawingRun 0 "a" "P" ++ drawingRun 1 "b" "T") "b").1
  rw [Option.map_map, Option.map_map] at hsame
  have hreports := halone.symm.trans (hsame.trans hbeside)
  exact absurd hreports (by decide)

end LiveSketch

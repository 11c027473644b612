import LiveSketch.Proofs.Studio.Documents

/-!
# The queues of a studio

A session that has made a step gets entries in the queues for those of its ready turns and jobs that
have none yet (`putBack`), so that a later step, of whatever kind, might have to make up for what an
earlier one forgot. None does: after every run each session has an entry for each of its ready turns
and jobs (`Served`, `served_run`). What is taken from a queue is taken for a step of the session it
was entered for (`served_within`).
-/

namespace LiveSketch

variable {σ ν : Type}

namespace Studio

variable {p : StudioPlan σ ν} {s s' : Studio σ ν}

/-! ## Entries -/

/-- The session has an entry in the queues for each of its ready turns and each of its jobs. -/
def Serves (s : Studio σ ν) (d : Document σ ν) : Prop :=
  d.session.ready.length ≤ s.turns.count d.key ∧ d.session.jobs.length ≤ s.jobs.count d.key

/-- No ready turn and no job of any session is forgotten. -/
def Served (s : Studio σ ν) : Prop := ∀ d ∈ s.documents, s.Serves d

theorem Served.congr (h : s.Served) (hdocuments : s'.documents ⊆ s.documents)
    (hturns : s'.turns = s.turns) (hjobs : s'.jobs = s.jobs) : s'.Served := by
  intro d hd
  unfold Serves
  rw [hturns, hjobs]
  exact h d (hdocuments hd)

/-- Entries that are added for a key make up what is missing there, and change nothing
elsewhere. -/
theorem le_count_append_replicate {queue : List Nat} (key : Nat) (n : Nat) :
    n ≤ (queue ++ List.replicate (n - queue.count key) key).count key := by
  rw [List.count_append, List.count_replicate_self]
  omega

theorem count_append_replicate_of_ne {queue : List Nat} {key key' : Nat} (h : key' ≠ key)
    (n : Nat) : (queue ++ List.replicate n key).count key' = queue.count key' := by
  rw [List.count_append, List.count_replicate, if_neg (by simpa using Ne.symm h), Nat.add_zero]

/-- After a step of the session under a key it is served, if all others were. -/
theorem served_within {key : Nat} (h : ∀ d ∈ s.documents, d.key ≠ key → s.Serves d)
    (f : Workshop σ ν → Session σ ν → Session σ ν) : (s.within p key f).Served := by
  unfold within
  cases hfind : s.document? key with
  | none =>
    intro d hd
    exact h d hd (by simpa using List.find?_eq_none.mp hfind d hd)
  | some d =>
    obtain ⟨-, rfl⟩ := mem_documents_of_document? hfind
    intro d' hd'
    obtain ⟨e, he, rfl⟩ := List.mem_map.mp hd'
    unfold Serves putBack
    dsimp only
    -- the session itself is given what it lacks, and no other loses an entry
    by_cases hkey : e.key = d.key
    · rw [if_pos hkey, hkey]
      exact ⟨le_count_append_replicate _ _, le_count_append_replicate _ _⟩
    · rw [if_neg hkey, count_append_replicate_of_ne hkey, count_append_replicate_of_ne hkey]
      exact h e he hkey

theorem Served.within (h : s.Served) (key : Nat)
    (f : Workshop σ ν → Session σ ν → Session σ ν) : (s.within p key f).Served :=
  served_within (fun d hd _ => h d hd) f

theorem Served.foldl {α : Type} {f : Studio σ ν → α → Studio σ ν}
    (hf : ∀ s a, s.Served → (f s a).Served) (as : List α) (h : s.Served) :
    (as.foldl f s).Served := by
  induction as generalizing s with
  | nil => exact h
  | cons a as ih => exact ih (hf s a h)

theorem Served.pledge (h : s.Served) (key : Nat) (pledge : Pledge) (command : Command) :
    (s.pledge p key pledge command).Served := by
  have hbook : ({ s with pledges := s.pledges ++ [pledge] } : Studio σ ν).Served :=
    h.congr (List.Subset.refl _) rfl rfl
  exact hbook.within key _

theorem Served.tell (h : s.Served) (m : Message) : (s.tell m).Served :=
  h.congr (List.Subset.refl _) rfl rfl

theorem Served.obey (h : s.Served) (name : String) (key : Nat) (order : Order) :
    (s.obey p name key order).Served := by
  cases order with
  | resize address width height => exact h.pledge key _ _
  | recolor address mode =>
    unfold Studio.obey
    dsimp only
    split
    · exact (h.tell _).tell _
    · exact (h.within key _).pledge key _ _
  | redraw address => exact h.pledge key _ _

theorem Served.command (h : s.Served) (name : String) (arguments : List Datum) :
    (s.command p name arguments).Served := by
  unfold Studio.command
  split
  · unfold follow
    split
    · exact h.tell _
    · split
      · exact (h.tell _).tell _
      · exact h.obey _ _ _
  · exact h.tell _
  · exact h

/-- A session that has just been entered has nothing to do. -/
theorem Served.enter (h : s.Served) (address : String) (mode : ColorMode) :
    (s.enter p address mode).Served := by
  intro d hd
  rcases List.mem_append.mp hd with hd | hd
  · exact h d hd
  · obtain rfl := List.mem_singleton.mp hd
    exact ⟨Nat.zero_le _, Nat.zero_le _⟩

theorem Served.edit (h : s.Served) (address text : String) :
    (s.step p (.edit address text)).Served := by
  have hmoved : ∀ {s' : Studio σ ν}, s'.Served → ∀ key,
      ((s'.moveLast key).within p key fun w session => session.step w (.edit text)).Served :=
    fun {s'} h' key => Served.within (h'.congr (s'.perm_moveLast key).subset rfl rfl) key _
  rcases opened_cases (p := p) s address with
    ⟨-, -, _, hrefused⟩ | ⟨d, -, hopened⟩ | ⟨mode, -, -, hopened⟩
  · rwa [step_edit_of_refused hrefused]
  · rw [step_edit_of_opened hopened]
    exact hmoved h _
  · rw [step_edit_of_opened hopened]
    exact hmoved (h.enter address mode) _

theorem Served.close (h : s.Served) (address : String) : (s.close p address).Served := by
  unfold Studio.close
  cases s.shownDocument? address with
  | none => exact h.tell _
  | some d =>
    have hclosed : (s.within p d.key fun _ session => session.close).Served := h.within _ _
    refine Served.congr hclosed ?_ ?_ ?_
    · exact List.Subset.refl _
    · rfl
    · rfl

theorem Served.step (h : s.Served) (e : StudioEvent) : (s.step p e).Served := by
  cases e with
  | edit address text => exact h.edit address text
  | close address => exact h.close address
  | shutdown =>
    have hclosed : (s.closeEach p s.shown).Served :=
      Served.foldl (fun _ _ h => h.within _ _) s.shown h
    exact hclosed.congr (List.Subset.refl _) rfl rfl
  | command name arguments => exact h.command name arguments
  | greet => exact h.tell _
  | pass span =>
    exact Served.congr (Served.foldl (fun _ _ h => h.within _ _) _ h) (List.Subset.refl _) rfl rfl
  | turn key place =>
    refine served_within (fun d hd hkey => ?_) _
    unfold Serves
    rw [List.count_erase_of_ne hkey]
    exact h d hd
  | complete key foundAt =>
    refine served_within (fun d hd hkey => ?_) _
    unfold Serves
    rw [List.count_erase_of_ne hkey]
    exact h d hd

theorem served_run (h : s.Served) (es : List StudioEvent) : (s.run p es).Served := by
  induction es generalizing s with
  | nil => exact h
  | cons e es ih => exact ih (h.step e)

end Studio

theorem StudioPlan.served_run (p : StudioPlan σ ν) (es : List StudioEvent) : (p.run es).Served :=
  Studio.served_run (fun _ hd => absurd hd List.not_mem_nil) es

end LiveSketch

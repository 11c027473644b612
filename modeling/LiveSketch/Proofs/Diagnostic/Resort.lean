import LiveSketch.Proofs.Diagnostic.Order

/-!
# Diagnostics that are sorted again

A result is sorted when its text is compiled, and again with the faults of every picture drawn of
it. This comes to one sort of everything:

1. a list in reading order is known from how the diagnostics of each key stand in it
   (`eq_of_filter_key_eq`), so there is one stable sort of a list (`stableSort_iff`);
2. a part that is sorted first keeps what stands in it of each key, so the whole is sorted alike
   (`sortDiagnostics_sortDiagnostics_append`);
3. the faults of a picture have the key of an error at the start of the text, which divides the
   others into those before and those behind them (`sortDiagnostics_append_faults`).
-/

namespace LiveSketch

/-! ## The stable sort -/

/-- The second list is the first one in the order of severities and starts, and where these are the
same in the order of the first one. -/
structure StableSort (ds sorted : List Diagnostic) : Prop where
  perm : sorted.Perm ds
  ordered : sorted.Pairwise fun d e => d.severity.rank < e.severity.rank ∨
    (d.severity.rank = e.severity.rank ∧ d.start ≤ e.start)
  stable : ∀ k, sorted.filter (·.key = k) = ds.filter (·.key = k)

theorem Diagnostic.key_eq_of_precedes {d e : Diagnostic} (hde : d.precedes e = true)
    (hed : e.precedes d = true) : d.key = e.key := by
  rw [precedes_iff] at hde hed
  unfold key
  rw [Prod.mk.injEq]
  omega

theorem mem_iff_of_filter_key_eq {l l' : List Diagnostic}
    (h : ∀ k, l.filter (·.key = k) = l'.filter (·.key = k)) (d : Diagnostic) : d ∈ l ↔ d ∈ l' := by
  have hd : (d ∈ l.filter (·.key = d.key)) = (d ∈ l'.filter (·.key = d.key)) :=
    congrArg (d ∈ ·) (h d.key)
  simpa using hd

/-- Without a first element of one key, the rests stand alike if the wholes do. -/
theorem filter_key_eq_of_cons {d e : Diagnostic} {l l' : List Diagnostic} (hkey : d.key = e.key)
    (h : ∀ k, (d :: l).filter (·.key = k) = (e :: l').filter (·.key = k)) :
    d = e ∧ ∀ k, l.filter (·.key = k) = l'.filter (·.key = k) := by
  have hown := h d.key
  rw [List.filter_cons_of_pos (by simp), List.filter_cons_of_pos (by simp [hkey])] at hown
  refine ⟨(List.cons.inj hown).1, fun k => ?_⟩
  have hk := h k
  by_cases hd : d.key = k
  · rw [← hd]
    exact (List.cons.inj hown).2
  · rwa [List.filter_cons_of_neg (by simpa using hd),
      List.filter_cons_of_neg (by simpa [← hkey] using hd)] at hk

/-- A list in reading order is known from how the diagnostics of each key stand in it. -/
theorem eq_of_filter_key_eq {l l' : List Diagnostic}
    (h : l.Pairwise fun d e => d.precedes e = true)
    (h' : l'.Pairwise fun d e => d.precedes e = true)
    (hkeys : ∀ k, l.filter (·.key = k) = l'.filter (·.key = k)) : l = l' := by
  have hmem := mem_iff_of_filter_key_eq hkeys
  induction l generalizing l' with
  | nil => exact (List.eq_nil_iff_forall_not_mem.mpr fun d hd => nomatch (hmem d).mpr hd).symm
  | cons d l ih =>
    cases l' with
    | nil => exact nomatch (hmem d).mp List.mem_cons_self
    | cons e l' =>
      obtain ⟨hfirst, hrest⟩ := List.pairwise_cons.mp h
      obtain ⟨hfirst', hrest'⟩ := List.pairwise_cons.mp h'
      -- each of the first ones stands somewhere in the other list, so they have one key
      have hde : d.precedes e = true := by
        rcases List.mem_cons.mp ((hmem e).mpr List.mem_cons_self) with rfl | he
        · exact Diagnostic.precedes_of_key_eq rfl
        · exact hfirst e he
      have hed : e.precedes d = true := by
        rcases List.mem_cons.mp ((hmem d).mp List.mem_cons_self) with rfl | hd
        · exact Diagnostic.precedes_of_key_eq rfl
        · exact hfirst' d hd
      obtain ⟨rfl, hkeys'⟩ :=
        filter_key_eq_of_cons (Diagnostic.key_eq_of_precedes hde hed) hkeys
      rw [ih hrest hrest' hkeys' (mem_iff_of_filter_key_eq hkeys')]

theorem stableSort_sortDiagnostics (ds : List Diagnostic) : StableSort ds (sortDiagnostics ds) where
  perm := sortDiagnostics_perm ds
  ordered := (sortDiagnostics_pairwise ds).imp Diagnostic.precedes_iff.mp
  stable k := filter_key_sortDiagnostics k ds

theorem stableSort_iff {ds sorted : List Diagnostic} :
    StableSort ds sorted ↔ sorted = sortDiagnostics ds := by
  constructor
  · intro h
    refine eq_of_filter_key_eq (h.ordered.imp Diagnostic.precedes_iff.mpr)
      (sortDiagnostics_pairwise ds) fun k => ?_
    rw [h.stable, filter_key_sortDiagnostics]
  · rintro rfl
    exact stableSort_sortDiagnostics ds

/-- Sorting the first part of a list first makes no difference. -/
theorem sortDiagnostics_sortDiagnostics_append (ds more : List Diagnostic) :
    sortDiagnostics (sortDiagnostics ds ++ more) = sortDiagnostics (ds ++ more) := by
  refine eq_of_filter_key_eq (sortDiagnostics_pairwise _) (sortDiagnostics_pairwise _) fun k => ?_
  rw [filter_key_sortDiagnostics, filter_key_sortDiagnostics, List.filter_append,
    List.filter_append, filter_key_sortDiagnostics]

/-! ## Faults of a picture -/

/-- An error at the start of the text, or one that would stand before it. -/
def Diagnostic.isAtStart (d : Diagnostic) : Bool := d.isError && decide (d.start ≤ 0)

/-- The faults of a picture with the lines to blame. -/
def faultsOf (faults : List (String × Int)) : List Diagnostic :=
  faults.map fun f => .fault f.1 f.2

theorem Diagnostic.isAtStart_iff {d : Diagnostic} :
    d.isAtStart = true ↔ d.severity.rank = 0 ∧ d.start ≤ 0 := by
  have hrank : d.isError = true ↔ d.severity.rank = 0 := by
    unfold isError
    cases d.severity <;> simp [Severity.rank]
  unfold isAtStart
  rw [Bool.and_eq_true, hrank, decide_eq_true_eq]

theorem key_of_mem_faultsOf {faults : List (String × Int)} {d : Diagnostic}
    (h : d ∈ faultsOf faults) : d.key = (0, 0) := by
  obtain ⟨f, -, rfl⟩ := List.mem_map.mp h
  rfl

/-- Errors at the start come first, then the faults as they stand, then all others. -/
theorem pairwise_around_faults {ds : List Diagnostic}
    (h : ds.Pairwise fun d e => d.precedes e = true) (faults : List (String × Int)) :
    (ds.filter Diagnostic.isAtStart ++ faultsOf faults ++
      ds.filter fun d => !d.isAtStart).Pairwise fun d e => d.precedes e = true := by
  have hbefore : ∀ d ∈ ds.filter Diagnostic.isAtStart, d.severity.rank = 0 ∧ d.start ≤ 0 :=
    fun d hd => Diagnostic.isAtStart_iff.mp (List.mem_filter.mp hd).2
  have hat : ∀ d ∈ faultsOf faults, d.severity.rank = 0 ∧ d.start = 0 :=
    fun d hd => Prod.mk.inj (key_of_mem_faultsOf hd)
  have hbehind : ∀ d ∈ ds.filter fun d => !d.isAtStart, 0 < d.severity.rank ∨ 0 < d.start := by
    intro d hd
    have hnot : ¬ (d.severity.rank = 0 ∧ d.start ≤ 0) := by
      rw [← Diagnostic.isAtStart_iff]
      simpa using (List.mem_filter.mp hd).2
    omega
  rw [List.pairwise_append, List.pairwise_append]
  refine ⟨⟨h.filter _, ?_, fun d hd e he => ?_⟩, h.filter _, fun d hd e he => ?_⟩
  · refine List.Pairwise.imp_of_mem (R := fun _ _ => True) (fun hd he _ => ?_)
      (List.pairwise_of_forall fun _ _ => trivial)
    exact Diagnostic.precedes_of_key_eq
      ((key_of_mem_faultsOf hd).trans (key_of_mem_faultsOf he).symm)
  · have hd := hbefore d hd
    have he := hat e he
    rw [Diagnostic.precedes_iff]
    omega
  · have hd : d.severity.rank = 0 ∧ d.start ≤ 0 := by
      rcases List.mem_append.mp hd with hd | hd
      · exact hbefore d hd
      · exact (hat d hd).imp_right Int.le_of_eq
    have he := hbehind e he
    rw [Diagnostic.precedes_iff]
    omega

/-- The diagnostics of one key all satisfy a condition, or none does, as their key does. -/
theorem filter_key_filter {p : Diagnostic → Bool} {k : Nat × Int} {held : Bool}
    (hp : ∀ d, d.key = k → p d = held) (ds : List Diagnostic) :
    (ds.filter p).filter (·.key = k) = if held then ds.filter (·.key = k) else [] := by
  have hfilter : (ds.filter p).filter (·.key = k) =
      ds.filter fun d => decide (d.key = k) && held := by
    rw [List.filter_filter]
    refine List.filter_congr fun d _ => ?_
    by_cases hd : d.key = k
    · rw [hp d hd]
    · simp [hd]
  rw [hfilter]
  cases held <;> simp

/-- Faults added to sorted diagnostics come behind the errors at the start and before all others. -/
theorem sortDiagnostics_append_faults {ds : List Diagnostic}
    (h : ds.Pairwise fun d e => d.precedes e = true) (faults : List (String × Int)) :
    sortDiagnostics (ds ++ faultsOf faults) =
      ds.filter Diagnostic.isAtStart ++ faultsOf faults ++ ds.filter fun d => !d.isAtStart := by
  refine eq_of_filter_key_eq (sortDiagnostics_pairwise _) (pairwise_around_faults h faults)
    fun k => ?_
  rw [filter_key_sortDiagnostics, List.filter_append, List.filter_append, List.filter_append]
  by_cases hk : k.1 = 0 ∧ k.2 ≤ 0
  · have hat : ∀ d : Diagnostic, d.key = k → d.isAtStart = true := by
      rintro d rfl
      exact Diagnostic.isAtStart_iff.mpr hk
    have hothers : ∀ d : Diagnostic, d.key = k → (!d.isAtStart) = false := by
      intro d hd
      rw [hat d hd]
      rfl
    rw [filter_key_filter hat, filter_key_filter hothers]
    exact (List.append_nil _).symm
  · have hothers : ∀ d : Diagnostic, d.key = k → d.isAtStart = false := by
      rintro d rfl
      rw [← Bool.not_eq_true, Diagnostic.isAtStart_iff]
      exact hk
    have hbehind : ∀ d : Diagnostic, d.key = k → (!d.isAtStart) = true := by
      intro d hd
      rw [hothers d hd]
      rfl
    have hnone : (faultsOf faults).filter (·.key = k) = [] := by
      refine List.filter_eq_nil_iff.mpr fun d hd hkey => hk ?_
      rw [← of_decide_eq_true hkey, key_of_mem_faultsOf hd]
      exact ⟨rfl, Int.le_refl 0⟩
    rw [filter_key_filter hothers, filter_key_filter hbehind, hnone]
    exact List.append_nil _

/-! ## Both sorts as one -/

/-- **Sorting again is sorting once.** Sorting gives the stable sort of a list and nothing else, and
a sorted list stays as it is. A list whose first part was sorted before is sorted like the whole.
So the faults of a picture, added to a sorted result, give the stable sort of everything, in which
they stand behind the errors at the start of the text and before all other diagnostics. -/
theorem sorted_again :
    (∀ ds sorted, StableSort ds sorted ↔ sorted = sortDiagnostics ds) ∧
      (∀ ds, sortDiagnostics (sortDiagnostics ds) = sortDiagnostics ds) ∧
      (∀ ds more, sortDiagnostics (sortDiagnostics ds ++ more) = sortDiagnostics (ds ++ more)) ∧
      ∀ ds faults,
        StableSort (ds ++ faultsOf faults)
          (sortDiagnostics (sortDiagnostics ds ++ faultsOf faults)) ∧
        sortDiagnostics (sortDiagnostics ds ++ faultsOf faults) =
          (sortDiagnostics ds).filter Diagnostic.isAtStart ++ faultsOf faults ++
            (sortDiagnostics ds).filter fun d => !d.isAtStart := by
  refine ⟨fun _ _ => stableSort_iff, sortDiagnostics_idem, sortDiagnostics_sortDiagnostics_append,
    fun ds faults => ⟨?_, sortDiagnostics_append_faults (sortDiagnostics_pairwise ds) faults⟩⟩
  rw [sortDiagnostics_sortDiagnostics_append]
  exact stableSort_sortDiagnostics _

end LiveSketch

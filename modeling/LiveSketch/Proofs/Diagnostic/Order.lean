import LiveSketch.Diagnostic.Basic

/-!
# The reading order of diagnostics

`Diagnostic.precedes` compares the ranks of two severities and then the starts, so it is transitive
and total, and `sortDiagnostics` rearranges its list into that order. What compares equal has the
same key, and diagnostics with the same key keep their order (`filter_key_sortDiagnostics`).
-/

namespace LiveSketch

theorem Diagnostic.precedes_iff {a b : Diagnostic} :
    a.precedes b = true ↔ a.severity.rank < b.severity.rank ∨
      (a.severity.rank = b.severity.rank ∧ a.start ≤ b.start) := by
  simp [precedes]

theorem Diagnostic.precedes_trans (a b c : Diagnostic) (hab : a.precedes b = true)
    (hbc : b.precedes c = true) : a.precedes c = true := by
  rw [precedes_iff] at *
  omega

theorem Diagnostic.precedes_total (a b : Diagnostic) : (a.precedes b || b.precedes a) = true := by
  rw [Bool.or_eq_true, precedes_iff, precedes_iff]
  omega

theorem sortDiagnostics_perm (ds : List Diagnostic) : (sortDiagnostics ds).Perm ds :=
  List.mergeSort_perm ds Diagnostic.precedes

theorem sortDiagnostics_pairwise (ds : List Diagnostic) :
    (sortDiagnostics ds).Pairwise fun a b => a.precedes b = true :=
  List.pairwise_mergeSort Diagnostic.precedes_trans Diagnostic.precedes_total ds

@[simp]
theorem sortDiagnostics_idem (ds : List Diagnostic) :
    sortDiagnostics (sortDiagnostics ds) = sortDiagnostics ds :=
  List.mergeSort_of_pairwise (sortDiagnostics_pairwise ds)

theorem sortDiagnostics_nil : sortDiagnostics [] = [] := List.mergeSort_nil

/-- The first diagnostic of a row goes in front of all that it precedes. -/
theorem sortDiagnostics_cons (d : Diagnostic) (ds : List Diagnostic) :
    sortDiagnostics (d :: ds) = (sortDiagnostics ds).takeWhile (!d.precedes ·) ++
      d :: (sortDiagnostics ds).dropWhile (!d.precedes ·) := by
  obtain ⟨front, rest, hcons, hsorted, hfront⟩ :=
    List.mergeSort_cons Diagnostic.precedes_trans Diagnostic.precedes_total d ds
  have hpairwise := sortDiagnostics_pairwise (d :: ds)
  unfold sortDiagnostics at hpairwise ⊢
  rw [hcons] at hpairwise ⊢
  rw [hsorted, List.takeWhile_append_of_pos hfront, List.dropWhile_append_of_pos hfront]
  cases rest with
  | nil => rw [List.takeWhile_nil, List.dropWhile_nil, List.append_nil]
  | cons x rest =>
    have hbefore : ¬ (!d.precedes x) = true := by
      rw [List.rel_of_pairwise_cons (List.pairwise_append.mp hpairwise).2.1 List.mem_cons_self]
      nofun
    rw [List.takeWhile_cons_of_neg (p := (!d.precedes ·)) hbefore,
      List.dropWhile_cons_of_neg (p := (!d.precedes ·)) hbefore, List.append_nil]

/-! ## Stability -/

/-- What a diagnostic is sorted by: how bad it is, then where it starts. -/
def Diagnostic.key (d : Diagnostic) : Nat × Int := (d.severity.rank, d.start)

theorem Diagnostic.precedes_of_key_eq {a b : Diagnostic} (h : a.key = b.key) :
    a.precedes b = true := by
  obtain ⟨hrank, hstart⟩ := Prod.mk.inj h
  exact precedes_iff.mpr (.inr ⟨hrank, Int.le_of_eq hstart⟩)

theorem filter_key_sortDiagnostics (k : Nat × Int) (ds : List Diagnostic) :
    (sortDiagnostics ds).filter (·.key = k) = ds.filter (·.key = k) := by
  have hsame : (ds.filter (·.key = k)).Pairwise fun a b => a.precedes b = true := by
    rw [List.pairwise_filter]
    refine List.pairwise_of_forall fun a b => ?_
    intro ha hb
    exact Diagnostic.precedes_of_key_eq ((of_decide_eq_true ha).trans (of_decide_eq_true hb).symm)
  have hsorted : (ds.filter (·.key = k)).Sublist (sortDiagnostics ds) :=
    List.sublist_mergeSort Diagnostic.precedes_trans Diagnostic.precedes_total hsame
      List.filter_sublist
  have hkept : (ds.filter (·.key = k)).Sublist ((sortDiagnostics ds).filter (·.key = k)) := by
    simpa using hsorted.filter fun d => decide (d.key = k)
  exact (hkept.eq_of_length ((sortDiagnostics_perm ds).filter _).length_eq.symm).symm

/-! ## Errors -/

@[simp]
theorem any_isError_sortDiagnostics (ds : List Diagnostic) :
    (sortDiagnostics ds).any Diagnostic.isError = ds.any Diagnostic.isError := by
  rw [Bool.eq_iff_iff, List.any_eq_true, List.any_eq_true]
  simp only [(sortDiagnostics_perm ds).mem_iff]

end LiveSketch

import LiveSketch.Proofs.Reference.Allowed

/-!
# Extending the allow-list

An allow-list only grows at its end, and so do the references that are found for it:

1. a name is added exactly if the list has it in no case (`allow_of_allows`, `allow_of_not_allows`),
   so names that it has all leave it as it is (`allowAll_eq_self_iff`);
2. a module is taken exactly if none of its name was taken (`names_takeModule`), so the references
   have names of their own (`nodup_names_references`);
3. what is added later comes behind (`prefix_resolverList`, `prefix_references`).
-/

namespace LiveSketch

/-- What only grows at its end in each step grows at its end. -/
theorem prefix_foldl {α β : Type} {f : List α → β → List α} (hf : ∀ l b, l <+: f l b)
    (bs : List β) (l : List α) : l <+: bs.foldl f l := by
  induction bs generalizing l with
  | nil => exact List.prefix_rfl
  | cons b bs ih => exact (hf l b).trans (ih (f l b))

/-! ## The list -/

section List

variable {list names : List String} {name : String}

theorem any_lowerCase_iff :
    (list.any fun known => lowerCase known == lowerCase name) = true ↔ Allows list name := by
  unfold Allows
  simp only [List.any_eq_true, beq_iff_eq]

theorem allow_of_allows (h : Allows list name) : allow list name = list :=
  if_pos (any_lowerCase_iff.mpr h)

theorem allow_of_not_allows (h : ¬ Allows list name) : allow list name = list ++ [name] :=
  if_neg (mt any_lowerCase_iff.mp h)

theorem prefix_allow (list : List String) (name : String) : list <+: allow list name := by
  by_cases h : Allows list name
  · exact ⟨[], (List.append_nil _).trans (allow_of_allows h).symm⟩
  · rw [allow_of_not_allows h]
    exact List.prefix_append _ _

theorem prefix_allowAll (list names : List String) : list <+: allowAll list names :=
  prefix_foldl prefix_allow names list

/-- Extending twice is extending once by all names. -/
theorem allowAll_allowAll (list names more : List String) :
    allowAll (allowAll list names) more = allowAll list (names ++ more) :=
  List.foldl_append.symm

/-- Names add nothing exactly if the list has each of them in some case. -/
theorem allowAll_eq_self_iff : allowAll list names = list ↔ ∀ name ∈ names, Allows list name := by
  constructor
  · intro h name hname
    rw [← h]
    exact allows_allowAll.mpr (.inr ⟨name, hname, rfl⟩)
  · intro h
    induction names with
    | nil => rfl
    | cons name names ih =>
      show allowAll (allow list name) names = list
      rw [allow_of_allows (h name List.mem_cons_self)]
      exact ih fun name' hname' => h name' (List.mem_cons_of_mem _ hname')

end List

theorem prefix_resolverList (names : List String) (extensions more : List (List String)) :
    resolverList names extensions <+: resolverList names (extensions ++ more) := by
  unfold resolverList
  rw [List.foldl_append]
  exact prefix_foldl prefix_allowAll more _

/-! ## The references -/

section Found

variable {t : LoadedTable} {list list' : List String}

theorem names_takeModule (taken : List Module) (m : Module) :
    (takeModule taken m).map Module.name = if m.name ∈ taken.map Module.name
      then taken.map Module.name else taken.map Module.name ++ [m.name] := by
  unfold takeModule
  have hknown : taken.any (·.name == m.name) = true ↔ m.name ∈ taken.map Module.name := by
    simp [List.any_eq_true]
  by_cases h : m.name ∈ taken.map Module.name
  · rw [if_pos (hknown.mpr h), if_pos h]
  · rw [if_neg (mt hknown.mp h), if_neg h, List.map_append]
    rfl

theorem nodup_names_takeModule {taken : List Module} (h : (taken.map Module.name).Nodup)
    (m : Module) : ((takeModule taken m).map Module.name).Nodup := by
  rw [names_takeModule]
  split
  · exact h
  · rename_i hnew
    rw [List.nodup_append]
    refine ⟨h, List.pairwise_singleton _ _, ?_⟩
    rintro name hname _ hlast rfl
    rw [List.mem_singleton.mp hlast] at hname
    exact hnew hname

theorem prefix_takeModule (taken : List Module) (m : Module) : taken <+: takeModule taken m := by
  unfold takeModule
  split
  · exact List.prefix_rfl
  · exact List.prefix_append _ _

theorem nodup_names_references (list : List String) (t : LoadedTable) :
    (references list t).names.Nodup := by
  have hfold : ∀ ms taken : List Module, (taken.map Module.name).Nodup →
      ((ms.foldl takeModule taken).map Module.name).Nodup := by
    intro ms
    induction ms with
    | nil => exact fun _ h => h
    | cons m ms ih => exact fun taken h => ih _ (nodup_names_takeModule h m)
  exact hfold _ _ List.nodup_nil

/-- The references for a longer list begin with those for the shorter one. -/
theorem prefix_references (h : list <+: list') :
    (references list t).names <+: (references list' t).names := by
  obtain ⟨more, rfl⟩ := h
  unfold references References.names
  rw [List.filterMap_append, List.foldl_append]
  exact (prefix_foldl prefix_takeModule _ _).map Module.name

end Found

end LiveSketch

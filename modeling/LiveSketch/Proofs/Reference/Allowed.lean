import LiveSketch.Reference.Resolver

/-!
# Which names are references

Three names are in play: the one on the allow-list, the key under which a module is loaded, and the
module's own name. A reference is looked for by the first two and known by the third:

1. of the modules whose keys are alike but for case only the first leads to a reference
   (`LoadedTable.Leads`), and an allow-list finds it by its key in whatever case
   (`moduleNamed?_eq_some_iff`);
2. what an allow-list leaves out as a repetition it has in another case (`allows_resolverList`);
3. dropping repeated modules loses no name (`contains_references_iff`).

So the references are the allowed part of what is loaded, whatever is allowed, exactly if each key
of a module leads, and leads to a module of that name.
-/

namespace LiveSketch

/-! ## The allow-list -/

/-- A row of names has the name in some case. -/
def Allows (names : List String) (name : String) : Prop :=
  ∃ entry ∈ names, lowerCase entry = lowerCase name

theorem Allows.of_lowerCase_eq {names : List String} {name name' : String} (h : Allows names name)
    (hlower : lowerCase name = lowerCase name') : Allows names name' := by
  obtain ⟨entry, hmem, hentry⟩ := h
  exact ⟨entry, hmem, hentry.trans hlower⟩

theorem allows_append {names names' : List String} {name : String} :
    Allows (names ++ names') name ↔ Allows names name ∨ Allows names' name := by
  unfold Allows
  simp only [List.mem_append, or_and_right, exists_or]

theorem allows_cons {entry : String} {names : List String} {name : String} :
    Allows (entry :: names) name ↔ lowerCase entry = lowerCase name ∨ Allows names name := by
  unfold Allows
  simp only [List.mem_cons, or_and_right, exists_or, exists_eq_left]

theorem allows_singleton {entry name : String} :
    Allows [entry] name ↔ lowerCase entry = lowerCase name := by
  unfold Allows
  simp only [List.mem_singleton, exists_eq_left]

theorem not_allows_nil (name : String) : ¬ Allows [] name := fun ⟨_, hmem, _⟩ =>
  List.not_mem_nil hmem

theorem allows_allow {list : List String} {entry name : String} :
    Allows (allow list entry) name ↔ Allows list name ∨ lowerCase entry = lowerCase name := by
  unfold allow
  split
  · rename_i hknown
    obtain ⟨known, hmem, hsame⟩ := List.any_eq_true.mp hknown
    have hold : Allows list entry := ⟨known, hmem, eq_of_beq hsame⟩
    exact ⟨.inl, fun h => h.elim id fun hentry => hold.of_lowerCase_eq hentry⟩
  · rw [allows_append, allows_cons]
    simp only [not_allows_nil, or_false]

theorem allows_allowAll {list names : List String} {name : String} :
    Allows (allowAll list names) name ↔ Allows list name ∨ Allows names name := by
  unfold allowAll
  induction names generalizing list with
  | nil => simp only [List.foldl_nil, not_allows_nil, or_false]
  | cons entry names ih => rw [List.foldl_cons, ih, allows_allow, allows_cons, or_assoc]

/-- The allow-list of a resolver that was made with some names and then extended, any number of
times. -/
def resolverList (names : List String) (extensions : List (List String)) : List String :=
  extensions.foldl allowAll (allowAll [] names)

theorem allows_resolverList {names : List String} {extensions : List (List String)}
    {name : String} :
    Allows (resolverList names extensions) name ↔ Allows (names ++ extensions.flatten) name := by
  have hfold : ∀ list : List String, Allows (extensions.foldl allowAll list) name ↔
      Allows list name ∨ Allows extensions.flatten name := by
    induction extensions with
    | nil => simp [not_allows_nil]
    | cons extension extensions ih =>
      intro list
      rw [List.foldl_cons, ih, allows_allowAll, List.flatten_cons, allows_append, or_assoc]
  unfold resolverList
  rw [hfold, allows_allowAll, allows_append]
  simp only [not_allows_nil, false_or]

/-! ## The loaded modules -/

namespace LoadedTable

variable {t : LoadedTable} {key name : String} {m : Module}

/-- The module stands under the key. -/
def Loads (t : LoadedTable) (key : String) (m : Module) : Prop := (key, some m) ∈ t

/-- The module stands under the key, and none in front of it under a key alike but for case. -/
def Leads (t : LoadedTable) (key : String) (m : Module) : Prop :=
  ∃ before after, t = before ++ (key, some m) :: after ∧
    ∀ e ∈ before, e.2.isSome = true → lowerCase e.1 ≠ lowerCase key

theorem Leads.loads (h : t.Leads key m) : t.Loads key m := by
  obtain ⟨before, after, rfl, -⟩ := h
  exact List.mem_append_right _ List.mem_cons_self

/-- A name finds the module that leads under a key alike. -/
theorem moduleNamed?_eq_some_iff :
    t.moduleNamed? name = some m ↔ ∃ key, t.Leads key m ∧ lowerCase key = lowerCase name := by
  unfold moduleNamed? Leads
  rw [List.findSome?_eq_some_iff]
  constructor
  · rintro ⟨before, ⟨key, value⟩, after, ht, hfound, hbefore⟩
    split at hfound
    · rename_i hkey
      dsimp only at hfound
      subst hfound
      have hkey : lowerCase key = lowerCase name := eq_of_beq hkey
      refine ⟨key, ⟨before, after, ht, fun e he hsome hsame => ?_⟩, hkey⟩
      have hnone := hbefore e he
      rw [if_pos (beq_iff_eq.mpr (hsame.trans hkey))] at hnone
      rw [hnone] at hsome
      cases hsome
    · cases hfound
  · rintro ⟨key, ⟨before, after, ht, hbefore⟩, hkey⟩
    refine ⟨before, (key, some m), after, ht, if_pos (beq_iff_eq.mpr hkey), fun e he => ?_⟩
    split
    · rename_i hsame
      cases hvalue : e.2 with
      | none => rfl
      | some m' =>
        exact absurd ((eq_of_beq hsame).trans hkey.symm) (hbefore e he (by rw [hvalue]; rfl))
    · rfl

theorem Leads.unique {key' : String} {m' : Module} (h : t.Leads key m) (h' : t.Leads key' m')
    (hlower : lowerCase key = lowerCase key') : m = m' := by
  have hfound : t.moduleNamed? key' = some m := moduleNamed?_eq_some_iff.mpr ⟨key, h, hlower⟩
  have hfound' : t.moduleNamed? key' = some m' := moduleNamed?_eq_some_iff.mpr ⟨key', h', rfl⟩
  exact Option.some.inj (hfound.symm.trans hfound')

/-- Every key of a module leads, to a module of that name. -/
def WellNamed (t : LoadedTable) : Prop :=
  ∀ key m, t.Loads key m → ∃ m', t.Leads key m' ∧ m'.name = key

end LoadedTable

/-! ## The references -/

theorem any_takeModule (ms taken : List Module) (name : String) :
    (ms.foldl takeModule taken).any (·.name == name) =
      (taken.any (·.name == name) || ms.any (·.name == name)) := by
  induction ms generalizing taken with
  | nil => simp
  | cons m ms ih =>
    have hstep : (takeModule taken m).any (·.name == name) =
        (taken.any (·.name == name) || m.name == name) := by
      unfold takeModule
      split
      · rename_i hknown
        by_cases hname : m.name = name
        · subst hname
          simp [hknown]
        · simp [beq_eq_false_iff_ne.mpr hname]
      · simp
    rw [List.foldl_cons, ih, hstep, List.any_cons, Bool.or_assoc]

/-- A reference is a module that leads under an allowed key, known by its own name. -/
theorem contains_references_iff {allowed : List String} {t : LoadedTable} {name : String} :
    (references allowed t).contains name = true ↔
      ∃ key m, t.Leads key m ∧ Allows allowed key ∧ m.name = name := by
  unfold references References.contains
  rw [any_takeModule, List.any_nil, Bool.false_or, List.any_eq_true]
  constructor
  · rintro ⟨m, hm, hname⟩
    obtain ⟨entry, hentry, hfound⟩ := List.mem_filterMap.mp hm
    obtain ⟨key, hleads, hlower⟩ := LoadedTable.moduleNamed?_eq_some_iff.mp hfound
    exact ⟨key, m, hleads, ⟨entry, hentry, hlower.symm⟩, eq_of_beq hname⟩
  · rintro ⟨key, m, hleads, ⟨entry, hentry, hlower⟩, hname⟩
    refine ⟨m, List.mem_filterMap.mpr ⟨entry, hentry, ?_⟩, beq_iff_eq.mpr hname⟩
    exact LoadedTable.moduleNamed?_eq_some_iff.mpr ⟨key, hleads, hlower.symm⟩

/-- The references are the allowed part of what is loaded: the allowed keys under which modules
stand. -/
def References.IsAllowedPart (r : References) (names : List String) (t : LoadedTable) : Prop :=
  ∀ name, r.contains name = true ↔ (∃ m, t.Loads name m) ∧ Allows names name

section Exact

variable {t : LoadedTable} {names : List String} {extensions : List (List String)}

theorem contains_resolved_iff {name : String} :
    (references (resolverList names extensions) t).contains name = true ↔
      ∃ key m, t.Leads key m ∧ Allows (names ++ extensions.flatten) key ∧ m.name = name := by
  rw [contains_references_iff]
  simp only [allows_resolverList]

theorem isAllowedPart_of_wellNamed (h : t.WellNamed) :
    (references (resolverList names extensions) t).IsAllowedPart
      (names ++ extensions.flatten) t := by
  intro name
  rw [contains_resolved_iff]
  constructor
  · rintro ⟨key, m, hleads, hallows, rfl⟩
    obtain ⟨m', hleads', hname⟩ := h key m hleads.loads
    obtain rfl : m = m' := hleads.unique hleads' rfl
    rw [hname]
    exact ⟨⟨m, hleads.loads⟩, hallows⟩
  · rintro ⟨⟨m, hloads⟩, hallows⟩
    obtain ⟨m', hleads, hname⟩ := h name m hloads
    exact ⟨name, m', hleads, hallows, hname⟩

/-- A resolver that was given the key of a module and nothing else tells whether it is well
named. -/
theorem wellNamed_of_isAllowedPart
    (h : ∀ name, (references (resolverList [name] []) t).IsAllowedPart [name] t) : t.WellNamed := by
  intro key m hloads
  have hown : Allows [key] key := ⟨key, List.mem_cons_self, rfl⟩
  obtain ⟨key', m', hleads, hallows, hname⟩ :=
    contains_resolved_iff.mp ((h key key).mpr ⟨⟨m, hloads⟩, hown⟩)
  -- the key that leads is allowed as well, so it is the name of the same module
  obtain ⟨key'', m'', hleads', hallows', hname'⟩ :=
    contains_resolved_iff.mp ((h key key').mpr ⟨⟨m', hleads.loads⟩, hallows⟩)
  have hsame : lowerCase key' = lowerCase key'' :=
    (allows_singleton.mp hallows).symm.trans (allows_singleton.mp hallows')
  obtain rfl : m' = m'' := hleads.unique hleads' hsame
  obtain rfl : key = key' := hname.symm.trans hname'
  exact ⟨m', hleads, hname⟩

end Exact

/-- **The allowed part of what is loaded.** Whatever a resolver was given, its references are known
by the own names of the modules that lead under allowed keys. These are the allowed keys under which
modules stand, whatever is allowed, exactly if each such key leads to a module of its name. -/
theorem isAllowedPart_iff_wellNamed (t : LoadedTable) :
    (∀ names extensions name,
      (references (resolverList names extensions) t).contains name = true ↔
        ∃ key m, t.Leads key m ∧ Allows (names ++ extensions.flatten) key ∧ m.name = name) ∧
    ((∀ names extensions, (references (resolverList names extensions) t).IsAllowedPart
      (names ++ extensions.flatten) t) ↔ t.WellNamed) :=
  ⟨fun _ _ _ => contains_resolved_iff,
    fun h => wellNamed_of_isAllowedPart fun name => h [name] [],
    fun h _ _ => isAllowedPart_of_wellNamed h⟩

/-! ## A module with two names -/

/-- A module that is loaded under another name than its own. -/
def LoadedTable.aliased : LoadedTable := [("os.path", some ⟨"posixpath", "posixpath", []⟩)]

/-- It is no reference under the name by which it was allowed. -/
theorem references_not_always_allowed :
    ¬ ∀ names extensions t, (references (resolverList names extensions) t).IsAllowedPart
      (names ++ extensions.flatten) t := by
  intro h
  have hloads : LoadedTable.aliased.Loads "os.path" ⟨"posixpath", "posixpath", []⟩ :=
    List.mem_cons_self
  have hallows : Allows ["os.path"] "os.path" := ⟨_, List.mem_cons_self, rfl⟩
  have hcontains := (h ["os.path"] [] .aliased "os.path").mpr ⟨⟨_, hloads⟩, hallows⟩
  obtain ⟨key, m, hleads, -, hname⟩ := contains_resolved_iff.mp hcontains
  obtain ⟨-, rfl⟩ : key = "os.path" ∧ m = ⟨"posixpath", "posixpath", []⟩ := by
    simpa [LoadedTable.Loads, LoadedTable.aliased] using hleads.loads
  exact absurd hname (by decide)

end LiveSketch

import LiveSketch.Proofs.Analysis.Findings
import LiveSketch.Proofs.Tree.Path

/-!
# Names that nothing defines

Which constructs bind a name is said once, construct by construct (`Form.Binds`), and a tree binds
what any node of it binds, wherever it stands. Against that the analysis is exact: unless the tree
imports everything some module has, it reports each reading of a name that is neither bound nor
provided, once and in the order of the walk, and reports no other name (`undefined_exact`).
-/

namespace LiveSketch

/-! ## Bindings -/

/-- The construct itself binds the name. An empty name is as good as none. -/
inductive Form.Binds {α : Type} : Form α → String → Prop where
  | stored (id : String) : Binds (.name id .store) id
  | removed (id : String) : Binds (.name id .remove) id
  | functionDef (isAsync : Bool) (name : String) (arguments : α) (body decorators : List α)
    (returns : Option α) (typeParams : List α) :
    Binds (.functionDef isAsync name arguments body decorators returns typeParams) name
  | classDef (name : String) (bases keywords body decorators typeParams : List α) :
    Binds (.classDef name bases keywords body decorators typeParams) name
  | argument (name : String) (declared : Option α) : Binds (.argument name declared) name
  | importedAs (name : String) {own : String} (hown : own ≠ "") :
    Binds (.importedName name (some own)) own
  | imported (name : String) {asName : Option String} (hown : asName = none ∨ asName = some "") :
    Binds (.importedName name asName) (topName name)
  | handler (type : Option α) {name : String} (hname : name ≠ "") (body : List α) :
    Binds (.handler type (some name) body) name
  | globals {names : List String} {name : String} (hname : name ∈ names) :
    Binds (.globals names) name
  | nonlocals {names : List String} {name : String} (hname : name ∈ names) :
    Binds (.nonlocals names) name
  | matchAs (pattern : Option α) {name : String} (hname : name ≠ "") :
    Binds (.matchAs pattern (some name)) name
  | matchStar {name : String} (hname : name ≠ "") : Binds (.matchStar (some name)) name
  | matchMapping (keys patterns : List α) {rest : String} (hrest : rest ≠ "") :
    Binds (.matchMapping keys patterns (some rest)) rest
  | typeVar (name : String) (bound fallback : Option α) : Binds (.typeVar name bound fallback) name
  | paramSpec (name : String) (fallback : Option α) : Binds (.paramSpec name fallback) name
  | typeVarTuple (name : String) (fallback : Option α) : Binds (.typeVarTuple name fallback) name

namespace Node

variable {s : Source} {r : References} {loaded : Loaded} {builtins : List String} {tree n : Node}
  {name : String}

def Binds (tree : Node) (name : String) : Prop :=
  ∃ p n, tree.at? p = some n ∧ n.form.Binds name

/-- Some node of the tree imports everything a module has. -/
def ImportsAll (tree : Node) : Prop :=
  ∃ p n asName, tree.at? p = some n ∧ n.form = .importedName "*" asName

/-- Nothing defines the name in the tree, and the interpreter does not provide it. -/
structure Undefined (builtins : List String) (tree : Node) (name : String) : Prop where
  builtin : name ∉ builtins
  module : name ∉ moduleNames
  free : ¬ tree.Binds name

theorem isStarImport_iff : n.isStarImport = true ↔ ∃ asName, n.form = .importedName "*" asName := by
  unfold isStarImport
  constructor
  · intro h
    split at h
    · rename_i asName hform
      exact ⟨asName, hform⟩
    · cases h
  · rintro ⟨asName, hform⟩
    simp [hform]

theorem hasStarImport_iff : tree.hasStarImport = true ↔ tree.ImportsAll := by
  unfold hasStarImport ImportsAll
  simp only [List.any_eq_true, mem_all, isStarImport_iff]
  constructor
  · rintro ⟨n, ⟨p, hp⟩, asName, hform⟩
    exact ⟨p, n, asName, hp, hform⟩
  · rintro ⟨p, n, asName, hp, hform⟩
    exact ⟨n, ⟨p, hp⟩, asName, hform⟩

theorem mem_ite_isEmpty {other : String} :
    name ∈ (if other.isEmpty then [] else [other]) ↔ name = other ∧ other ≠ "" := by
  by_cases hempty : other = "" <;> simp [hempty]

theorem binds_of_mem_boundNames (h : name ∈ n.boundNames) : n.form.Binds name := by
  obtain ⟨span, form⟩ := n
  unfold boundNames at h
  cases form with
  | name id access =>
    cases access with
    | load => cases h
    | store =>
      obtain rfl := List.mem_singleton.mp h
      exact .stored _
    | remove =>
      obtain rfl := List.mem_singleton.mp h
      exact .removed _
  | functionDef =>
    obtain rfl := List.mem_singleton.mp h
    exact .functionDef _ _ _ _ _ _ _
  | classDef =>
    obtain rfl := List.mem_singleton.mp h
    exact .classDef _ _ _ _ _ _
  | argument =>
    obtain rfl := List.mem_singleton.mp h
    exact .argument _ _
  | importedName imported asName =>
    dsimp only [form] at h
    split at h
    · cases h
    · obtain rfl := List.mem_singleton.mp h
      unfold importedAs
      split
      · split
        · rename_i hempty
          exact .imported imported (.inr (congrArg some (String.isEmpty_iff.mp hempty)))
        · rename_i hown
          exact .importedAs imported (by simpa using hown)
      · exact .imported imported (.inl rfl)
  | handler type caught body =>
    cases caught with
    | none => cases h
    | some caught =>
      obtain ⟨rfl, hname⟩ := mem_ite_isEmpty.mp h
      exact .handler type hname body
  | globals names => exact .globals h
  | nonlocals names => exact .nonlocals h
  | matchAs pattern captured =>
    cases captured with
    | none => cases h
    | some captured =>
      obtain ⟨rfl, hname⟩ := mem_ite_isEmpty.mp h
      exact .matchAs pattern hname
  | matchStar captured =>
    cases captured with
    | none => cases h
    | some captured =>
      obtain ⟨rfl, hname⟩ := mem_ite_isEmpty.mp h
      exact .matchStar hname
  | matchMapping keys patterns rest =>
    cases rest with
    | none => cases h
    | some rest =>
      obtain ⟨rfl, hname⟩ := mem_ite_isEmpty.mp h
      exact .matchMapping keys patterns hname
  | typeVar =>
    obtain rfl := List.mem_singleton.mp h
    exact .typeVar _ _ _
  | paramSpec =>
    obtain rfl := List.mem_singleton.mp h
    exact .paramSpec _ _
  | typeVarTuple =>
    obtain rfl := List.mem_singleton.mp h
    exact .typeVarTuple _ _
  | _ => cases h

theorem mem_boundNames_of_binds (h : n.form.Binds name) (hstar : n.isStarImport = false) :
    name ∈ n.boundNames := by
  obtain ⟨span, form⟩ := n
  have hone : ∀ imported asName, form = .importedName imported asName →
      boundNames (.mk span form) = [importedAs imported asName] := by
    rintro imported asName rfl
    have hname : (imported == "*") = false := by
      rw [beq_eq_false_iff_ne]
      rintro rfl
      cases hstar
    unfold boundNames
    dsimp only [Node.form]
    rw [hname]
    rfl
  dsimp only [Node.form] at h
  cases h with
  | importedAs imported hown =>
    rw [hone _ _ rfl, List.mem_singleton]
    unfold importedAs
    simp [hown]
  | imported imported hown =>
    rw [hone _ _ rfl, List.mem_singleton]
    rcases hown with rfl | rfl <;> rfl
  | handler type hname body => exact mem_ite_isEmpty.mpr ⟨rfl, hname⟩
  | globals hname => exact hname
  | nonlocals hname => exact hname
  | matchAs pattern hname => exact mem_ite_isEmpty.mpr ⟨rfl, hname⟩
  | matchStar hname => exact mem_ite_isEmpty.mpr ⟨rfl, hname⟩
  | matchMapping keys patterns hrest => exact mem_ite_isEmpty.mpr ⟨rfl, hrest⟩
  | _ => exact List.mem_singleton.mpr rfl

theorem mem_bindings (h : tree.hasStarImport = false) : name ∈ tree.bindings ↔ tree.Binds name := by
  unfold bindings Binds
  rw [List.mem_flatMap]
  constructor
  · rintro ⟨n, hn, hname⟩
    obtain ⟨p, hp⟩ := mem_all.mp hn
    exact ⟨p, n, hp, binds_of_mem_boundNames hname⟩
  · rintro ⟨p, n, hp, hname⟩
    have hn : n ∈ tree.all := mem_all.mpr ⟨p, hp⟩
    unfold hasStarImport at h
    exact ⟨n, hn, mem_boundNames_of_binds hname (by simpa using List.any_eq_false.mp h n hn)⟩

/-- A name is known to the analysis unless nothing defines it. -/
theorem contains_known_eq_false (h : tree.hasStarImport = false) :
    (tree.bindings ++ builtins ++ moduleNames).contains name = false ↔
      tree.Undefined builtins name := by
  rw [← Bool.not_eq_true, List.contains_iff_mem, List.mem_append, List.mem_append, mem_bindings h]
  constructor
  · intro hnot
    exact ⟨fun hb => hnot (.inl (.inr hb)), fun hm => hnot (.inr hm),
      fun hb => hnot (.inl (.inl hb))⟩
  · rintro hu ((hb | hb) | hm)
    · exact hu.free hb
    · exact hu.builtin hb
    · exact hu.module hm

end Node

/-! ## Readings -/

/-- A name that is read: the path to the node, the span of the node, and the name. -/
structure Reading where
  path : Path
  span : Span
  name : String

/-- What the analysis reports of the reading of a name that nothing defines. -/
def Reading.finding (s : Source) (x : Reading) : Finding :=
  findingAt s x.span "E0602" .error ("The name '" ++ x.name ++ "' is not defined")

namespace Node

variable {s : Source} {r : References} {loaded : Loaded} {builtins : List String} {tree n : Node}

/-- The names that a tree reads, in the order of the walk. -/
def readings (tree : Node) : List Reading :=
  tree.placed.filterMap fun m => m.2.readName?.map fun name => ⟨m.1, m.2.span, name⟩

theorem readName?_eq_some {name : String} : n.readName? = some name ↔ n.form = .name name .load := by
  unfold readName?
  constructor
  · intro h
    split at h
    · rename_i hform
      rw [hform, Option.some.inj h]
    · cases h
  · intro hform
    rw [hform]

theorem mem_readings {x : Reading} :
    x ∈ tree.readings ↔ tree.at? x.path = some (.mk x.span (.name x.name .load)) := by
  unfold readings
  rw [List.mem_filterMap]
  constructor
  · rintro ⟨⟨p, span, form⟩, hm, hx⟩
    obtain ⟨name, hname, rfl⟩ := Option.map_eq_some_iff.mp hx
    have hform : form = .name name .load := readName?_eq_some.mp hname
    rw [← hform]
    exact mem_placed.mp hm
  · intro hat
    exact ⟨_, mem_placed.mpr hat, rfl⟩

theorem pairwise_readings (tree : Node) :
    tree.readings.Pairwise fun x y => x.path.Before y.path := by
  unfold readings
  refine tree.pairwise_placed.filterMap _ fun m m' hbefore x hx y hy => ?_
  obtain ⟨name, -, rfl⟩ := Option.map_eq_some_iff.mp hx
  obtain ⟨name', -, rfl⟩ := Option.map_eq_some_iff.mp hy
  exact hbefore

/-- The readings of names that the analysis does not know. -/
def unknownReadings (builtins : List String) (tree : Node) : List Reading :=
  tree.readings.filter fun x =>
    !(tree.bindings ++ builtins ++ moduleNames).contains x.name

theorem mem_unknownReadings (h : tree.hasStarImport = false) {x : Reading} :
    x ∈ tree.unknownReadings builtins ↔
      tree.at? x.path = some (.mk x.span (.name x.name .load)) ∧ tree.Undefined builtins x.name := by
  unfold unknownReadings
  rw [List.mem_filter, mem_readings, Bool.not_eq_true', contains_known_eq_false h]

/-! ## Exactness -/

theorem flatMap_unknownNames (known : List String) :
    tree.all.flatMap (unknownNames s known) =
      (tree.readings.filter fun x => !known.contains x.name).map (Reading.finding s) := by
  rw [← map_snd_placed, List.flatMap_map]
  unfold readings
  induction tree.placed with
  | nil => rfl
  | cons m rest ih =>
    rw [List.flatMap_cons, ih]
    unfold unknownNames
    cases hname : m.2.readName? with
    | none =>
      rw [List.filterMap_cons_none (by rw [hname]; rfl)]
      rfl
    | some name =>
      rw [List.filterMap_cons_some (by rw [hname]; rfl)]
      dsimp only
      cases hknown : known.contains name with
      | true =>
        rw [if_pos rfl, List.nil_append, List.filter_cons_of_neg (by rw [hknown]; nofun)]
      | false =>
        rw [if_neg Bool.false_ne_true, List.filter_cons_of_pos (by rw [hknown]; rfl), List.map_cons]
        rfl

theorem undefinedNames_eq (h : tree.hasStarImport = false) :
    tree.undefinedNames s builtins = (tree.unknownReadings builtins).map (Reading.finding s) := by
  unfold undefinedNames
  rw [h, if_neg Bool.false_ne_true]
  exact flatMap_unknownNames _

theorem filter_code_analyze :
    (tree.analyze s r loaded).filter (·.code == "E0602") = tree.undefinedNames s loaded.builtins := by
  have hrefused : (tree.refusedImports s r loaded.modules).filter (·.code == "E0602") = [] := by
    refine List.filter_eq_nil_iff.mpr fun f hf => ?_
    obtain ⟨n, -, hn⟩ := List.mem_flatMap.mp hf
    obtain ⟨span, code, text, rfl, rfl | rfl⟩ := exists_of_mem_importFindings hn
    · simp [findingAt, Finding.ofSpan]
    · simp [findingAt, Finding.ofSpan]
  have hidle : (tree.idleImports s).filter (·.code == "E0602") = [] := by
    refine List.filter_eq_nil_iff.mpr fun f hf => ?_
    obtain ⟨n, -, hn⟩ := List.mem_flatMap.mp hf
    obtain ⟨span, text, rfl⟩ := exists_of_mem_unusedImports hn
    simp [findingAt, Finding.ofSpan]
  have hundefined : (tree.undefinedNames s loaded.builtins).filter (·.code == "E0602") =
      tree.undefinedNames s loaded.builtins := by
    refine List.filter_eq_self.mpr fun f hf => ?_
    cases hstar : tree.hasStarImport with
    | true =>
      unfold undefinedNames at hf
      rw [hstar, if_pos rfl] at hf
      cases hf
    | false =>
      rw [undefinedNames_eq hstar] at hf
      obtain ⟨x, -, rfl⟩ := List.mem_map.mp hf
      rfl
  unfold analyze
  rw [List.filter_append, List.filter_append, hrefused, hidle, hundefined, List.nil_append,
    List.append_nil]

/-- **Undefined names.** If a tree imports everything some module has, the analysis reports no
undefined name. Otherwise it reports one for each node that reads a name which the interpreter does not
provide and which no node of the tree binds, in the order of a walk down first, and no other. -/
theorem undefined_exact (s : Source) (r : References) (loaded : Loaded) (tree : Node) :
    (tree.ImportsAll ∧ (tree.analyze s r loaded).filter (·.code == "E0602") = []) ∨
    (¬ tree.ImportsAll ∧ ∃ xs : List Reading,
      (tree.analyze s r loaded).filter (·.code == "E0602") = xs.map (Reading.finding s) ∧
      xs.Pairwise (fun x y => x.path.Before y.path) ∧
      ∀ x, x ∈ xs ↔ tree.at? x.path = some (.mk x.span (.name x.name .load)) ∧
        tree.Undefined loaded.builtins x.name) := by
  rw [filter_code_analyze]
  cases hstar : tree.hasStarImport with
  | true =>
    refine .inl ⟨hasStarImport_iff.mp hstar, ?_⟩
    unfold undefinedNames
    rw [hstar, if_pos rfl]
  | false =>
    refine .inr ⟨fun hall => ?_, tree.unknownReadings loaded.builtins, undefinedNames_eq hstar, ?_,
      fun x => ?_⟩
    · rw [hasStarImport_iff.mpr hall] at hstar
      cases hstar
    · exact tree.pairwise_readings.filter _
    · exact mem_unknownReadings hstar

end Node

end LiveSketch

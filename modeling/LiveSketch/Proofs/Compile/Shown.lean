import LiveSketch.Proofs.Compile.Course

/-!
# What is shown of the findings

A compile collects findings and shows those of them that have a place in the script's own text and a
level that readers see (`diagnosticsOf_eq`); a script without an entry point has one diagnostic more
(`ofFindings_diagnostics`).

Of the findings about a tree only its objections are shown, which are the imports that will be
refused and the names that nothing defines. They are all errors, and they alone keep a tree from
code generation (`reachesEmit_iff_objections`); imports that nothing reads change neither.
-/

namespace LiveSketch

variable {σ ν : Type} {s : Source} {program : Program σ} {r : References} {loaded : Loaded}

/-- Readers see the finding: it has a place in the script's own text, and it is an error, a warning
or an information. -/
def Finding.isShown (f : Finding) : Bool :=
  f.file == some unitFile && f.start.isSome &&
    (f.level == .error || f.level == .warning || f.level == .info)

theorem diagnosticsOf_eq (s : Source) (findings : List Finding) :
    diagnosticsOf s findings = (findings.filter Finding.isShown).map (Finding.locate · s) := by
  have hlevel : ∀ f : Finding, ((f.locate s).severity != .silent) =
      (f.level == .error || f.level == .warning || f.level == .info) := by
    intro f
    show (f.level.severity != .silent) = _
    cases f.level <;> rfl
  unfold diagnosticsOf
  rw [List.filter_map, List.filter_filter]
  congr 1
  refine List.filter_congr fun f _ => ?_
  show ((f.locate s).severity != .silent && f.inSource) = f.isShown
  rw [hlevel, Bool.and_comm]
  rfl

theorem diagnosticsOf_append (findings more : List Finding) :
    diagnosticsOf s (findings ++ more) = diagnosticsOf s findings ++ diagnosticsOf s more := by
  simp only [diagnosticsOf_eq, List.filter_append, List.map_append]

theorem diagnosticsOf_of_shown {findings : List Finding} (h : ∀ f ∈ findings, f.isShown = true) :
    diagnosticsOf s findings = findings.map (Finding.locate · s) := by
  rw [diagnosticsOf_eq, List.filter_eq_self.mpr h]

theorem diagnosticsOf_of_hidden {findings : List Finding}
    (h : ∀ f ∈ findings, f.isShown = false) : diagnosticsOf s findings = [] := by
  rw [diagnosticsOf_eq, List.filter_eq_nil_iff.mpr fun f hf => by rw [h f hf]; nofun, List.map_nil]

theorem Finding.isShown_of_error {f : Finding} (hplace : f.inSource = true)
    (hlevel : f.level = .error) : f.isShown = true := by
  unfold isShown
  rw [hlevel, Bool.and_eq_true]
  exact ⟨hplace, rfl⟩

theorem Finding.isShown_of_hidden {f : Finding} (hlevel : f.level = .hidden) :
    f.isShown = false := by
  unfold isShown
  rw [hlevel]
  exact Bool.and_false _

/-! ## Trees -/

namespace Node

variable {tree : Node} {f : Finding}

/-- What the analysis holds against a tree: imports that will be refused, then names that nothing
defines. -/
def objections (s : Source) (r : References) (loaded : Loaded) (tree : Node) : List Finding :=
  tree.refusedImports s r loaded.modules ++ tree.undefinedNames s loaded.builtins

theorem analyze_eq (s : Source) (r : References) (loaded : Loaded) (tree : Node) :
    tree.analyze s r loaded = tree.objections s r loaded ++ tree.idleImports s := rfl

theorem of_mem_objections (h : f ∈ tree.objections s r loaded) :
    f.inSource = true ∧ f.level = .error := by
  rcases List.mem_append.mp h with h | h
  · exact of_mem_refusedImports h
  · exact of_mem_undefinedNames h

/-- The codes of objections are those of imports and undefined names. -/
theorem code_of_mem_objections (h : f ∈ tree.objections s r loaded) :
    f.code ∈ ["E0401", "E0402", "E0602"] := by
  rcases List.mem_append.mp h with h | h
  · obtain ⟨n, -, hn⟩ := List.mem_flatMap.mp h
    obtain ⟨span, code, text, rfl, rfl | rfl⟩ := exists_of_mem_importFindings hn <;>
      simp [findingAt, Finding.ofSpan]
  · unfold undefinedNames at h
    split at h
    · cases h
    · obtain ⟨n, -, hn⟩ := List.mem_flatMap.mp h
      unfold unknownNames at hn
      split at hn
      · split at hn
        · cases hn
        · rw [List.mem_singleton.mp hn]
          simp [findingAt, Finding.ofSpan]
      · cases hn

end Node

def shownWarnings (s : Source) (ws : List Warning) : List Diagnostic :=
  diagnosticsOf s (warningFindings ws s)

theorem isError_of_mem_shownWarnings {ws : List Warning} {d : Diagnostic}
    (h : d ∈ shownWarnings s ws) : d.isError = false := by
  unfold shownWarnings at h
  rw [diagnosticsOf_eq] at h
  obtain ⟨f, hf, rfl⟩ := List.mem_map.mp h
  have hlevel := level_of_mem_warningFindings (List.mem_filter.mp hf).1
  show (f.level.severity == .error) = false
  rw [hlevel]
  rfl

variable {tree : Node}

/-- Of a tree's findings its objections are shown, after the warnings of parsing it. -/
theorem diagnosticsOf_analysedFindings :
    diagnosticsOf s (analysedFindings s program r loaded tree) =
      shownWarnings s program.parse.warnings ++
        (tree.objections s r loaded).map (Finding.locate · s) := by
  have hidle : diagnosticsOf s (tree.idleImports s) = [] :=
    diagnosticsOf_of_hidden fun f hf => Finding.isShown_of_hidden (Node.of_mem_idleImports hf).2
  have hobjections : diagnosticsOf s (tree.objections s r loaded) =
      (tree.objections s r loaded).map (Finding.locate · s) :=
    diagnosticsOf_of_shown fun f hf =>
      Finding.isShown_of_error (Node.of_mem_objections hf).1 (Node.of_mem_objections hf).2
  unfold analysedFindings
  rw [Node.analyze_eq, diagnosticsOf_append, diagnosticsOf_append, hidle, List.append_nil,
    hobjections]
  rfl

/-- A tree is kept from code generation exactly by its objections. -/
theorem anyError_analysedFindings :
    anyError (analysedFindings s program r loaded tree) = false ↔
      tree.objections s r loaded = [] := by
  rw [anyError_eq_false]
  constructor
  · intro h
    refine List.eq_nil_iff_forall_not_mem.mpr fun f hf => ?_
    refine h f (List.mem_append_right _ ?_) (Node.of_mem_objections hf).2
    exact List.mem_append_left _ hf
  · intro h f hf
    unfold analysedFindings at hf
    rw [Node.analyze_eq, h, List.nil_append] at hf
    rcases List.mem_append.mp hf with hf | hf
    · simp [level_of_mem_warningFindings hf]
    · simp [(Node.of_mem_idleImports hf).2]

theorem reachesEmit_iff_objections :
    reachesEmit s program r loaded = true ↔
      ∃ tree, program.parse.ended = .ok tree ∧ tree.objections s r loaded = [] := by
  simp only [reachesEmit_iff, ← anyError_eq_false, anyError_analysedFindings]

/-! ## Results -/

/-- The diagnostic of a tree for code that has no entry point. -/
def missingEntry : Option Node → List Diagnostic
  | none => []
  | some tree => if (entryPoint? tree).isNone then [entryMissing] else []

theorem ofFindings_diagnostics {start : σ} {findings : List Finding} {tree? : Option Node} :
    (Compiled.ofFindings s start findings tree? : Compiled σ ν).diagnostics =
      sortDiagnostics (diagnosticsOf s findings ++ missingEntry tree?) := by
  unfold Compiled.ofFindings missingEntry Artifact.ofTree?
  cases tree? with
  | none => rw [List.append_nil]
  | some tree =>
    dsimp only
    cases entryPoint? tree with
    | none => rfl
    | some entry => rw [if_neg (by simp), List.append_nil]; rfl

theorem exists_course {cancelAt : Option Nat} {c : Compiled σ ν}
    (hc : ((compile s program r loaded).runFrom cancelAt).1 = .ok c) :
    ∃ findings tree?, findingsOf s program r loaded = .ok (findings, tree?) ∧
      Course s program r loaded findings tree? ∧
      c = .ofFindings s program.start findings tree? := by
  have houtcome : compileOutcome s program r loaded = .ok c := by
    rcases (compile_passes s program r loaded).runFrom_eq_or cancelAt with h | h
    · rw [hc] at h; cases h
    · rw [← h, hc]
  unfold compileOutcome at houtcome
  rcases hfound : findingsOf s program r loaded with fault | ⟨findings, tree?⟩
  · rw [hfound] at houtcome; cases houtcome
  · rw [hfound] at houtcome
    exact ⟨findings, tree?, rfl, course_of_findingsOf hfound, (Except.ok.inj houtcome).symm⟩

end LiveSketch

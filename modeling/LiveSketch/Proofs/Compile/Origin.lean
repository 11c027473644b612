import LiveSketch.Proofs.Compile.Shown
import LiveSketch.Proofs.Diagnostic.Order

/-!
# Where the errors of a result come from

A compile goes on to its next phase only while nothing is wrong, so the errors of a result all come
from one phase: the parser, the analysis, the code generator, or the search for an entry point.

1. `errorPhase` finds the first phase that has something to object.
2. `ErrorsFrom` says for each phase what its errors are and what is shown beside them. Every course
   of a compile is a case of it (`Course.errorsFrom`), and a result is a case of no other phase than
   the first one that objects (`ErrorsFrom.phase_eq`).
3. Imports that nothing reads have no part in it: trees with the same objections and the same entry
   point lead to the same diagnostics (`exists_of_objections_eq`).
-/

namespace LiveSketch

variable {σ ν : Type} {s : Source} {program : Program σ} {r : References} {loaded : Loaded}

/-! ## Phases -/

/-- Where the errors of a result come from, if it has any. -/
inductive ErrorPhase where
  | nowhere | parser | analysis | generator | entryPoint
deriving DecidableEq, Repr

/-- The first phase of a compile that has something to object. -/
def errorPhase (s : Source) (program : Program σ) (r : References) (loaded : Loaded) :
    ErrorPhase :=
  match program.parse.ended with
  | .error _ => .parser
  | .ok tree =>
    if (tree.objections s r loaded).isEmpty then
      match program.emit.ended with
      | .error _ => .generator
      | .ok () => if (entryPoint? tree).isNone then .entryPoint else .nowhere
    else .analysis

/-- The errors among the diagnostics of a result. -/
def Compiled.errors (c : Compiled σ ν) : List Diagnostic := c.diagnostics.filter Diagnostic.isError

/-- The errors of a result come from a phase. -/
inductive ErrorsFrom (s : Source) (program : Program σ) (r : References) (loaded : Loaded)
    (c : Compiled σ ν) : ErrorPhase → Prop where
  /-- No error of a tree with code and an entry point. -/
  | nowhere {tree : Node} {entry : EntryPoint} (parsed : program.parse.ended = .ok tree)
    (clean : tree.objections s r loaded = []) (emitted : program.emit.ended = .ok ())
    (found : entryPoint? tree = some entry) (errors : c.errors = []) :
    ErrorsFrom s program r loaded c .nowhere
  /-- One error of the parser beside its warnings. Whatever the analysis and the code generator
  would find, the result is the same. -/
  | parser {b : Breakdown} {f : Finding} (broken : program.parse.ended = .error b)
    (found : parseFindings s program.parse =
      .ok (f :: warningFindings program.parse.warnings s, none))
    (code : f.code = "E0001") (errors : c.errors = [f.locate s])
    (shown : c.diagnostics.Perm (f.locate s :: shownWarnings s program.parse.warnings))
    (alone : ∀ emit r loaded,
      ((compile s { program with emit := emit } r loaded).runFrom none).1 = .ok c) :
    ErrorsFrom s program r loaded c .parser
  /-- The objections to a tree beside the warnings of parsing it. No code is generated, and whatever
  the code generator would find, the result is the same. -/
  | analysis {tree : Node} (parsed : program.parse.ended = .ok tree)
    (objected : tree.objections s r loaded ≠ [])
    (codes : ∀ f ∈ tree.objections s r loaded, f.code ∈ ["E0401", "E0402", "E0602"])
    (errors : c.errors.Perm ((tree.objections s r loaded).map (Finding.locate · s)))
    (shown : c.diagnostics.Perm ((tree.objections s r loaded).map (Finding.locate · s) ++
      shownWarnings s program.parse.warnings))
    (stopped : reachesEmit s program r loaded = false)
    (alone : ∀ emit, ((compile s { program with emit := emit } r loaded).runFrom none).1 = .ok c) :
    ErrorsFrom s program r loaded c .analysis
  /-- One error of the code generator for a tree without objections. -/
  | generator {tree : Node} {b : Breakdown} {f : Finding} (parsed : program.parse.ended = .ok tree)
    (clean : tree.objections s r loaded = []) (broken : program.emit.ended = .error b)
    (found : emitFindings s program.emit =
      .ok (f :: warningFindings program.emit.warnings s, false))
    (code : f.code = "E0001") (errors : c.errors = [f.locate s]) :
    ErrorsFrom s program r loaded c .generator
  /-- One error for a tree with code that has no entry point. -/
  | entryPoint {tree : Node} (parsed : program.parse.ended = .ok tree)
    (clean : tree.objections s r loaded = []) (emitted : program.emit.ended = .ok ())
    (missing : entryPoint? tree = none) (errors : c.errors = [entryMissing]) :
    ErrorsFrom s program r loaded c .entryPoint

/-- The errors of a result come from no phase but the first one that objects. -/
theorem ErrorsFrom.phase_eq {c : Compiled σ ν} {phase : ErrorPhase}
    (h : ErrorsFrom s program r loaded c phase) : phase = errorPhase s program r loaded := by
  unfold errorPhase
  cases h with
  | nowhere parsed clean emitted found => simp [parsed, clean, emitted, found]
  | parser broken => simp [broken]
  | analysis parsed objected => simp [parsed, objected]
  | generator parsed clean broken => simp [parsed, clean, broken]
  | entryPoint parsed clean emitted missing => simp [parsed, clean, emitted, missing]

/-! ## Errors of a result -/

theorem Compiled.errors_perm {c : Compiled σ ν} {errors others : List Diagnostic}
    (h : c.diagnostics.Perm (errors ++ others)) (herrors : ∀ d ∈ errors, d.isError = true)
    (hothers : ∀ d ∈ others, d.isError = false) : c.errors.Perm errors := by
  have hnone : others.filter Diagnostic.isError = [] :=
    List.filter_eq_nil_iff.mpr fun d hd => by rw [hothers d hd]; nofun
  have hfilter := h.filter Diagnostic.isError
  rw [List.filter_append, List.filter_eq_self.mpr herrors, hnone, List.append_nil] at hfilter
  exact hfilter

/-- The one error of a result that shows a finding beside warnings. -/
theorem Compiled.errors_eq_singleton {c : Compiled σ ν} {d : Diagnostic} {others : List Diagnostic}
    (h : c.diagnostics.Perm (d :: others)) (herror : d.isError = true)
    (hothers : ∀ d ∈ others, d.isError = false) : c.errors = [d] :=
  List.perm_singleton.mp (Compiled.errors_perm (show c.diagnostics.Perm ([d] ++ others) from h)
    (by simpa using herror) hothers)

theorem isError_of_mem_append_shownWarnings {ws ws' : List Warning} {d : Diagnostic}
    (h : d ∈ shownWarnings s ws ++ shownWarnings s ws') : d.isError = false := by
  rcases List.mem_append.mp h with h | h <;> exact isError_of_mem_shownWarnings h

theorem Finding.isError_locate {f : Finding} (h : f.level = .error) : (f.locate s).isError = true := by
  show (f.level.severity == .error) = true
  rw [h]
  rfl

theorem diagnosticsOf_cons_warningFindings {f : Finding} (h : f.isShown = true)
    (ws : List Warning) : diagnosticsOf s (f :: warningFindings ws s) =
      f.locate s :: shownWarnings s ws := by
  unfold shownWarnings
  rw [diagnosticsOf_eq, diagnosticsOf_eq, List.filter_cons_of_pos h, List.map_cons]

theorem findingsOf_of_tree (program : Program σ) {tree : Node} (h : program.parse.ended = .ok tree) :
    findingsOf s program r loaded =
      if tree.objections s r loaded = [] then
        (emitFindings s program.emit).map fun (emitted, hasCode) =>
          (analysedFindings s program r loaded tree ++ emitted, if hasCode then some tree else none)
      else .ok (analysedFindings s program r loaded tree, none) := by
  unfold findingsOf
  rw [parseFindings_of_tree h]
  change (ite (anyError (analysedFindings s program r loaded tree) = true) _ _ :
    Except Fault (List Finding × Option Node)) = _
  by_cases hclean : tree.objections s r loaded = []
  · rw [if_pos hclean, if_neg (by rw [anyError_analysedFindings.mpr hclean]; nofun)]
    cases emitFindings s program.emit <;> rfl
  · have herror : anyError (analysedFindings s program r loaded tree) = true := by
      simpa only [Bool.not_eq_false] using mt anyError_analysedFindings.mp hclean
    rw [if_neg hclean, if_pos herror]
    rfl

/-! ### Every course -/

theorem errorsFrom_of_broken {b : Breakdown} {f : Finding} (broken : program.parse.ended = .error b)
    (found : parseFindings s program.parse =
      .ok (f :: warningFindings program.parse.warnings s, none))
    (code : f.code = "E0001") (level : f.level = .error) (place : f.inSource = true) :
    ErrorsFrom s program r loaded (Compiled.ofFindings s program.start
      (f :: warningFindings program.parse.warnings s) none : Compiled σ ν) .parser := by
  have hshown : (Compiled.ofFindings s program.start
      (f :: warningFindings program.parse.warnings s) none : Compiled σ ν).diagnostics.Perm
        (f.locate s :: shownWarnings s program.parse.warnings) := by
    rw [ofFindings_diagnostics, diagnosticsOf_cons_warningFindings
      (Finding.isShown_of_error place level)]
    simpa [missingEntry] using sortDiagnostics_perm _
  refine .parser broken found code ?_ hshown fun emit r loaded => ?_
  · exact Compiled.errors_eq_singleton hshown (Finding.isError_locate level)
      fun d hd => isError_of_mem_shownWarnings hd
  · refine runFrom_none_of_findingsOf { program with emit := emit } ?_
    unfold findingsOf
    rw [found]
    rfl

theorem errorsFrom_of_analysis {tree : Node} (parsed : program.parse.ended = .ok tree)
    (objected : tree.objections s r loaded ≠ []) :
    ErrorsFrom s program r loaded (Compiled.ofFindings s program.start
      (analysedFindings s program r loaded tree) none : Compiled σ ν) .analysis := by
  have hshown : (Compiled.ofFindings s program.start
      (analysedFindings s program r loaded tree) none : Compiled σ ν).diagnostics.Perm
        ((tree.objections s r loaded).map (Finding.locate · s) ++
          shownWarnings s program.parse.warnings) := by
    rw [ofFindings_diagnostics, diagnosticsOf_analysedFindings, missingEntry, List.append_nil]
    exact (sortDiagnostics_perm _).trans List.perm_append_comm
  refine .analysis parsed objected (fun f hf => Node.code_of_mem_objections hf) ?_ hshown ?_
    fun emit => ?_
  · refine Compiled.errors_perm hshown (fun d hd => ?_) fun d hd => isError_of_mem_shownWarnings hd
    obtain ⟨f, hf, rfl⟩ := List.mem_map.mp hd
    exact Finding.isError_locate (Node.of_mem_objections hf).2
  · rw [← Bool.not_eq_true, reachesEmit_iff_objections]
    rintro ⟨tree', parsed', clean⟩
    rw [parsed] at parsed'
    exact objected (Except.ok.inj parsed' ▸ clean)
  · refine runFrom_none_of_findingsOf { program with emit := emit } ?_
    rw [findingsOf_of_tree { program with emit := emit } parsed, if_neg objected]
    rfl

theorem errorsFrom_of_generator {tree : Node} {b : Breakdown} {f : Finding}
    (parsed : program.parse.ended = .ok tree) (clean : tree.objections s r loaded = [])
    (broken : program.emit.ended = .error b)
    (found : emitFindings s program.emit =
      .ok (f :: warningFindings program.emit.warnings s, false))
    (code : f.code = "E0001") (level : f.level = .error) (place : f.inSource = true) :
    ErrorsFrom s program r loaded (Compiled.ofFindings s program.start
      (analysedFindings s program r loaded tree ++
        f :: warningFindings program.emit.warnings s) none : Compiled σ ν) .generator := by
  refine .generator parsed clean broken found code ?_
  have hshown : (Compiled.ofFindings s program.start (analysedFindings s program r loaded tree ++
      f :: warningFindings program.emit.warnings s) none : Compiled σ ν).diagnostics.Perm
        (f.locate s :: (shownWarnings s program.parse.warnings ++
          shownWarnings s program.emit.warnings)) := by
    rw [ofFindings_diagnostics, diagnosticsOf_append, diagnosticsOf_analysedFindings, clean,
      diagnosticsOf_cons_warningFindings (Finding.isShown_of_error place level), missingEntry,
      List.map_nil, List.append_nil, List.append_nil]
    exact (sortDiagnostics_perm _).trans List.perm_middle
  exact Compiled.errors_eq_singleton hshown (Finding.isError_locate level)
    fun d hd => isError_of_mem_append_shownWarnings hd

/-- A tree with code: one error if it has no entry point, else none. -/
theorem errorsFrom_of_code {tree : Node} (parsed : program.parse.ended = .ok tree)
    (clean : tree.objections s r loaded = []) (emitted : program.emit.ended = .ok ()) :
    ∃ phase, ErrorsFrom s program r loaded (Compiled.ofFindings s program.start
      (analysedFindings s program r loaded tree ++ warningFindings program.emit.warnings s)
        (some tree) : Compiled σ ν) phase := by
  have hshown : (Compiled.ofFindings s program.start (analysedFindings s program r loaded tree ++
      warningFindings program.emit.warnings s) (some tree) : Compiled σ ν).diagnostics.Perm
        (missingEntry (some tree) ++
          (shownWarnings s program.parse.warnings ++ shownWarnings s program.emit.warnings)) := by
    rw [ofFindings_diagnostics, diagnosticsOf_append, diagnosticsOf_analysedFindings, clean,
      List.map_nil, List.append_nil]
    exact (sortDiagnostics_perm _).trans List.perm_append_comm
  cases hentry : entryPoint? tree with
  | none =>
    have hmissing : missingEntry (some tree) = [entryMissing] := by simp [missingEntry, hentry]
    rw [hmissing] at hshown
    exact ⟨_, .entryPoint parsed clean emitted hentry (Compiled.errors_eq_singleton hshown rfl
      fun d hd => isError_of_mem_append_shownWarnings hd)⟩
  | some entry =>
    have hmissing : missingEntry (some tree) = [] := by simp [missingEntry, hentry]
    rw [hmissing] at hshown
    exact ⟨_, .nowhere parsed clean emitted hentry (List.perm_nil.mp (Compiled.errors_perm hshown
      nofun fun d hd => isError_of_mem_append_shownWarnings hd))⟩

/-- On every course the errors of the result come from the first phase that objects. -/
theorem Course.errorsFrom {findings : List Finding} {tree? : Option Node}
    (h : Course s program r loaded findings tree?) (hown : program.InOwnText) :
    ErrorsFrom s program r loaded
      (Compiled.ofFindings s program.start findings tree? : Compiled σ ν)
      (errorPhase s program r loaded) := by
  have hphase : ∃ phase, ErrorsFrom s program r loaded
      (Compiled.ofFindings s program.start findings tree? : Compiled σ ν) phase := by
    cases h with
    | malformedText ended =>
      exact ⟨_, errorsFrom_of_broken ended (by simp [parseFindings, ended]) rfl rfl
        (Malformed.finding_inSource (hown.1 _ ended) _)⟩
    | badValue ended said =>
      exact ⟨_, errorsFrom_of_broken ended (by simp [parseFindings, ended, said, Except.map]) rfl
        rfl rfl⟩
    | refusedTree ended refused =>
      refine ⟨_, errorsFrom_of_analysis ended fun hclean => ?_⟩
      rw [anyError_analysedFindings.mpr hclean] at refused
      cases refused
    | malformedCode ended clean emitEnded =>
      exact ⟨_, errorsFrom_of_generator ended (anyError_analysedFindings.mp clean) emitEnded
        (by simp [emitFindings, emitEnded]) rfl rfl
        (Malformed.finding_inSource (hown.2 _ emitEnded) _)⟩
    | passed ended clean emitEnded =>
      exact errorsFrom_of_code ended (anyError_analysedFindings.mp clean) emitEnded
  obtain ⟨phase, h⟩ := hphase
  exact h.phase_eq ▸ h

/-! ## Imports that nothing reads -/

/-- The program with another tree in place of what its text was parsed to. -/
def Program.withTree (program : Program σ) (tree : Node) : Program σ :=
  { program with parse := { program.parse with ended := .ok tree } }

/-- Trees with the same objections and the same entry point lead to the same diagnostics, whatever
they import and do not read. -/
theorem exists_of_objections_eq {tree tree' : Node} {c : Compiled σ ν}
    (parsed : program.parse.ended = .ok tree)
    (hobjections : tree'.objections s r loaded = tree.objections s r loaded)
    (hentry : entryPoint? tree' = entryPoint? tree) {cancelAt : Option Nat}
    (hc : ((compile s program r loaded).runFrom cancelAt).1 = .ok c) :
    ∃ c' : Compiled σ ν,
      ((compile s (program.withTree tree') r loaded).runFrom none).1 = .ok c' ∧
        c'.diagnostics = c.diagnostics := by
  have hmissing : missingEntry (some tree') = missingEntry (some tree) := by
    simp only [missingEntry, hentry]
  have hanalysed : diagnosticsOf s (analysedFindings s (program.withTree tree') r loaded tree') =
      diagnosticsOf s (analysedFindings s program r loaded tree) := by
    rw [diagnosticsOf_analysedFindings, diagnosticsOf_analysedFindings, hobjections]
    rfl
  obtain ⟨findings, tree?, hfound, -, rfl⟩ := exists_course hc
  rw [findingsOf_of_tree program parsed] at hfound
  have hfound' : findingsOf s (program.withTree tree') r loaded = _ :=
    findingsOf_of_tree (program.withTree tree') rfl
  rw [hobjections] at hfound'
  by_cases hclean : tree.objections s r loaded = []
  · rw [if_pos hclean] at hfound hfound'
    change _ = (emitFindings s program.emit).map _ at hfound'
    rcases hemit : emitFindings s program.emit with fault | ⟨emitted, hasCode⟩
    · rw [hemit] at hfound
      cases hfound
    · rw [hemit] at hfound hfound'
      cases hfound
      refine ⟨_, runFrom_none_of_findingsOf (program.withTree tree') hfound', ?_⟩
      rw [ofFindings_diagnostics, ofFindings_diagnostics, diagnosticsOf_append,
        diagnosticsOf_append, hanalysed]
      cases hasCode with
      | true => exact congrArg (fun more => sortDiagnostics (_ ++ more)) hmissing
      | false => rfl
  · rw [if_neg hclean] at hfound hfound'
    cases hfound
    refine ⟨_, runFrom_none_of_findingsOf (program.withTree tree') hfound', ?_⟩
    rw [ofFindings_diagnostics, ofFindings_diagnostics, hanalysed]

/-! ## One phase -/

/-- **One phase.** The errors of every result come from the first phase that objects, and from no
other. What that phase is depends on no import that nothing reads: with another tree that meets the
same objections and has the same entry point, the compile gives the same diagnostics, and its errors
come from the same phase. -/
theorem errors_of_one_phase (hown : program.InOwnText) {cancelAt : Option Nat} {c : Compiled σ ν}
    (hc : ((compile s program r loaded).runFrom cancelAt).1 = .ok c) :
    ErrorsFrom s program r loaded c (errorPhase s program r loaded) ∧
      (∀ phase, ErrorsFrom s program r loaded c phase → phase = errorPhase s program r loaded) ∧
      ∀ tree tree', program.parse.ended = .ok tree →
        tree'.objections s r loaded = tree.objections s r loaded →
        entryPoint? tree' = entryPoint? tree →
        ∃ c' : Compiled σ ν,
          ((compile s (program.withTree tree') r loaded).runFrom none).1 = .ok c' ∧
            c'.diagnostics = c.diagnostics ∧
            ErrorsFrom s (program.withTree tree') r loaded c' (errorPhase s program r loaded) := by
  obtain ⟨findings, tree?, -, hcourse, rfl⟩ := exists_course hc
  refine ⟨hcourse.errorsFrom hown, fun phase h => h.phase_eq, ?_⟩
  intro tree tree' parsed hobjections hentry
  obtain ⟨c', hc', hdiagnostics⟩ := exists_of_objections_eq parsed hobjections hentry hc
  have hphase : errorPhase s (program.withTree tree') r loaded = errorPhase s program r loaded := by
    unfold errorPhase
    rw [parsed]
    show (if (tree'.objections s r loaded).isEmpty then _ else _) = _
    rw [hobjections]
    simp only [hentry]
    rfl
  refine ⟨c', hc', hdiagnostics, ?_⟩
  obtain ⟨findings', tree?', -, hcourse', rfl⟩ := exists_course hc'
  exact hphase ▸ hcourse'.errorsFrom ⟨nofun, hown.2⟩

/-! ## A tree with objections -/

/-- A script with an import that it may not make, one that it does not read, and one from beside
it. -/
def Node.objected : Node :=
  .mk .unknown (.module [
    .mk ⟨some 1, some 0, some 1, some 15⟩ (.importModules [
      .mk ⟨some 1, some 7, some 1, some 9⟩ (.importedName "os" none),
      .mk ⟨some 1, some 11, some 1, some 15⟩ (.importedName "math" none)]),
    .mk ⟨some 2, some 0, some 2, some 17⟩
      (.importFrom none [.mk .unknown (.importedName "pen" none)] (some 1))])

/-- Parsing warns of it; generating code would both warn and fail. -/
def Program.objected : Program Unit where
  parse := ⟨[⟨"SyntaxWarning", "invalid escape sequence", 2, unitFile⟩], .ok .objected⟩
  emit := ⟨[⟨"SyntaxWarning", "assertion is always true", 1, unitFile⟩],
    .error (.malformed ⟨"no code", some 1, some 1, none, none, none⟩)⟩
  start := ()

/-- Its text. -/
def Source.objected : Source := .ofString "import os, math\nfrom . import pen\n"

/-- Its errors are those of the analysis, and nothing of code generation is shown. -/
theorem errors_of_objected :
    Program.objected.InOwnText ∧ ∃ c : Compiled Unit Unit,
      ((compile .objected .objected ⟨[⟨"math", "math", []⟩]⟩ ⟨[], []⟩).runFrom none).1 = .ok c ∧
        c.diagnostics.map Diagnostic.severity = [.error, .error, .warning] ∧
        c.errors.map Diagnostic.line = [1, 2] ∧
        ErrorsFrom .objected .objected ⟨[⟨"math", "math", []⟩]⟩ ⟨[], []⟩ c .analysis := by
  have hown : Program.objected.InOwnText := ⟨nofun, by rintro b ⟨⟩; exact .inl rfl⟩
  have hlisted : (findingsOf .objected .objected ⟨[⟨"math", "math", []⟩]⟩ ⟨[], []⟩).toOption.map
      (fun found => diagnosticsOf .objected found.1 ++ missingEntry found.2) =
        some [⟨.warning, "warning W0001: invalid escape sequence", 16, 33, 2⟩,
          ⟨.error, "error E0401: Unable to import 'os', it is not one of the " ++
            "libraries available to drawing scripts", 7, 9, 1⟩,
          ⟨.error, "error E0402: Relative imports are not supported in drawing scripts",
            16, 33, 2⟩] := by decide +kernel
  obtain ⟨⟨findings, tree?⟩, hfound, hshown⟩ := exists_ok_of_map hlisted
  have hc : ((compile .objected .objected ⟨[⟨"math", "math", []⟩]⟩ ⟨[], []⟩ :
      Checked (Compiled Unit Unit)).runFrom none).1 = _ := runFrom_none_of_findingsOf .objected hfound
  have hphase : errorPhase .objected .objected ⟨[⟨"math", "math", []⟩]⟩ ⟨[], []⟩ = .analysis := by
    decide +kernel
  have hdiagnostics : (Compiled.ofFindings .objected Program.objected.start findings tree? :
      Compiled Unit Unit).diagnostics = sortDiagnostics _ :=
    ofFindings_diagnostics.trans (congrArg sortDiagnostics hshown)
  simp only [sortDiagnostics_cons, sortDiagnostics_nil] at hdiagnostics
  refine ⟨hown, _, hc, ?_, ?_, hphase ▸ (errors_of_one_phase hown hc).1⟩
  · rw [hdiagnostics]
    rfl
  · unfold Compiled.errors
    rw [hdiagnostics]
    rfl

end LiveSketch

import LiveSketch.Proofs.Compile.Shown
import LiveSketch.Proofs.Entry.Draws
import LiveSketch.Proofs.Reference.Extension

/-!
# Widening the references

A name that is a reference stays one when there are more. So imports that were all served still are
(`Node.refusedImports_of_subset`), although among the new names there are submodules, which are
asked for in another branch of the check; and the analysis of a tree whose imports are served does
not depend on what else is a reference (`Node.analyze_of_subset`).

A compile that ends without an error has refused no import of its tree
(`Course.refusedImports_eq_nil`), so it goes the same way under more references: the same
checkpoints, the same findings, the same entry point (`compile_of_subset`).
-/

namespace LiveSketch

variable {σ ν : Type} {s : Source} {program : Program σ} {r r' : References} {loaded : Loaded}

theorem References.contains_iff_mem_names {name : String} :
    r.contains name = true ↔ name ∈ r.names := by
  unfold References.contains References.names
  simp [List.any_eq_true]

theorem References.contains_of_subset (hsub : r.names ⊆ r'.names) {name : String}
    (h : r.contains name = true) : r'.contains name = true :=
  contains_iff_mem_names.mpr (hsub (contains_iff_mem_names.mp h))

/-! ## The analysis -/

namespace Node

variable {n tree : Node} {running : List String}

theorem importFindings_of_subset (hsub : r.names ⊆ r'.names)
    (h : n.importFindings s r running = []) : n.importFindings s r' running = [] := by
  unfold importFindings at h ⊢
  cases hform : n.form with
  | importModules names =>
    simp only [hform, List.filterMap_eq_nil_iff] at h ⊢
    rintro ⟨span, name, asName⟩ hmem
    have hserved : r.contains name = true := by
      simpa using h _ hmem
    exact if_pos (References.contains_of_subset hsub hserved)
  | importFrom module names level =>
    simp only [hform] at h ⊢
    by_cases hlevel : level.getD 0 ≠ 0
    · rw [if_pos hlevel] at h
      cases h
    rw [if_neg hlevel] at h ⊢
    cases hmodule : r.contains (module.getD "") with
    | false => simp [hmodule] at h
    | true =>
      rw [hmodule] at h
      rw [References.contains_of_subset hsub hmodule]
      simp only [Bool.not_true, Bool.false_eq_true, if_false, List.filterMap_eq_nil_iff] at h ⊢
      rintro ⟨span, name, asName⟩ hmem
      -- a submodule that is loaded was a reference, so it is one still
      have hserved : running.contains (module.getD "" ++ "." ++ name) = true →
          r.contains (module.getD "" ++ "." ++ name) = true := by
        simpa using h _ hmem
      refine if_neg fun hrefused => ?_
      obtain ⟨hloaded, habsent⟩ := Bool.and_eq_true_iff.mp hrefused
      rw [References.contains_of_subset hsub (hserved hloaded)] at habsent
      cases habsent
  | _ => rfl

theorem refusedImports_of_subset (hsub : r.names ⊆ r'.names)
    (h : tree.refusedImports s r running = []) : tree.refusedImports s r' running = [] := by
  unfold refusedImports at h ⊢
  rw [List.flatMap_eq_nil_iff] at h ⊢
  exact fun n hn => importFindings_of_subset hsub (h n hn)

/-- The analysis of a tree whose imports are served does not depend on further references. -/
theorem analyze_of_subset (hsub : r.names ⊆ r'.names)
    (h : tree.refusedImports s r loaded.modules = []) :
    tree.analyze s r' loaded = tree.analyze s r loaded := by
  unfold analyze
  rw [h, refusedImports_of_subset hsub h]

end Node

/-! ## A compile -/

/-- A tree that was parsed is analysed alike under both references. -/
def Program.AnalysedAlike (program : Program σ) (s : Source) (r r' : References)
    (loaded : Loaded) : Prop :=
  ∀ tree, program.parse.ended = .ok tree → tree.analyze s r' loaded = tree.analyze s r loaded

theorem findingsOf_of_analysedAlike (h : program.AnalysedAlike s r r' loaded) :
    findingsOf s program r' loaded = findingsOf s program r loaded := by
  unfold findingsOf
  rcases hparse : parseFindings s program.parse with fault | ⟨parsed, _ | tree⟩
  · rfl
  · rfl
  · show ite _ _ _ = ite _ _ _
    rw [h tree (ended_of_parseFindings hparse)]

theorem compileCheckpoints_of_analysedAlike (h : program.AnalysedAlike s r r' loaded) :
    compileCheckpoints s program r' loaded = compileCheckpoints s program r loaded := by
  have hphase : phaseCheckpoints s program r' loaded = phaseCheckpoints s program r loaded := by
    unfold phaseCheckpoints
    rcases hparse : parseFindings s program.parse with fault | ⟨parsed, _ | tree⟩
    · rfl
    · rfl
    · dsimp only
      rw [h tree (ended_of_parseFindings hparse)]
  unfold compileCheckpoints
  rw [hphase, findingsOf_of_analysedAlike h]

theorem Course.refusedImports_eq_nil {findings : List Finding} {tree? : Option Node} {tree : Node}
    (hcourse : Course s program r loaded findings tree?)
    (hclean : ¬ HasPlacedError findings)
    (hended : program.parse.ended = .ok tree) : tree.refusedImports s r loaded.modules = [] := by
  have hmem : ∀ f ∈ analysedFindings s program r loaded tree, f ∈ findings := by
    intro f hf
    cases hcourse with
    | malformedText ended | badValue ended said => rw [hended] at ended; cases ended
    | refusedTree ended refused =>
      cases hended.symm.trans ended
      exact hf
    | malformedCode ended clean emitEnded | passed ended clean emitEnded =>
      cases hended.symm.trans ended
      exact List.mem_append_left _ hf
  refine List.eq_nil_iff_forall_not_mem.mpr fun f hf => ?_
  refine hclean ⟨f, hmem f (List.mem_append_right _ ?_), Node.of_mem_refusedImports hf⟩
  exact List.mem_append_left _ (List.mem_append_left _ hf)

/-- An error with a place in the text is an error of the result, whatever its tree. -/
theorem not_hasPlacedError_of_no_errors {start : σ} {findings : List Finding}
    {tree? : Option Node}
    (h : (Compiled.ofFindings s start findings tree? : Compiled σ ν).hasErrors = false) :
    ¬ HasPlacedError findings := by
  intro herror
  unfold Compiled.hasErrors at h
  rw [ofFindings_diagnostics, any_isError_sortDiagnostics, List.any_append,
    herror.any_isError] at h
  cases h

/-- The engine's first state is kept apart from what a compile finds. -/
theorem resolution_ofFindings (start start' : σ) (findings : List Finding) (tree? : Option Node) :
    (Compiled.ofFindings s start' findings tree? : Compiled σ ν).artifact.map
        Artifact.resolution =
      (Compiled.ofFindings s start findings tree? : Compiled σ ν).artifact.map
        Artifact.resolution := by
  unfold Compiled.ofFindings Artifact.ofTree?
  cases tree? with
  | none => rfl
  | some tree =>
    dsimp only
    cases entryPoint? tree <;> rfl

/-- A compile that ends without an error ends alike under more references, after as many
checkpoints. What an engine can start from depends on the references, so it may differ. -/
theorem compile_of_subset (hsub : r.names ⊆ r'.names) (start' : σ) {cancelAt : Option Nat}
    {c : Compiled σ ν} {n : Nat}
    (hc : (compile s program r loaded).runFrom cancelAt = (.ok c, n))
    (hclean : c.hasErrors = false) :
    ∃ c' : Compiled σ ν,
      (compile s { program with start := start' } r' loaded).runFrom cancelAt = (.ok c', n) ∧
        c'.diagnostics = c.diagnostics ∧
        c'.artifact.map Artifact.resolution = c.artifact.map Artifact.resolution := by
  obtain ⟨findings, tree?, hfound, hcourse, rfl⟩ := exists_course (congrArg Prod.fst hc)
  have halike : program.AnalysedAlike s r r' loaded := fun tree hended =>
    Node.analyze_of_subset hsub
      (hcourse.refusedImports_eq_nil (not_hasPlacedError_of_no_errors hclean) hended)
  have hfound' : findingsOf s { program with start := start' } r' loaded =
      .ok (findings, tree?) := (findingsOf_of_analysedAlike halike).trans hfound
  have hcount : compileCheckpoints s { program with start := start' } r' loaded =
      compileCheckpoints s program r loaded := compileCheckpoints_of_analysedAlike halike
  refine ⟨.ofFindings s start' findings tree?, ?_, ?_, resolution_ofFindings ..⟩
  · rw [(compile_passes s program r loaded).runFrom] at hc
    rw [(compile_passes s _ r' loaded).runFrom, hcount]
    unfold compileOutcome at hc ⊢
    rw [hfound] at hc
    rw [hfound']
    exact Checked.endOf_ok hc _
  · rw [ofFindings_diagnostics, ofFindings_diagnostics]

/-- **More references break nothing.** A compile that ends without an error ends with the same
diagnostics and the same entry point, after as many checkpoints, when there are more references.
And there are more whenever an allow-list is extended: for the same loaded modules the references
before are the first ones after, all of them with names of their own. Two extensions are one by the
names of both, and an extension adds nothing exactly if the list has all its names in some case. -/
theorem wider_references_break_nothing :
    (∀ (s : Source) (program : Program σ) (start' : σ) (r r' : References)
      (loaded : Loaded) (cancelAt : Option Nat) (c : Compiled σ ν) (n : Nat),
      r.names ⊆ r'.names → (compile s program r loaded).runFrom cancelAt = (.ok c, n) →
      c.hasErrors = false →
      ∃ c' : Compiled σ ν,
        (compile s { program with start := start' } r' loaded).runFrom cancelAt = (.ok c', n) ∧
          c'.diagnostics = c.diagnostics ∧
          c'.artifact.map Artifact.resolution = c.artifact.map Artifact.resolution) ∧
    (∀ (t : LoadedTable) (names : List String) (extensions more : List (List String)),
      (references (resolverList names extensions) t).names <+:
          (references (resolverList names (extensions ++ more)) t).names ∧
        (references (resolverList names extensions) t).names.Nodup) ∧
    (∀ list a b : List String, allowAll (allowAll list a) b = allowAll list (a ++ b)) ∧
    ∀ list names : List String,
      allowAll list names = list ↔ ∀ name ∈ names, Allows list name := by
  refine ⟨?_, fun t names extensions more => ⟨?_, ?_⟩, allowAll_allowAll, fun _ _ =>
    allowAll_eq_self_iff⟩
  · intro s program start' r r' loaded cancelAt c n hsub hc hclean
    exact compile_of_subset hsub start' hc hclean
  · exact prefix_references (prefix_resolverList names extensions more)
  · exact nodup_names_references _ t

/-! ## A submodule that is named -/

/-- A script that takes a loaded submodule from its package. -/
def Node.picturing : Node :=
  .mk .unknown (.module [
    .mk ⟨some 1, some 0, some 1, some 21⟩
      (.importFrom (some "PIL") [.mk .unknown (.importedName "Image" none)] (some 0)),
    .drawDefinition 2])

/-- Parsing passes, and its code is generated. -/
def Program.picturing : Program Unit where
  parse := ⟨[], .ok .picturing⟩
  emit := ⟨[], .ok ()⟩
  start := ()

/-- Its text. -/
def Source.picturing : Source :=
  .ofString "from PIL import Image\ndef Draw(canvas, width, height):\n    pass\n"

/-- With one more submodule it still compiles. -/
theorem picturing_of_wider :
    ∃ c : Compiled Unit Unit,
      (compile .picturing .picturing (.ofNames ["PIL", "PIL.Image", "PIL.ImageDraw"])
        ⟨["PIL", "PIL.Image", "PIL.ImageDraw"], []⟩).runFrom none = (.ok c, 4) ∧
        c.diagnostics = [] ∧
        c.artifact.map Artifact.resolution = some (.found ⟨false, true, 2⟩) := by
  have hsub : (References.ofNames ["PIL", "PIL.Image"]).names ⊆
      (References.ofNames ["PIL", "PIL.Image", "PIL.ImageDraw"]).names := by decide
  have hcompiled : ((compile .picturing .picturing (.ofNames ["PIL", "PIL.Image"])
      ⟨["PIL", "PIL.Image", "PIL.ImageDraw"], []⟩ : Checked (Compiled Unit Unit)).runFrom
        none).1.toOption.map (fun c => (c.diagnostics, c.artifact.map Artifact.resolution)) =
          some ([], some (.found ⟨false, true, 2⟩)) := by decide +kernel
  have hpolls : ((compile .picturing .picturing (.ofNames ["PIL", "PIL.Image"])
      ⟨["PIL", "PIL.Image", "PIL.ImageDraw"], []⟩ : Checked (Compiled Unit Unit)).runFrom
        none).2 = 4 := by decide +kernel
  obtain ⟨c, hc, hparts⟩ := exists_ok_of_map hcompiled
  obtain ⟨hdiagnostics, hresolution⟩ := Prod.mk.inj hparts
  have hclean : c.hasErrors = false := by
    unfold Compiled.hasErrors
    rw [hdiagnostics]
    rfl
  obtain ⟨c', hc', hdiagnostics', hresolution'⟩ := wider_references_break_nothing.1 .picturing
    .picturing () _ _ _ none c 4 hsub (Prod.ext hc hpolls) hclean
  exact ⟨c', hc', hdiagnostics'.trans hdiagnostics, hresolution'.trans hresolution⟩

end LiveSketch

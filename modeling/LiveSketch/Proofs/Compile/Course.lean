import LiveSketch.Proofs.Analysis.Findings
import LiveSketch.Proofs.Compile.Breakdown

/-!
# The courses of a compile

A compile that gives a result takes one of five courses: its text is refused while parsing, as
malformed or over a value, its tree is refused by the analysis, its code is refused, or all phases
pass. `Course` lists what each collects, `course_of_findingsOf` says that there is no other.

Only a course on which all phases pass leads to a tree for code, and only the others collect an
error (`Course.no_error`, `Course.placed_error`).
-/

namespace LiveSketch

variable {σ ν : Type} {s : Source} {program : Program σ} {r : References} {loaded : Loaded}

/-! ## Phases -/

theorem parseFindings_of_tree {phase : Phase Node} {tree : Node} (h : phase.ended = .ok tree) :
    parseFindings s phase = .ok (warningFindings phase.warnings s, some tree) := by
  unfold parseFindings
  rw [h]

/-- A phase of parsing that broke down gives no tree. -/
theorem parseFindings_of_breakdown {phase : Phase Node} {b : Breakdown}
    (h : phase.ended = .error b) {findings : List Finding} {tree? : Option Node}
    (hfound : parseFindings s phase = .ok (findings, tree?)) : tree? = none := by
  unfold parseFindings at hfound
  rw [h] at hfound
  cases b with
  | malformed e => cases hfound; rfl
  | badValue fault =>
    cases hwords : fault.words <;> simp only [hwords, Except.map] at hfound <;> cases hfound
    rfl
  | other fault => cases hfound

theorem ended_of_parseFindings {findings : List Finding} {tree : Node}
    (h : parseFindings s program.parse = .ok (findings, some tree)) :
    program.parse.ended = .ok tree := by
  cases hended : program.parse.ended with
  | ok tree' =>
    rw [parseFindings_of_tree hended] at h
    cases h
    rfl
  | error b => cases parseFindings_of_breakdown hended h

theorem level_of_mem_warningFindings {ws : List Warning} {f : Finding}
    (h : f ∈ warningFindings ws s) : f.level = .warning := by
  obtain ⟨w, -, rfl⟩ := List.mem_map.mp h
  rfl

/-- The findings of a tree before code is generated for it: the warnings of parsing, then what the
analysis found. -/
def analysedFindings (s : Source) (program : Program σ) (r : References) (loaded : Loaded)
    (tree : Node) : List Finding :=
  warningFindings program.parse.warnings s ++ tree.analyze s r loaded

/-- Code is generated for a tree in which neither parsing nor the analysis found an error. -/
theorem reachesEmit_iff :
    reachesEmit s program r loaded = true ↔ ∃ tree, program.parse.ended = .ok tree ∧
      ∀ f ∈ analysedFindings s program r loaded tree, f.level ≠ .error := by
  unfold reachesEmit
  cases hended : program.parse.ended with
  | ok tree =>
    rw [parseFindings_of_tree hended]
    simp only [anyError, Except.ok.injEq, exists_eq_left', Bool.not_eq_true', List.any_eq_false,
      beq_iff_eq, analysedFindings, ne_eq]
  | error b =>
    rcases hfound : parseFindings s program.parse with fault | ⟨findings, tree?⟩
    · simp
    · obtain rfl := parseFindings_of_breakdown hended hfound
      simp

/-! ## Courses -/

/-- The findings that a compile collects on a course, and its tree when there is code for it. -/
inductive Course (s : Source) (program : Program σ) (r : References) (loaded : Loaded) :
    List Finding → Option Node → Prop
  | malformedText {e : Malformed} (ended : program.parse.ended = .error (.malformed e)) :
    Course s program r loaded
      (e.finding s .characters :: warningFindings program.parse.warnings s) none
  | badValue {fault : Fault} {words : String}
      (ended : program.parse.ended = .error (.badValue fault)) (said : fault.words = .ok words) :
    Course s program r loaded
      (.ofSpan "E0001" .error words (0, 0) :: warningFindings program.parse.warnings s) none
  | refusedTree {tree : Node} (ended : program.parse.ended = .ok tree)
      (refused : anyError (analysedFindings s program r loaded tree) = true) :
    Course s program r loaded (analysedFindings s program r loaded tree) none
  | malformedCode {tree : Node} {e : Malformed} (ended : program.parse.ended = .ok tree)
      (clean : anyError (analysedFindings s program r loaded tree) = false)
      (emitEnded : program.emit.ended = .error (.malformed e)) :
    Course s program r loaded
      (analysedFindings s program r loaded tree ++
        (e.finding s .bytes :: warningFindings program.emit.warnings s)) none
  | passed {tree : Node} (ended : program.parse.ended = .ok tree)
      (clean : anyError (analysedFindings s program r loaded tree) = false)
      (emitEnded : program.emit.ended = .ok ()) :
    Course s program r loaded
      (analysedFindings s program r loaded tree ++ warningFindings program.emit.warnings s)
      (some tree)

theorem course_of_findingsOf {findings : List Finding} {tree? : Option Node}
    (h : findingsOf s program r loaded = .ok (findings, tree?)) :
    Course s program r loaded findings tree? := by
  unfold findingsOf parseFindings at h
  cases hended : program.parse.ended with
  | error b =>
    rw [hended] at h
    cases b with
    | malformed e => cases h; exact .malformedText hended
    | badValue fault =>
      cases hwords : fault.words with
      | error other => simp only [hwords, Except.map] at h; cases h
      | ok words =>
        simp only [hwords, Except.map] at h
        cases h
        exact .badValue hended hwords
    | other fault => cases h
  | ok tree =>
    rw [hended] at h
    change (ite (anyError (analysedFindings s program r loaded tree) = true) _ _ :
      Except Fault (List Finding × Option Node)) = _ at h
    cases hclean : anyError (analysedFindings s program r loaded tree) with
    | true =>
      rw [if_pos hclean] at h
      cases h
      exact .refusedTree hended hclean
    | false =>
      rw [if_neg (by simp [hclean])] at h
      unfold emitFindings at h
      cases hemit : program.emit.ended with
      | error b =>
        rw [hemit] at h
        cases b with
        | malformed e => cases h; exact .malformedCode hended hclean hemit
        | badValue fault => cases h
        | other fault => cases h
      | ok _ =>
        rw [hemit] at h
        cases h
        exact .passed hended hclean hemit

/-- The text and its code are malformed, if at all, in this script and not in another file. -/
def Program.InOwnText (program : Program σ) : Prop :=
  (∀ b, program.parse.ended = .error b → b.InOwnText) ∧
    ∀ b, program.emit.ended = .error b → b.InOwnText

/-! ## Errors on a course -/

theorem anyError_eq_false {findings : List Finding} :
    anyError findings = false ↔ ∀ f ∈ findings, f.level ≠ .error := by
  simp [anyError]

namespace Course

variable {findings : List Finding} {tree : Node}

theorem no_error (h : Course s program r loaded findings (some tree)) :
    program.parse.ended = .ok tree ∧ anyError findings = false := by
  cases h with
  | passed ended clean emitEnded =>
    refine ⟨ended, anyError_eq_false.mpr fun f hf => ?_⟩
    rcases List.mem_append.mp hf with hf | hf
    · exact anyError_eq_false.mp clean f hf
    · simp [level_of_mem_warningFindings hf]

theorem placed_error (h : Course s program r loaded findings none) (hown : program.InOwnText) :
    HasPlacedError findings := by
  cases h with
  | malformedText ended =>
    exact ⟨_, List.mem_cons_self, Malformed.finding_inSource (hown.1 _ ended) _, rfl⟩
  | badValue ended said => exact ⟨_, List.mem_cons_self, rfl, rfl⟩
  | refusedTree ended refused =>
    obtain ⟨f, hf, hlevel⟩ := List.any_eq_true.mp refused
    have herror : f.level = .error := by simpa using hlevel
    rcases List.mem_append.mp hf with hwarning | hfound
    · rw [level_of_mem_warningFindings hwarning] at herror
      cases herror
    · exact ⟨f, hf, Node.inSource_of_mem_analyze hfound, herror⟩
  | @malformedCode tree e ended clean emitEnded =>
    refine HasPlacedError.append ?_ _
    exact ⟨e.finding s .bytes, List.mem_cons_self,
      Malformed.finding_inSource (hown.2 _ emitEnded) _, rfl⟩

end Course

end LiveSketch

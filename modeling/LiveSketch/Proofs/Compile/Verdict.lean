import LiveSketch.Proofs.Compile.Course
import LiveSketch.Proofs.Entry.Draws

/-!
# An artifact or an error

A compile that gives a result gives either an artifact or an error, and never both:

1. a finding that is no error leaves no error among the diagnostics (`no_isError_of_no_error`), so
   a course on which all phases pass has none but that of a missing entry point;
2. any other course has an error with a place, and no tree for code (`Course.placed_error`);
3. an artifact comes with its entry point, and keeps it through all draws
   (`Artifact.after_resolution`).
-/

namespace LiveSketch

variable {σ ν : Type} {s : Source} {program : Program σ} {r : References} {loaded : Loaded}

theorem Finding.locate_isError (f : Finding) : (f.locate s).isError = (f.level == .error) := by
  show (f.level.severity == .error) = _
  cases f.level <;> rfl

/-- Findings without an error leave none among the diagnostics. -/
theorem no_isError_of_no_error {findings : List Finding} (h : anyError findings = false) :
    (diagnosticsOf s findings).any Diagnostic.isError = false := by
  rw [List.any_eq_false]
  intro d hd
  obtain ⟨f, hf, rfl⟩ := List.mem_map.mp (List.mem_filter.mp hd).1
  have hlevel := anyError_eq_false.mp h f (List.mem_filter.mp hf).1
  simpa [Finding.locate_isError] using hlevel

theorem Artifact.ofTree?_eq_some_iff {tree : Node} {start : σ} {a : Artifact σ ν} :
    Artifact.ofTree? tree start = some a ↔ ∃ entry, entryPoint? tree = some entry ∧
      a = ⟨tree, .found entry, .unbound, start⟩ := by
  unfold Artifact.ofTree?
  rw [Option.map_eq_some_iff]
  constructor <;> rintro ⟨entry, hentry, rfl⟩ <;> exact ⟨entry, hentry, rfl⟩

/-- A result with a tree for code has an error exactly if no entry point is found. -/
theorem hasErrors_ofFindings {findings : List Finding} {tree : Node} {start : σ}
    (h : anyError findings = false) :
    (Compiled.ofFindings s start findings (some tree) : Compiled σ ν).hasErrors = true ↔
      (Compiled.ofFindings s start findings (some tree) : Compiled σ ν).artifact = none := by
  have hclean := no_isError_of_no_error (s := s) h
  unfold Compiled.ofFindings Compiled.hasErrors
  dsimp only
  cases (Artifact.ofTree? tree start : Option (Artifact σ ν)) with
  | some a => simp [hclean]
  | none =>
    have hmissing : entryMissing.isError = true := rfl
    simp [hmissing]

theorem ofTree?_of_artifact {findings : List Finding} {tree? : Option Node} {start : σ}
    {a : Artifact σ ν} (h : (Compiled.ofFindings s start findings tree?).artifact = some a) :
    ∃ tree, tree? = some tree ∧ Artifact.ofTree? tree start = some a := by
  unfold Compiled.ofFindings at h
  cases tree? with
  | none => cases h
  | some tree =>
    refine ⟨tree, rfl, ?_⟩
    dsimp only at h
    cases htree : (Artifact.ofTree? tree start : Option (Artifact σ ν)) with
    | none => rw [htree] at h; cases h
    | some b => rw [htree] at h; exact h

/-- **An artifact or an error.** A compile of a text that is malformed, if at all, in itself gives a
result without an artifact exactly if the result has an error. An artifact comes with the entry
point of the tree that was parsed, and whatever was drawn before and other scripts did meanwhile, a
draw of it is an invocation of that entry point and no search for one. -/
theorem artifact_iff_no_errors (hown : program.InOwnText) {cancelAt : Option Nat}
    {c : Compiled σ ν} (hc : ((compile s program r loaded).runFrom cancelAt).1 = .ok c) :
    (c.artifact = none ↔ c.hasErrors = true) ∧
      ∀ a, c.artifact = some a → ∃ entry, program.parse.ended = .ok a.tree ∧
        entryPoint? a.tree = some entry ∧ a.resolution = .found entry ∧
        ∀ (engine : Engine σ ν) (qs : List (DrawRequest σ)) (q : DrawRequest σ),
          (a.after engine qs).resolution = .found entry ∧
            (a.after engine qs).answer engine q =
              ((invoke engine entry (a.after engine qs).binding q.canvas q.width q.height).run
                (q.meanwhile (a.after engine qs).state)).1.2 := by
  have houtcome : compileOutcome s program r loaded = .ok c := by
    rcases (compile_passes s program r loaded).runFrom_eq_or cancelAt with h | h
    · rw [hc] at h; cases h
    · rw [← h, hc]
  unfold compileOutcome at houtcome
  rcases hfound : findingsOf s program r loaded with fault | ⟨findings, tree?⟩
  · rw [hfound] at houtcome; cases houtcome
  rw [hfound] at houtcome
  obtain rfl := Except.ok.inj houtcome
  have hcourse := course_of_findingsOf hfound
  refine ⟨?_, fun a ha => ?_⟩
  · cases tree? with
    | none => exact iff_of_true rfl (hcourse.placed_error hown).hasErrors
    | some tree => exact (hasErrors_ofFindings hcourse.no_error.2).symm
  · obtain ⟨tree, rfl, htree⟩ := ofTree?_of_artifact ha
    obtain ⟨entry, hentry, rfl⟩ := Artifact.ofTree?_eq_some_iff.mp htree
    refine ⟨entry, hcourse.no_error.1, hentry, rfl, fun engine qs q => ?_⟩
    let a : Artifact σ ν := ⟨tree, .found entry, .unbound, program.start⟩
    have hafter : (a.after engine qs).resolution = .found entry := Artifact.after_resolution rfl qs
    exact ⟨hafter, Artifact.answer_of_found hafter q⟩

/-! ## A text with findings that are no errors -/

/-- A script that imports a module and does not read it. -/
def Node.idle : Node :=
  .mk .unknown (.module [
    .mk ⟨some 1, some 0, some 1, some 11⟩
      (.importModules [.mk .unknown (.importedName "math" none)]),
    .drawDefinition 2])

/-- Parsing warns of the script, and its code is generated. -/
def Program.warned : Program Unit where
  parse := ⟨[⟨"DeprecationWarning", "invalid escape sequence '\\d'", 3, unitFile⟩], .ok .idle⟩
  emit := ⟨[], .ok ()⟩
  start := ()

/-- Its text. -/
def Source.warned : Source :=
  .ofString "import math\ndef Draw(canvas, width, height):\n    '\\d'\n"

/-- The warning is shown and the import is not; there is an artifact and no error. -/
theorem artifact_of_warned :
    Program.warned.InOwnText ∧ ∃ c : Compiled Unit Unit,
      ((compile .warned .warned ⟨[⟨"math", "math", []⟩]⟩ ⟨[], []⟩).runFrom none).1 = .ok c ∧
        c.diagnostics.map Diagnostic.severity = [.warning] ∧ c.artifact ≠ none ∧
        c.hasErrors ≠ true := by
  have hown : Program.warned.InOwnText := ⟨nofun, nofun⟩
  have hcompiled : ((compile .warned .warned ⟨[⟨"math", "math", []⟩]⟩ ⟨[], []⟩ :
      Checked (Compiled Unit Unit)).runFrom none).1.toOption.map
        (fun c => (c.diagnostics.map Diagnostic.severity, c.artifact.isSome)) =
          some ([.warning], true) := by decide +kernel
  obtain ⟨c, hc, hparts⟩ := exists_ok_of_map hcompiled
  obtain ⟨hseverities, hsome⟩ := Prod.mk.inj hparts
  have hartifact : c.artifact ≠ none := Option.isSome_iff_ne_none.mp hsome
  have hverdict := (artifact_iff_no_errors hown hc).1
  exact ⟨hown, c, hc, hseverities, hartifact, mt hverdict.mpr hartifact⟩

end LiveSketch

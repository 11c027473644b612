import LiveSketch.Proofs.Compile.Shown
import LiveSketch.Proofs.Diagnostic.Order
import LiveSketch.Proofs.Diagnostic.Place

/-!
# The account of a compile

The diagnostics of a result account for all that its compile found: every finding that readers see
is there once, in its place in the text, and nothing else but at most one error of a missing entry
point.

1. `Produced` lists what each phase found, in the order of the phases; every course of a compile
   collects just that (`Course.produced`).
2. The findings that are shown are those of parsing, then of the imports, then of the names, then of
   code generation (`Produced.filter_isShown`).
3. Sorting arranges them by severity and start, and keeps those with one key as they stand
   (`filter_key_sortDiagnostics`).
-/

namespace LiveSketch

variable {σ ν : Type} {s : Source} {program : Program σ} {r : References} {loaded : Loaded}

/-! ## What the phases produce -/

/-- What each phase of a compile found: parsing; the imports that will be refused, the names that
nothing defines and the imports that nothing reads, of the tree if there is one; and code
generation, if it comes to that. -/
structure Produced (s : Source) (program : Program σ) (r : References) (loaded : Loaded)
    (parsed imports names idle emitted : List Finding) : Prop where
  tree : ∃ tree?, parseFindings s program.parse = .ok (parsed, tree?) ∧
    imports = tree?.elim [] (Node.refusedImports s r loaded.modules) ∧
    names = tree?.elim [] (Node.undefinedNames s loaded.builtins) ∧
    idle = tree?.elim [] (Node.idleImports s)
  code : (reachesEmit s program r loaded = false ∧ emitted = []) ∨
    (reachesEmit s program r loaded = true ∧
      ∃ hasCode, emitFindings s program.emit = .ok (emitted, hasCode))

theorem Produced.of_no_tree {b : Breakdown} {parsed : List Finding}
    (ended : program.parse.ended = .error b)
    (found : parseFindings s program.parse = .ok (parsed, none)) :
    Produced s program r loaded parsed [] [] [] [] := by
  refine ⟨⟨none, found, rfl, rfl, rfl⟩, .inl ⟨?_, rfl⟩⟩
  rw [← Bool.not_eq_true, reachesEmit_iff_objections]
  rintro ⟨tree, parsed, -⟩
  rw [ended] at parsed
  cases parsed

/-- A tree, whose findings are those of its analysis in three parts. -/
theorem Produced.of_tree {tree : Node} {emitted : List Finding}
    (ended : program.parse.ended = .ok tree)
    (code : (tree.objections s r loaded ≠ [] ∧ emitted = []) ∨
      (tree.objections s r loaded = [] ∧
        ∃ hasCode, emitFindings s program.emit = .ok (emitted, hasCode))) :
    Produced s program r loaded (warningFindings program.parse.warnings s)
      (tree.refusedImports s r loaded.modules) (tree.undefinedNames s loaded.builtins)
      (tree.idleImports s) emitted := by
  have hreach : reachesEmit s program r loaded = true ↔ tree.objections s r loaded = [] := by
    rw [reachesEmit_iff_objections, ended]
    simp
  refine ⟨⟨some tree, parseFindings_of_tree ended, rfl, rfl, rfl⟩, ?_⟩
  rw [← Bool.not_eq_true, hreach]
  exact code

/-- What a compile collects is what its phases produced, in their order. -/
theorem Course.produced {findings : List Finding} {tree? : Option Node}
    (h : Course s program r loaded findings tree?) :
    ∃ parsed imports names idle emitted,
      Produced s program r loaded parsed imports names idle emitted ∧
        findings = parsed ++ (imports ++ names ++ idle) ++ emitted := by
  cases h with
  | malformedText ended =>
    have hfound := by simpa [ended] using parseFindings.eq_def s program.parse
    exact ⟨_, _, _, _, _, .of_no_tree ended hfound, by simp⟩
  | badValue ended said =>
    have hfound := by simpa [ended, said, Except.map] using parseFindings.eq_def s program.parse
    exact ⟨_, _, _, _, _, .of_no_tree ended hfound, by simp⟩
  | refusedTree ended refused =>
    refine ⟨_, _, _, _, _, .of_tree ended (.inl ⟨fun hclean => ?_, rfl⟩), (List.append_nil _).symm⟩
    rw [anyError_analysedFindings.mpr hclean] at refused
    cases refused
  | malformedCode ended clean emitEnded =>
    have hfound := by simpa [emitEnded] using emitFindings.eq_def s program.emit
    have hclean := anyError_analysedFindings.mp clean
    exact ⟨_, _, _, _, _, .of_tree ended (.inr ⟨hclean, false, hfound⟩), rfl⟩
  | passed ended clean emitEnded =>
    have hfound := by simpa [emitEnded] using emitFindings.eq_def s program.emit
    have hclean := anyError_analysedFindings.mp clean
    exact ⟨_, _, _, _, _, .of_tree ended (.inr ⟨hclean, true, hfound⟩), rfl⟩

namespace Produced

variable {parsed imports names idle emitted : List Finding}

theorem isShown_of_mem_idle (h : Produced s program r loaded parsed imports names idle emitted)
    {f : Finding} (hf : f ∈ idle) : f.isShown = false := by
  obtain ⟨tree?, -, -, -, rfl⟩ := h.tree
  cases tree? with
  | none => cases hf
  | some tree => exact Finding.isShown_of_hidden (Node.of_mem_idleImports hf).2

theorem filter_isShown (h : Produced s program r loaded parsed imports names idle emitted) :
    (parsed ++ (imports ++ names ++ idle) ++ emitted).filter Finding.isShown =
      (parsed ++ imports ++ names ++ emitted).filter Finding.isShown := by
  have hidle : idle.filter Finding.isShown = [] :=
    List.filter_eq_nil_iff.mpr fun f hf => by rw [h.isShown_of_mem_idle hf]; nofun
  simp only [List.filter_append, hidle, List.append_assoc, List.nil_append]

end Produced

/-! ## The account -/

/-- There is code for the text, but no entry point in it. -/
def LacksEntry (s : Source) (program : Program σ) (r : References) (loaded : Loaded) : Prop :=
  ∃ tree, program.parse.ended = .ok tree ∧ tree.objections s r loaded = [] ∧
    program.emit.ended = .ok () ∧ entryPoint? tree = none

theorem Course.missingEntry_eq {findings : List Finding} {tree? : Option Node}
    (h : Course s program r loaded findings tree?) :
    (LacksEntry s program r loaded ∧ missingEntry tree? = [entryMissing]) ∨
      (¬ LacksEntry s program r loaded ∧ missingEntry tree? = []) := by
  cases h with
  | malformedText ended | badValue ended =>
    refine .inr ⟨?_, rfl⟩
    rintro ⟨tree, parsed, -⟩
    rw [ended] at parsed
    cases parsed
  | refusedTree ended refused =>
    refine .inr ⟨?_, rfl⟩
    rintro ⟨tree, parsed, clean, -⟩
    obtain rfl := Except.ok.inj (ended.symm.trans parsed)
    rw [anyError_analysedFindings.mpr clean] at refused
    cases refused
  | malformedCode ended clean emitEnded =>
    refine .inr ⟨?_, rfl⟩
    rintro ⟨tree, -, -, emitted, -⟩
    rw [emitEnded] at emitted
    cases emitted
  | @passed tree ended clean emitEnded =>
    cases hentry : entryPoint? tree with
    | none =>
      exact .inl ⟨⟨tree, ended, anyError_analysedFindings.mp clean, emitEnded, hentry⟩,
        by simp [missingEntry, hentry]⟩
    | some entry =>
      refine .inr ⟨?_, by simp [missingEntry, hentry]⟩
      rintro ⟨tree', parsed, -, -, hnone⟩
      obtain rfl := Except.ok.inj (ended.symm.trans parsed)
      rw [hentry] at hnone
      cases hnone

/-- The diagnostics of a result account for what its compile found. -/
structure Account (s : Source) (program : Program σ) (r : References) (loaded : Loaded)
    (c : Compiled σ ν) (parsed imports names idle emitted : List Finding)
    (missing : List Diagnostic) : Prop where
  /-- The phases produced these findings in this order, and nothing else is collected. -/
  produced : Produced s program r loaded parsed imports names idle emitted
  collected : ∃ tree?, ((collectFindings s program r loaded).runFrom none).1 =
    .ok (parsed ++ (imports ++ names ++ idle) ++ emitted, tree?)
  /-- Readers see no import that nothing reads. -/
  hidden : ∀ f ∈ idle, f.isShown = false
  /-- One error without a place is added for code that lacks an entry point. -/
  lacking : (LacksEntry s program r loaded ∧ missing = [⟨.error, entryMissingWords, 0, 0, 0⟩]) ∨
    (¬ LacksEntry s program r loaded ∧ missing = [])
  /-- Every finding that readers see is there once, and nothing else but that error. -/
  once : c.diagnostics.Perm (((parsed ++ imports ++ names ++ emitted).filter Finding.isShown).map
    (Finding.locate · s) ++ missing)
  /-- All but that error stand in the text. -/
  placed : ∀ d ∈ c.diagnostics, d.InText s ∨ d ∈ missing
  /-- Errors come first, then warnings, then information, each by their starts. -/
  graded : ∀ d ∈ c.diagnostics, d.severity = .error ∨ d.severity = .warning ∨ d.severity = .info
  ordered : c.diagnostics.Pairwise fun d e => d.severity.rank < e.severity.rank ∨
    (d.severity.rank = e.severity.rank ∧ d.start ≤ e.start)
  /-- Where these are the same, the order is that in which the findings were produced. -/
  stable : ∀ k, c.diagnostics.filter (·.key = k) =
    (((parsed ++ imports ++ names ++ emitted).filter Finding.isShown).map
      (Finding.locate · s) ++ missing).filter (·.key = k)

theorem Finding.severity_of_isShown {f : Finding} (h : f.isShown = true) :
    (f.locate s).severity = .error ∨ (f.locate s).severity = .warning ∨
      (f.locate s).severity = .info := by
  have hlevel : f.level = .error ∨ f.level = .warning ∨ f.level = .info := by
    simpa [or_assoc] using (Bool.and_eq_true_iff.mp h).2
  show f.level.severity = .error ∨ f.level.severity = .warning ∨ f.level.severity = .info
  rcases hlevel with h | h | h <;> rw [h]
  · exact .inl rfl
  · exact .inr (.inl rfl)
  · exact .inr (.inr rfl)

/-- **Every finding once, in its place and in order.** The diagnostics of every result account for
what its compile found. -/
theorem findings_accounted_for {cancelAt : Option Nat} {c : Compiled σ ν}
    (hc : ((compile s program r loaded).runFrom cancelAt).1 = .ok c) :
    ∃ parsed imports names idle emitted missing,
      Account s program r loaded c parsed imports names idle emitted missing := by
  obtain ⟨findings, tree?, hfound, hcourse, rfl⟩ := exists_course hc
  obtain ⟨parsed, imports, names, idle, emitted, hproduced, rfl⟩ := hcourse.produced
  have hcollected := (collectFindings_passes s program r loaded).runFrom_none
  rw [hfound] at hcollected
  have hsorted : (Compiled.ofFindings s program.start
      (parsed ++ (imports ++ names ++ idle) ++ emitted) tree? : Compiled σ ν).diagnostics =
        sortDiagnostics (((parsed ++ imports ++ names ++ emitted).filter Finding.isShown).map
          (Finding.locate · s) ++ missingEntry tree?) := by
    rw [ofFindings_diagnostics, diagnosticsOf_eq, hproduced.filter_isShown]
  have hmem : ∀ d ∈ (Compiled.ofFindings s program.start
      (parsed ++ (imports ++ names ++ idle) ++ emitted) tree? : Compiled σ ν).diagnostics,
      (∃ f : Finding, f.isShown = true ∧ f.locate s = d) ∨ d ∈ missingEntry tree? := by
    intro d hd
    rw [hsorted, (sortDiagnostics_perm _).mem_iff, List.mem_append, List.mem_map] at hd
    exact hd.imp_left fun ⟨f, hf, hd⟩ => ⟨f, (List.mem_filter.mp hf).2, hd⟩
  refine ⟨parsed, imports, names, idle, emitted, missingEntry tree?, {
    produced := hproduced
    collected := ⟨tree?, hcollected⟩
    hidden := fun f hf => hproduced.isShown_of_mem_idle hf
    lacking := hcourse.missingEntry_eq
    once := hsorted ▸ sortDiagnostics_perm _
    placed := fun d hd => (hmem d hd).imp_left ?_
    graded := fun d hd => (hmem d hd).elim ?_ fun hmissing => .inl ?_
    ordered := hsorted ▸ (sortDiagnostics_pairwise _).imp Diagnostic.precedes_iff.mp
    stable := fun k => hsorted ▸ filter_key_sortDiagnostics k _ }⟩
  · rintro ⟨f, -, rfl⟩
    exact f.locate_inText s
  · rintro ⟨f, hf, rfl⟩
    exact Finding.severity_of_isShown hf
  · rcases hcourse.missingEntry_eq with ⟨-, h⟩ | ⟨-, h⟩ <;> rw [h] at hmissing
    · rw [List.mem_singleton.mp hmissing]
      rfl
    · cases hmissing

/-! ## Warnings from anywhere -/

/-- A script that only makes an import which it may make and does not read. -/
def Node.astray : Node :=
  .mk .unknown (.module [
    .mk ⟨some 0, some (-3), none, some 90⟩ (.importModules [
      .mk .unknown (.importedName "math" none)])])

/-- Both phases warn of it, at lines that it does not have and of another file too. -/
def Program.astray : Program Unit where
  parse := ⟨[⟨"SyntaxWarning", "invalid escape sequence", 90, unitFile⟩,
    ⟨"SyntaxWarning", "invalid decimal literal", 1, unitFile⟩,
    ⟨"SyntaxWarning", "not of this text", 1, "other.py"⟩], .ok .astray⟩
  emit := ⟨[⟨"SyntaxWarning", "assertion is always true", -4, unitFile⟩], .ok ()⟩
  start := ()

/-- Its text. -/
def Source.astray : Source := .ofString "import math\n"

/-- The missing entry point comes first; the two warnings at the start stand as they were found, and
the one past the end of the text stands there. -/
theorem findings_of_astray : ∃ c : Compiled Unit Unit,
    ((compile .astray .astray ⟨[⟨"math", "math", []⟩]⟩ ⟨[], []⟩).runFrom none).1 = .ok c ∧
      c.diagnostics = [⟨.error, entryMissingWords, 0, 0, 0⟩,
        ⟨.warning, "warning W0001: invalid decimal literal", 0, 11, 1⟩,
        ⟨.warning, "warning W0001: assertion is always true", 0, 11, 1⟩,
        ⟨.warning, "warning W0001: invalid escape sequence", 12, 12, 2⟩] ∧
      ∃ parsed imports names idle emitted missing,
        Account .astray .astray ⟨[⟨"math", "math", []⟩]⟩ ⟨[], []⟩ c parsed imports names idle emitted
          missing := by
  have hlisted : (findingsOf .astray .astray ⟨[⟨"math", "math", []⟩]⟩ ⟨[], []⟩).toOption.map
      (fun found => diagnosticsOf .astray found.1 ++ missingEntry found.2) =
        some [⟨.warning, "warning W0001: invalid escape sequence", 12, 12, 2⟩,
          ⟨.warning, "warning W0001: invalid decimal literal", 0, 11, 1⟩,
          ⟨.warning, "warning W0001: assertion is always true", 0, 11, 1⟩,
          ⟨.error, entryMissingWords, 0, 0, 0⟩] := by decide +kernel
  obtain ⟨⟨findings, tree?⟩, hfound, hshown⟩ := exists_ok_of_map hlisted
  have hc : ((compile .astray .astray ⟨[⟨"math", "math", []⟩]⟩ ⟨[], []⟩ :
      Checked (Compiled Unit Unit)).runFrom none).1 = _ := runFrom_none_of_findingsOf .astray hfound
  refine ⟨_, hc, ?_, findings_accounted_for hc⟩
  rw [ofFindings_diagnostics, hshown]
  simp only [sortDiagnostics_cons, sortDiagnostics_nil]
  rfl

end LiveSketch

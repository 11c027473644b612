import LiveSketch.Analysis.Basic

/-!
# What the analysis reports

Every finding of the analysis has a place in the script's own text. A refused import and a name that
nothing defines are errors; an import that nothing reads is hidden.
-/

namespace LiveSketch

variable {s : Source} {r : References} {modules builtins : List String} {loaded : Loaded}
  {tree n : Node} {f : Finding}

namespace Node

/-! ## One node -/

theorem exists_of_mem_importFindings (h : f ∈ n.importFindings s r modules) :
    ∃ span code text, f = findingAt s span code .error text ∧ (code = "E0401" ∨ code = "E0402") := by
  unfold importFindings at h
  split at h
  · obtain ⟨⟨span, name, asName⟩, -, ha⟩ := List.mem_filterMap.mp h
    dsimp only at ha
    split at ha
    · cases ha
    · exact ⟨_, _, _, (Option.some.inj ha).symm, .inl rfl⟩
  · split at h
    · exact ⟨_, _, _, List.mem_singleton.mp h, .inr rfl⟩
    · dsimp only at h
      split at h
      · exact ⟨_, _, _, List.mem_singleton.mp h, .inl rfl⟩
      · obtain ⟨⟨span, name, asName⟩, -, ha⟩ := List.mem_filterMap.mp h
        dsimp only at ha
        split at ha
        · exact ⟨_, _, _, (Option.some.inj ha).symm, .inl rfl⟩
        · cases ha
  · cases h

theorem of_mem_importFindings (h : f ∈ n.importFindings s r modules) :
    f.inSource = true ∧ f.level = .error := by
  obtain ⟨span, code, text, rfl, -⟩ := exists_of_mem_importFindings h
  exact ⟨rfl, rfl⟩

/-- A finding about the name that a node reads is an error with a place. -/
theorem of_mem_unknownNames {known : List String} (h : f ∈ n.unknownNames s known) :
    f.inSource = true ∧ f.level = .error := by
  unfold unknownNames at h
  split at h
  · split at h
    · cases h
    · rw [List.mem_singleton.mp h]
      exact ⟨rfl, rfl⟩
  · cases h

/-- A finding about an import that nothing reads is hidden, at some span. -/
theorem exists_of_mem_unusedImports {used : List String} (h : f ∈ n.unusedImports s used) :
    ∃ span text, f = findingAt s span "W0611" .hidden text := by
  have hnamed : ∀ names : List Node, f ∈ (aliases names).filterMap (fun a =>
      let bound := importedAs a.2.1 a.2.2
      if bound == "*" || used.contains bound then none
      else some (findingAt s (a.1.orElse n.span) "W0611" .hidden
        ("'" ++ a.2.1 ++ "' imported but unused"))) →
      ∃ span text, f = findingAt s span "W0611" .hidden text := by
    intro names hf
    obtain ⟨a, -, ha⟩ := List.mem_filterMap.mp hf
    dsimp only at ha
    split at ha
    · cases ha
    · exact ⟨_, _, (Option.some.inj ha).symm⟩
  unfold unusedImports at h
  split at h
  · exact hnamed _ h
  · exact hnamed _ h
  · cases h

theorem of_mem_unusedImports {used : List String} (h : f ∈ n.unusedImports s used) :
    f.inSource = true ∧ f.level = .hidden := by
  obtain ⟨span, text, rfl⟩ := exists_of_mem_unusedImports h
  exact ⟨rfl, rfl⟩

/-! ## A whole tree -/

theorem of_mem_refusedImports (h : f ∈ tree.refusedImports s r modules) :
    f.inSource = true ∧ f.level = .error := by
  obtain ⟨n, -, hn⟩ := List.mem_flatMap.mp h
  exact of_mem_importFindings hn

theorem of_mem_undefinedNames (h : f ∈ tree.undefinedNames s builtins) :
    f.inSource = true ∧ f.level = .error := by
  unfold undefinedNames at h
  split at h
  · cases h
  · obtain ⟨n, -, hn⟩ := List.mem_flatMap.mp h
    exact of_mem_unknownNames hn

theorem of_mem_idleImports (h : f ∈ tree.idleImports s) :
    f.inSource = true ∧ f.level = .hidden := by
  obtain ⟨n, -, hn⟩ := List.mem_flatMap.mp h
  exact of_mem_unusedImports hn

theorem inSource_of_mem_analyze (h : f ∈ tree.analyze s r loaded) : f.inSource = true := by
  unfold analyze at h
  rcases List.mem_append.mp h with h | h
  · rcases List.mem_append.mp h with h | h
    · exact (of_mem_refusedImports h).1
    · exact (of_mem_undefinedNames h).1
  · exact (of_mem_idleImports h).1

end Node

end LiveSketch

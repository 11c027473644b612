import LiveSketch.Compile.Flow
import LiveSketch.Proofs.Analysis.Findings
import LiveSketch.Proofs.Imports.Confined.Statement

/-!
# The analysis and a running script agree on imports

Whether a script may import a module is decided twice: by the analysis, which reads the tree, and
when the code of the import asks for the module. The two give one verdict on every import whose
module is asked for by the name that is written (`ImportItem.Agrees`).

They part on private names. In the body of a class a name that starts with two underscores is asked
for under the name it has in the class, while the analysis takes every name as it is written.
-/

namespace LiveSketch

open Script

variable {s : Source} {r : References} {loaded running : List String} {n : Node} {i : ImportItem}

/-! ## References -/

theorem References.get?_eq_none_iff {name : String} :
    r.get? name = none ↔ r.contains name = false := by
  unfold References.get? References.contains
  simp only [List.find?_eq_none, List.mem_reverse, List.any_eq_false]

/-! ## Reports -/

namespace ImportItem

/-- The name under which a member of the module would be a module itself. -/
def memberName (i : ImportItem) (name : String) : String := i.module ++ "." ++ name

def relativeImport (s : Source) (span : Span) : Finding :=
  findingAt s span "E0402" .error "Relative imports are not supported in drawing scripts"

/-- A member is a loaded module that scripts may not see. -/
def hidesMember (r : References) (loaded : List String) (i : ImportItem) (name : String) : Bool :=
  loaded.contains (i.memberName name) && !r.contains (i.memberName name)

def report (s : Source) (r : References) (loaded : List String) (i : ImportItem) : List Finding :=
  if i.level ≠ 0 then [relativeImport s i.span]
  else if !r.contains i.module then [unavailableImport s i.span i.module]
  else (i.members.filter fun m => i.hidesMember r loaded m.2).map fun m =>
    unavailableImport s m.1 (i.memberName m.2)

theorem report_of_level (h : i.level ≠ 0) : i.report s r loaded = [relativeImport s i.span] :=
  if_pos h

theorem report_of_absent (h : i.level = 0) (hr : r.contains i.module = false) :
    i.report s r loaded = [unavailableImport s i.span i.module] := by
  rw [report, if_neg (not_not_intro h), hr]
  rfl

theorem report_of_present (h : i.level = 0) (hr : r.contains i.module = true) :
    i.report s r loaded = (i.members.filter fun m => i.hidesMember r loaded m.2).map fun m =>
      unavailableImport s m.1 (i.memberName m.2) := by
  rw [report, if_neg (not_not_intro h), hr]
  rfl

theorem memberName_ne (i : ImportItem) (name : String) : i.memberName name ≠ i.module := by
  intro h
  have hlength := congrArg String.length h
  simp only [memberName, String.length_append] at hlength
  have hdot : ".".length = 1 := rfl
  omega

end ImportItem

/-- A finding about an unavailable module tells which module it is about. -/
theorem unavailableImport_inj {span span' : Span} {a b : String}
    (h : unavailableImport s span a = unavailableImport s span' b) : a = b :=
  (String.append_right_inj _).mp ((String.append_left_inj _).mp (congrArg Finding.text h))

theorem Node.importFindings_eq (n : Node) :
    n.importFindings s r loaded = n.imports.flatMap (ImportItem.report s r loaded) := by
  unfold importFindings imports
  cases n.form with
  | importModules names =>
    dsimp only
    induction aliases names with
    | nil => rfl
    | cons a as ih =>
      rw [List.filterMap_cons, List.map_cons, List.flatMap_cons, ← ih]
      unfold ImportItem.report
      cases r.contains a.2.1 <;> rfl
  | importFrom module names level =>
    dsimp only
    rw [List.flatMap_singleton]
    unfold ImportItem.report
    dsimp only
    by_cases hlevel : level.getD 0 ≠ 0
    · rw [if_pos hlevel, if_pos hlevel]
      rfl
    · rw [if_neg hlevel, if_neg hlevel]
      congr 1
      rw [← List.filterMap_eq_filter, List.map_filterMap, List.filterMap_map]
      refine List.filterMap_congr fun a _ => ?_
      dsimp only [Function.comp, Option.guard, ImportItem.hidesMember, ImportItem.memberName]
      rw [apply_ite (Option.map _)]
      rfl
  | _ => rfl

/-! ## Answers -/

namespace References

variable {q : ImportRequest}

theorem serve_of_level (h : q.level ≠ 0) : r.serve running q = .error .relative := if_pos h

theorem serve_of_absent (h : q.level = 0) (hr : r.contains q.name = false) :
    r.serve running q = .error (.unavailable q.name) := by
  rw [serve, if_neg (not_not_intro h), get?_eq_none_iff.mpr hr]

theorem serve_of_present (h : q.level = 0) (hr : r.contains q.name = true)
    {refusal : ImportRefusal} (hrefused : r.serve running q = .error refusal) :
    ∃ member, refusal = .noMember member q.name := by
  rw [serve, if_neg (not_not_intro h)] at hrefused
  cases hget : r.get? q.name with
  | none => rw [get?_eq_none_iff.mp hget] at hr; cases hr
  | some m =>
    rw [hget] at hrefused
    dsimp only at hrefused
    split at hrefused
    · cases hrefused
    · split at hrefused
      · rename_i member _
        exact ⟨member, (Except.error.inj hrefused).symm⟩
      · cases hrefused

end References

/-! ## Agreement -/

namespace ImportItem

/-- What the analysis reports of an import goes with how a running script is answered that asks for
it. -/
structure Agrees (s : Source) (r : References) (loaded : List String) (i : ImportItem)
    (answer : Except ImportRefusal String) : Prop where
  /-- An import that goes up is reported once, and refused for going up. -/
  relative : i.level ≠ 0 →
    i.report s r loaded = [relativeImport s i.span] ∧ answer = .error .relative
  /-- No other import is refused for going up. -/
  notRelative : i.level = 0 → answer ≠ .error .relative
  /-- It is refused as unavailable, under the name that is written, exactly if its module is
  reported. -/
  unavailable : i.level = 0 → ∀ name, answer = .error (.unavailable name) ↔
    name = i.module ∧ unavailableImport s i.span i.module ∈ i.report s r loaded
  /-- Then nothing else is reported. -/
  alone : i.level = 0 → unavailableImport s i.span i.module ∈ i.report s r loaded →
    i.report s r loaded = [unavailableImport s i.span i.module]
  /-- Otherwise the members are reported that are loaded modules but no references. -/
  members : i.level = 0 → unavailableImport s i.span i.module ∉ i.report s r loaded →
    i.report s r loaded = (i.members.filter fun m =>
      loaded.contains (i.module ++ "." ++ m.2) && !r.contains (i.module ++ "." ++ m.2)).map fun m =>
        unavailableImport s m.1 (i.module ++ "." ++ m.2)

theorem mem_report_iff (h : i.level = 0) :
    unavailableImport s i.span i.module ∈ i.report s r loaded ↔ r.contains i.module = false := by
  cases hr : r.contains i.module with
  | false =>
    rw [report_of_absent h hr]
    exact iff_of_true List.mem_cons_self rfl
  | true =>
    refine iff_of_false (fun hmem => ?_) fun hr => Bool.false_ne_true hr.symm
    rw [report_of_present h hr] at hmem
    obtain ⟨m, -, hm⟩ := List.mem_map.mp hmem
    exact i.memberName_ne m.2 (unavailableImport_inj hm)

variable {answer : Except ImportRefusal String}

theorem agrees_of_level (h : i.level ≠ 0) (hanswer : answer = .error .relative) :
    i.Agrees s r loaded answer where
  relative _ := ⟨report_of_level h, hanswer⟩
  notRelative h' := absurd h' h
  unavailable h' := absurd h' h
  alone h' := absurd h' h
  members h' := absurd h' h

theorem agrees_of_absent (h : i.level = 0) (hr : r.contains i.module = false)
    (hanswer : answer = .error (.unavailable i.module)) : i.Agrees s r loaded answer where
  relative h' := absurd h h'
  notRelative _ hrelative := by rw [hanswer] at hrelative; cases hrelative
  unavailable _ name := by
    rw [mem_report_iff h, hanswer, Except.error.injEq, ImportRefusal.unavailable.injEq]
    exact ⟨fun hname => ⟨hname.symm, hr⟩, fun hname => hname.1.symm⟩
  alone _ _ := report_of_absent h hr
  members _ hmem := absurd ((mem_report_iff h).mpr hr) hmem

theorem agrees_of_present (h : i.level = 0) (hr : r.contains i.module = true)
    (hanswer : ∀ refusal, answer = .error refusal → ∃ member, refusal = .noMember member i.module) :
    i.Agrees s r loaded answer where
  relative h' := absurd h h'
  notRelative _ hrelative := by obtain ⟨_, hmember⟩ := hanswer _ hrelative; cases hmember
  unavailable _ name := by
    rw [mem_report_iff h, hr]
    refine iff_of_false (fun hname => ?_) fun hname => Bool.false_ne_true hname.2.symm
    obtain ⟨_, hmember⟩ := hanswer _ hname
    cases hmember
  alone _ hmem := by rw [mem_report_iff h, hr] at hmem; cases hmem
  members _ _ := report_of_present h hr

/-- The verdicts agree where the module is asked for as it is written, and wherever the import goes
up. -/
theorem agrees_serve {owner : Option String} (h : i.level ≠ 0 ∨ i.AskedAsWritten owner) :
    i.Agrees s r loaded (r.serve running (i.request owner)) := by
  by_cases hlevel : i.level = 0
  · have hname : (i.request owner).name = i.module := h.resolve_left (not_not_intro hlevel)
    cases hr : r.contains i.module with
    | false =>
      refine agrees_of_absent hlevel hr ?_
      rw [← hname] at hr ⊢
      exact References.serve_of_absent hlevel hr
    | true =>
      refine agrees_of_present hlevel hr fun refusal hrefused => ?_
      rw [← hname] at hr ⊢
      exact References.serve_of_present hlevel hr hrefused
  · exact agrees_of_level hlevel (References.serve_of_level hlevel)

theorem Agrees.noMember_of_accepted (h : i.Agrees s r loaded answer)
    (haccepted : i.report s r loaded = []) {refusal : ImportRefusal}
    (hrefused : answer = .error refusal) : ∃ member module, refusal = .noMember member module := by
  have hlevel : i.level = 0 := by
    by_contra hne
    rw [(h.relative hne).1] at haccepted
    cases haccepted
  cases refusal with
  | relative => exact absurd hrefused (h.notRelative hlevel)
  | unavailable name =>
    have hmem := ((h.unavailable hlevel name).mp hrefused).2
    rw [haccepted] at hmem
    cases hmem
  | noMember member module => exact ⟨member, module, rfl⟩

end ImportItem

/-! ## A whole script -/

theorem Node.refusedImports_eq (owner : Option String) (tree : Node) :
    tree.refusedImports s r loaded =
      (tree.sites owner).flatMap fun p => p.2.imports.flatMap (ImportItem.report s r loaded) := by
  unfold refusedImports
  rw [← map_snd_sites owner tree, List.flatMap_map]
  exact List.flatMap_congr fun p _ => importFindings_eq p.2

theorem ImportItem.report_eq_nil {loaded : Loaded} {tree : Node} {owner : Option String}
    {p : Option String × Node} (h : anyError (tree.analyze s r loaded) = false)
    (hp : p ∈ tree.sites owner) (hi : i ∈ p.2.imports) : i.report s r loaded.modules = [] := by
  rw [List.eq_nil_iff_forall_not_mem]
  intro f hf
  have hrefused : f ∈ tree.refusedImports s r loaded.modules := by
    rw [Node.refusedImports_eq owner]
    exact List.mem_flatMap.mpr ⟨p, hp, List.mem_flatMap.mpr ⟨i, hi, hf⟩⟩
  have hfound : f ∈ tree.analyze s r loaded :=
    List.mem_append_left _ (List.mem_append_left _ hrefused)
  have herror : anyError (tree.analyze s r loaded) = true :=
    List.any_eq_true.mpr ⟨f, hfound, beq_iff_eq.mpr (Node.of_mem_refusedImports hrefused).2⟩
  rw [h] at herror
  cases herror

/-- The analysis reports of the imports of a script what it reports of each, wherever it stands, and
nothing else. Code for an import asks for just this import, and no code of the script asks for
another. Where a module is asked for by the name that is written, both verdicts agree; so in a
script without errors no such import is refused for its module or for going up. -/
theorem import_verdicts_agree (tree : Node) (s : Source) (r : References)
    (loaded : Loaded) (running : List String) :
    (tree.refusedImports s r loaded.modules =
      (tree.sites none).flatMap fun p => p.2.imports.flatMap (ImportItem.report s r loaded.modules)) ∧
    (∀ p ∈ tree.sites none, p.2.IsImport → ∀ go, Emit.Asks p.1 (Emit.statement go p.2)
      (p.2.imports.map (ImportItem.request p.1))) ∧
    (∀ (before : Array Code) (scope : Scope) (file : String),
      ∀ c ∈ (codesAfter before scope tree file).toList.drop before.size, ∀ q ∈ c.requests,
        ∃ p ∈ tree.sites none, ∃ i ∈ p.2.imports, q = i.request p.1) ∧
    (∀ p ∈ tree.sites none, ∀ i ∈ p.2.imports, i.level ≠ 0 ∨ i.AskedAsWritten p.1 →
      i.Agrees s r loaded.modules (r.serve running (i.request p.1))) ∧
    (anyError (tree.analyze s r loaded) = false →
      ∀ p ∈ tree.sites none, ∀ i ∈ p.2.imports, i.AskedAsWritten p.1 → ∀ refusal,
        r.serve running (i.request p.1) = .error refusal →
          ∃ member module, refusal = .noMember member module) := by
  refine ⟨Node.refusedImports_eq none tree, fun p _ himport go => ?_,
    fun before scope file c hc q hq => ?_, fun p _ i _ hi => ?_,
    fun haccepted p hp i hi hwritten refusal hrefused => ?_⟩
  · exact Emit.asks_statement himport go
  · exact request_of_mem_codesAfter hc hq
  · exact ImportItem.agrees_serve hi
  · have hagrees : i.Agrees s r loaded.modules (r.serve running (i.request p.1)) :=
      ImportItem.agrees_serve (.inr hwritten)
    exact hagrees.noMember_of_accepted (ImportItem.report_eq_nil haccepted hp hi) hrefused

/-! ## Private names -/

/-- An import of a module whose name has two underscores in front. -/
def Node.importFoo : Node :=
  .mk ⟨some 2, some 4, some 2, some 16⟩
    (.importModules [.mk ⟨some 2, some 11, some 2, some 16⟩ (.importedName "__foo" none)])

/-- A script with a class that makes this import. -/
def Node.scriptOfFoo : Node :=
  .mk .unknown (.module
    [.mk ⟨some 1, some 0, some 2, some 16⟩ (.classDef "Script" [] [] [importFoo] [] [])])

/-- There the verdicts part: the analysis lets the import pass, a running script is refused. -/
theorem private_import_verdicts_part :
    ¬ ∀ (tree : Node) (s : Source) (r : References) (loaded running : List String),
      ∀ p ∈ tree.sites none, ∀ i ∈ p.2.imports,
        i.Agrees s r loaded (r.serve running (i.request p.1)) := by
  intro h
  have hbody : (some "Script", Node.importFoo) ∈ Node.scriptOfFoo.sites none :=
    Node.mem_sites_of_mem_child List.mem_cons_self
      (Node.mem_sites_of_mem_child List.mem_cons_self (Node.mem_sites_self _ _))
  have hagrees := h .scriptOfFoo (.ofString "") (.ofNames ["__foo"]) [] [] _ hbody
    ⟨⟨some 2, some 11, some 2, some 16⟩, "__foo", [], 0⟩ List.mem_cons_self
  have hrefused := (hagrees.unavailable rfl "_Script__foo").mp (by decide +kernel)
  exact absurd hrefused.1 (by decide)

end LiveSketch

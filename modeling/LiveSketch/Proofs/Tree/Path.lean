import LiveSketch.Tree.Walk
import Mathlib.Data.List.Basic
import Mathlib.Data.List.Lex

/-!
# Paths into a tree

A construct declares fields, and each field holds a row of parts. A path leads down from a node: at
each construct it names a field and a place in its row. Paths in the order of fields and places, each
before those that go on from it, are the order of a walk that goes down first, and the walk
`Node.all` is that one: it comes to the end of every path once, in the order of paths.
-/

namespace LiveSketch

/-! ## Fields -/

namespace Form

variable {α : Type}

/-- The rows of parts that a construct has, one for each field that can hold a part, in the order in
which they are declared. Absent parts leave no gap. -/
def fields : Form α → List (List α)
  | module body => [body]
  | functionDef _ _ args body decorators returns typeParams =>
    [[args], body, decorators, returns.toList, typeParams]
  | classDef _ bases keywords body decorators typeParams =>
    [bases, keywords, body, decorators, typeParams]
  | ret value => [value.toList]
  | delete targets => [targets]
  | assign targets value => [targets, [value]]
  | augAssign target _ value => [[target], [value]]
  | annAssign target declared value _ => [[target], [declared], value.toList]
  | forLoop _ target iter body orelse => [[target], [iter], body, orelse]
  | whileLoop test body orelse => [[test], body, orelse]
  | branch test body orelse => [[test], body, orelse]
  | withBlock _ items body => [items, body]
  | matchOn subject cases => [[subject], cases]
  | raise exc cause => [exc.toList, cause.toList]
  | tryBlock _ body handlers orelse finalbody => [body, handlers, orelse, finalbody]
  | assert test message => [[test], message.toList]
  | importModules names => [names]
  | importFrom _ names _ => [names]
  | typeAlias target typeParams value => [[target], typeParams, [value]]
  | globals _ | nonlocals _ | pass | leaveLoop | nextRound => []
  | expression value => [[value]]
  | connect _ values => [values]
  | namedExpr target value => [[target], [value]]
  | binary left _ right => [[left], [right]]
  | unary _ operand => [[operand]]
  | lambda args body => [[args], [body]]
  | ifExp test body orelse => [[test], [body], [orelse]]
  | dict keys values => [keys.filterMap id, values]
  | set elements => [elements]
  | listComp element generators => [[element], generators]
  | setComp element generators => [[element], generators]
  | dictComp key value generators => [[key], [value], generators]
  | generatorExp element generators => [[element], generators]
  | await value => [[value]]
  | yield value => [value.toList]
  | yieldFrom value => [[value]]
  | compare left _ comparators => [[left], comparators]
  | call func args keywords => [[func], args, keywords]
  | formattedValue value _ spec => [[value], spec.toList]
  | joinedText values => [values]
  | interpolation value _ _ spec => [[value], spec.toList]
  | templateText values => [values]
  | constant _ | name _ _ => []
  | member value _ _ => [[value]]
  | subscript value index _ => [[value], [index]]
  | starred value _ => [[value]]
  | list elements _ => [elements]
  | tuple elements _ => [elements]
  | slice lower upper step => [lower.toList, upper.toList, step.toList]
  | comprehension target iter conditions _ => [[target], [iter], conditions]
  | handler type _ body => [type.toList, body]
  | arguments posOnly positional rest keywordOnly keywordDefaults keywordRest defaults =>
    [posOnly, positional, rest.toList, keywordOnly, keywordDefaults.filterMap id,
      keywordRest.toList, defaults]
  | argument _ declared => [declared.toList]
  | keyword _ value => [[value]]
  | importedName _ _ => []
  | withItem context vars => [[context], vars.toList]
  | matchCase pattern guard body => [[pattern], guard.toList, body]
  | matchValue value => [[value]]
  | matchSingleton _ => []
  | matchSequence patterns => [patterns]
  | matchMapping keys patterns _ => [keys, patterns]
  | matchClass cls patterns _ attributePatterns => [[cls], patterns, attributePatterns]
  | matchStar _ => []
  | matchAs pattern _ => [pattern.toList]
  | matchOr patterns => [patterns]
  | typeVar _ bound fallback => [bound.toList, fallback.toList]
  | paramSpec _ fallback => [fallback.toList]
  | typeVarTuple _ fallback => [fallback.toList]

/-- The parts that a walk visits are those in the fields, field by field. -/
theorem parts_eq_flatten (f : Form α) : f.parts = f.fields.flatten := by
  cases f <;> simp [parts, fields]

end Form

/-- Which part of a construct: its field, and its place in the row there. -/
abbrev Step : Type := Nat × Nat

/-- Fields come one after the other, and places in a field. -/
abbrev Step.Before : Step → Step → Prop := Prod.Lex (· < ·) (· < ·)

namespace Form

variable {α : Type}

def part? (f : Form α) (step : Step) : Option α := f.fields[step.1]?.bind (·[step.2]?)

/-- The parts in the order of fields and places, with the steps to them. -/
def steps (f : Form α) : List (Step × α) :=
  f.fields.zipIdx.flatMap fun row => row.1.zipIdx.map fun entry => ((row.2, entry.2), entry.1)

theorem mem_steps {f : Form α} {step : Step} {a : α} :
    (step, a) ∈ f.steps ↔ f.part? step = some a := by
  obtain ⟨i, j⟩ := step
  unfold steps part?
  simp only [List.mem_flatMap, List.mem_map, Prod.exists, Prod.mk.injEq,
    List.mk_mem_zipIdx_iff_getElem?, Option.bind_eq_some_iff]
  constructor
  · rintro ⟨row, i', hrow, a', j', ha, ⟨rfl, rfl⟩, rfl⟩
    exact ⟨row, hrow, ha⟩
  · rintro ⟨row, hrow, ha⟩
    exact ⟨row, i, hrow, a, j, ha, ⟨rfl, rfl⟩, rfl⟩

theorem map_snd_steps (f : Form α) : f.steps.map Prod.snd = f.parts := by
  have hrow : ∀ row : List α × Nat,
      (row.1.zipIdx.map fun entry => (((row.2, entry.2) : Step), entry.1)).map Prod.snd = row.1 := by
    intro row
    rw [List.map_map]
    exact List.zipIdx_map_fst 0 row.1
  unfold steps
  rw [List.map_flatMap, parts_eq_flatten]
  simp only [hrow]
  rw [List.flatMap_def, List.zipIdx_map_fst]

theorem pairwise_zipIdx {β : Type} (l : List β) : l.zipIdx.Pairwise fun x y => x.2 < y.2 := by
  rw [← List.pairwise_map, List.zipIdx_map_snd]
  exact List.pairwise_lt_range'

theorem pairwise_steps (f : Form α) : f.steps.Pairwise fun x y => x.1.Before y.1 := by
  unfold steps
  rw [List.pairwise_flatMap]
  constructor
  · intro row _
    rw [List.pairwise_map]
    refine (pairwise_zipIdx row.1).imp fun {entry entry'} hlt => ?_
    exact Prod.Lex.right row.2 hlt
  · refine (pairwise_zipIdx f.fields).imp fun {row row'} hlt x hx y hy => ?_
    obtain ⟨entry, -, rfl⟩ := List.mem_map.mp hx
    obtain ⟨entry', -, rfl⟩ := List.mem_map.mp hy
    exact Prod.Lex.left _ _ hlt

end Form

/-! ## Paths -/

/-- A way down from a node. -/
abbrev Path : Type := List Step

/-- The first path goes on to the second, or turns off before it. -/
abbrev Path.Before : Path → Path → Prop := List.Lex Step.Before

namespace Node

def at? (n : Node) : Path → Option Node
  | [] => some n
  | step :: rest => (n.form.part? step).bind fun c => c.at? rest

theorem mem_children_of_mem_steps {n : Node} {c : Step × Node} (h : c ∈ n.form.steps) :
    c.2 ∈ n.children := by
  unfold children
  rw [← Form.map_snd_steps]
  exact List.mem_map_of_mem h

/-- Every node from this one down with the path to it, each before its children. -/
def placed (n : Node) : List (Path × Node) :=
  ([], n) :: n.form.steps.attach.flatMap fun c =>
    c.val.2.placed.map fun m => (c.val.1 :: m.1, m.2)
termination_by sizeOf n
decreasing_by exact sizeOf_lt_of_mem_children (mem_children_of_mem_steps c.property)

theorem placed_eq (n : Node) : n.placed = ([], n) :: n.form.steps.flatMap fun c =>
    c.2.placed.map fun m => (c.1 :: m.1, m.2) := by
  rw [placed]
  congr 1
  calc _ = (n.form.steps.attach.map Subtype.val).flatMap fun c =>
        c.2.placed.map fun m => (c.1 :: m.1, m.2) := (List.flatMap_map _ _ _).symm
    _ = _ := by rw [List.attach_map_subtype_val]

/-- The walk with paths is the walk down first. -/
theorem map_snd_placed (n : Node) : n.placed.map Prod.snd = n.all := by
  have hchild : ∀ c ∈ n.form.steps,
      (c.2.placed.map fun m => (c.1 :: m.1, m.2)).map Prod.snd = c.2.all := by
    intro c hc
    rw [List.map_map]
    exact map_snd_placed c.2
  rw [placed_eq, all_eq, List.map_cons, List.map_flatMap, List.flatMap_congr hchild]
  unfold children
  rw [← Form.map_snd_steps, List.flatMap_map]
termination_by sizeOf n
decreasing_by exact sizeOf_lt_of_mem_children (mem_children_of_mem_steps hc)

theorem mem_placed {n m : Node} {p : Path} : (p, m) ∈ n.placed ↔ n.at? p = some m := by
  induction p generalizing n with
  | nil =>
    rw [placed_eq]
    simp [at?, eq_comm]
  | cons step rest ih =>
    rw [placed_eq, at?, Option.bind_eq_some_iff]
    simp only [List.mem_cons, Prod.mk.injEq, reduceCtorEq, false_and, false_or, List.mem_flatMap,
      List.mem_map]
    constructor
    · rintro ⟨c, hc, ⟨p, m'⟩, hm, hpath, rfl⟩
      obtain ⟨rfl, rfl⟩ := List.cons.inj hpath
      exact ⟨c.2, Form.mem_steps.mp hc, ih.mp hm⟩
    · rintro ⟨c, hc, hm⟩
      exact ⟨(step, c), Form.mem_steps.mpr hc, (rest, m), ih.mpr hm, rfl, rfl⟩

/-- The nodes of a tree are those at the ends of paths. -/
theorem mem_all {n m : Node} : m ∈ n.all ↔ ∃ p, n.at? p = some m := by
  rw [← map_snd_placed, List.mem_map]
  constructor
  · rintro ⟨⟨p, m'⟩, hm, rfl⟩
    exact ⟨p, mem_placed.mp hm⟩
  · rintro ⟨p, hm⟩
    exact ⟨(p, m), mem_placed.mpr hm, rfl⟩

theorem pairwise_placed (n : Node) : n.placed.Pairwise fun x y => x.1.Before y.1 := by
  rw [placed_eq, List.pairwise_cons, List.pairwise_flatMap]
  refine ⟨fun x hx => ?_, fun c hc => ?_, ?_⟩
  · obtain ⟨c, -, hx⟩ := List.mem_flatMap.mp hx
    obtain ⟨m, -, rfl⟩ := List.mem_map.mp hx
    exact List.Lex.nil
  · rw [List.pairwise_map]
    exact (pairwise_placed c.2).imp List.Lex.cons
  · refine n.form.pairwise_steps.imp fun {c c'} hbefore x hx y hy => ?_
    obtain ⟨m, -, rfl⟩ := List.mem_map.mp hx
    obtain ⟨m', -, rfl⟩ := List.mem_map.mp hy
    exact List.Lex.rel hbefore
termination_by sizeOf n
decreasing_by exact sizeOf_lt_of_mem_children (mem_children_of_mem_steps hc)

end Node

end LiveSketch

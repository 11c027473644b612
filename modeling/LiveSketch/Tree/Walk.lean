import LiveSketch.Tree.Node

/-!
# Walks over a tree

Two orders in which every node of a tree is listed: `Node.all` goes down first, `Node.levels` level
by level. Both list the same nodes, each once.
-/

namespace LiveSketch

namespace Form

theorem sizeOf_lt_of_mem_parts {α : Type} [SizeOf α] {f : Form α} {a : α} (h : a ∈ f.parts) :
    sizeOf a < sizeOf f := by
  have hl : ∀ {l : List α}, a ∈ l → sizeOf a < sizeOf l := List.sizeOf_lt_of_mem
  have ho : ∀ {o : Option α}, a ∈ o.toList → sizeOf a < sizeOf o := by
    intro o; cases o <;> simp
    rintro rfl; omega
  have hk : ∀ {l : List (Option α)}, a ∈ l.filterMap id → sizeOf a < sizeOf l := by
    intro l h
    simp only [List.mem_filterMap, id_eq] at h
    obtain ⟨o, hol, rfl⟩ := h
    have := List.sizeOf_lt_of_mem hol
    simp at this ⊢
    omega
  cases f <;> simp only [parts, List.mem_append, List.mem_cons, List.not_mem_nil, or_false] at h <;>
    simp <;> grind

end Form

namespace Node

theorem sizeOf_lt_of_mem_children {c n : Node} (h : c ∈ n.children) : sizeOf c < sizeOf n := by
  cases n with
  | mk span form =>
    have := Form.sizeOf_lt_of_mem_parts (show c ∈ form.parts from h)
    simp
    omega

/-! ## Depth first -/

/-- Every node from this one down, each before its children, children from left to right. -/
def all (n : Node) : List Node :=
  n :: n.children.attach.flatMap fun c => c.val.all
termination_by sizeOf n
decreasing_by exact sizeOf_lt_of_mem_children c.property

theorem all_eq (n : Node) : n.all = n :: n.children.flatMap all := by
  rw [all]
  simp

theorem mem_all_self (n : Node) : n ∈ n.all := by
  rw [all_eq]
  exact List.mem_cons_self

/-! ## Level by level -/

/-- The number of levels from this node down. -/
def height (n : Node) : Nat :=
  (n.children.attach.map fun c => c.val.height).foldl max 0 + 1
termination_by sizeOf n
decreasing_by exact sizeOf_lt_of_mem_children c.property

/-- The first `depth` levels of a row of trees, one level after the other. -/
def rows : Nat → List Node → List Node
  | 0, _ => []
  | depth + 1, row => row ++ rows depth (row.flatMap children)

/-- Every node from this one down, level by level, each level from left to right. -/
def levels (n : Node) : List Node := rows n.height [n]

end Node

end LiveSketch

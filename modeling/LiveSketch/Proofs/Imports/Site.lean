import LiveSketch.Reference.Hook
import LiveSketch.Script.Scope.Basic
import LiveSketch.Tree.Walk
import Mathlib.Data.List.Basic

/-!
# Where imports stand, and what they ask for

An import asks for one module and, after `from`, for members of it (`ImportItem`); an import of
several modules is one item for each. Inside a class a running script asks for a module by its
private name, so the class counts in whose body a node stands (`Node.sites`). The walk with classes
visits the same nodes in the same order as the one without (`Node.map_snd_sites`).
-/

namespace LiveSketch

/-! ## The class around a node -/

namespace Node

/-- The nodes directly below, each with the class in whose body it stands: that of the node itself,
unless this is a class and they are its body. -/
def childrenWithin (owner : Option String) (n : Node) : List (Option String × Node) :=
  match n.form with
  | .classDef name bases keywords body decorators typeParams =>
    (bases ++ keywords).map (owner, ·) ++ body.map (some name, ·) ++
      (decorators ++ typeParams).map (owner, ·)
  | _ => n.children.map (owner, ·)

theorem map_snd_within (owner : Option String) (nodes : List Node) :
    (nodes.map fun n => (owner, n)).map Prod.snd = nodes := by
  rw [List.map_map]
  exact List.map_id nodes

theorem map_snd_childrenWithin (owner : Option String) (n : Node) :
    (n.childrenWithin owner).map Prod.snd = n.children := by
  unfold childrenWithin
  split
  · rename_i hform
    simp only [children, hform, Form.parts, List.map_append, map_snd_within, List.append_assoc]
  · exact map_snd_within owner _

theorem mem_children_of_mem_childrenWithin {owner : Option String} {n : Node}
    {p : Option String × Node} (h : p ∈ n.childrenWithin owner) : p.2 ∈ n.children := by
  rw [← map_snd_childrenWithin owner n]
  exact List.mem_map_of_mem h

/-- Every node from this one down with the class in whose body it stands, each before its
children. -/
def sites (owner : Option String) (n : Node) : List (Option String × Node) :=
  (owner, n) :: (n.childrenWithin owner).attach.flatMap fun p => p.val.2.sites p.val.1
termination_by sizeOf n
decreasing_by exact sizeOf_lt_of_mem_children (mem_children_of_mem_childrenWithin p.property)

theorem sites_eq (owner : Option String) (n : Node) :
    n.sites owner = (owner, n) :: (n.childrenWithin owner).flatMap fun p => p.2.sites p.1 := by
  rw [sites]
  congr 1
  calc _ = ((n.childrenWithin owner).attach.map Subtype.val).flatMap fun p => p.2.sites p.1 :=
        (List.flatMap_map _ _ _).symm
    _ = _ := by rw [List.attach_map_subtype_val]

theorem mem_sites_self (owner : Option String) (n : Node) : (owner, n) ∈ n.sites owner := by
  rw [sites_eq]
  exact List.mem_cons_self

theorem mem_sites_of_mem_child {owner : Option String} {n : Node} {p q : Option String × Node}
    (hp : p ∈ n.childrenWithin owner) (hq : q ∈ p.2.sites p.1) : q ∈ n.sites owner := by
  rw [sites_eq]
  exact List.mem_cons_of_mem _ (List.mem_flatMap.mpr ⟨p, hp, hq⟩)

/-- The walk with classes is the walk down first. -/
theorem map_snd_sites (owner : Option String) (n : Node) :
    (n.sites owner).map Prod.snd = n.all := by
  rw [sites_eq, all_eq, List.map_cons, List.map_flatMap, ← map_snd_childrenWithin owner n,
    List.flatMap_map]
  congr 1
  exact List.flatMap_congr fun p hp => map_snd_sites p.1 p.2
termination_by sizeOf n
decreasing_by exact sizeOf_lt_of_mem_children (mem_children_of_mem_childrenWithin hp)

end Node

/-! ## What an import asks for -/

/-- One import as it is written: where its refusal is shown, its module, the members taken from it
with their places, and how many packages it goes up. -/
structure ImportItem where
  span : Span
  module : String
  members : List (Span × String)
  level : Int

namespace ImportItem

/-- What a running script asks for inside of a class, or outside of all. -/
def request (owner : Option String) (i : ImportItem) : ImportRequest :=
  ⟨Script.privateName owner i.module, i.members.map Prod.snd, i.level⟩

/-- The module is asked for by the name that is written. -/
def AskedAsWritten (owner : Option String) (i : ImportItem) : Prop :=
  Script.privateName owner i.module = i.module

end ImportItem

end LiveSketch

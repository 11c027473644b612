import LiveSketch.Proofs.Imports.Code

/-!
# Code keeps to the imports of its tree

No code asks for an import that does not stand in the tree it is written for. With `Q` for the
imports that may be asked for, `Keeps Q owner x` says of a step of writing that, in a unit of this
class, it leaves all code in `Q` that was in `Q`. Besides the code a unit holds the statements that
have to follow a block whatever happens; these are written on every way out, and so have to be in
`Q` as well.
-/

namespace LiveSketch

open Script

/-- What code that is written may ask for. How many codes were there before does not change, and
these may ask for anything. -/
structure Confinement where
  request : ImportRequest → Prop
  before : Nat

instance : CoeFun Confinement fun _ => ImportRequest → Prop := ⟨Confinement.request⟩

/-! ## Trees -/

def Form.isClass {α : Type} : Form α → Bool
  | .classDef .. => true
  | _ => false

namespace Node

/-- From this node down, in the body of this class, all imports are in `Q`. -/
def Allows (Q : Confinement) (owner : Option String) (n : Node) : Prop :=
  ∀ p ∈ n.sites owner, ∀ i ∈ p.2.imports, Q (i.request p.1)

variable {Q : Confinement} {owner : Option String} {n : Node}

theorem Allows.within (h : n.Allows Q owner) {p : Option String × Node}
    (hp : p ∈ n.childrenWithin owner) : p.2.Allows Q p.1 :=
  fun q hq => h q (mem_sites_of_mem_child hp hq)

theorem Allows.parts (h : n.Allows Q owner) {f : Form Node} (hform : n.form = f)
    (hclass : f.isClass = false) : ∀ c ∈ f.parts, c.Allows Q owner := by
  intro c hc
  have hmem : (owner, c) ∈ n.childrenWithin owner := by
    unfold childrenWithin
    split
    · rename_i hn
      rw [← hform, hn] at hclass
      cases hclass
    · unfold children
      rw [hform]
      exact List.mem_map_of_mem hc
  exact h.within hmem

theorem Allows.ofClass (h : n.Allows Q owner) {name : String}
    {bases keywords body decorators typeParams : List Node}
    (hform : n.form = .classDef name bases keywords body decorators typeParams) :
    (∀ c ∈ bases, c.Allows Q owner) ∧ (∀ c ∈ keywords, c.Allows Q owner) ∧
      (∀ c ∈ body, c.Allows Q (some name)) ∧ ∀ c ∈ decorators, c.Allows Q owner := by
  have hwithin : ∀ p ∈ n.childrenWithin owner, p.2.Allows Q p.1 := fun p hp => h.within hp
  unfold childrenWithin at hwithin
  rw [hform] at hwithin
  simp only [List.forall_mem_append, List.forall_mem_map] at hwithin
  obtain ⟨⟨⟨hbases, hkeywords⟩, hbody⟩, hdecorators, -⟩ := hwithin
  exact ⟨hbases, hkeywords, hbody, hdecorators⟩

theorem allows_two {a b : Node} (h : ∀ c ∈ [a, b], c.Allows Q owner) :
    a.Allows Q owner ∧ b.Allows Q owner := by
  simpa using h

theorem allows_three {a b c : Node} (h : ∀ d ∈ [a, b, c], d.Allows Q owner) :
    a.Allows Q owner ∧ b.Allows Q owner ∧ c.Allows Q owner := by
  simpa using h

theorem allows_default : (default : Node).Allows Q owner := by
  intro p hp i hi
  rw [sites_eq] at hp
  obtain rfl := List.mem_singleton.mp hp
  cases hi

theorem Allows.unstarred (h : n.Allows Q owner) : (Check.unstarred n).Allows Q owner := by
  unfold Check.unstarred
  split
  · rename_i hform
    exact h.parts hform rfl _ List.mem_cons_self
  · exact h

end Node

namespace Script

variable {Q : Confinement} {owner : Option String}

/-! ## Units -/

/-- The statements that have to follow a block on every way out. -/
def CodeBlock.following : CodeBlock → List Node
  | .finally body => body
  | _ => []

/-- A unit asks for imports in `Q` only, now and on its ways out. -/
structure CodeUnit.IsConfined (Q : Confinement) (u : CodeUnit) : Prop where
  requests : ∀ q ∈ u.requests, Q q
  blocks : ∀ b ∈ u.blocks, ∀ n ∈ b.following, n.Allows Q u.owner

/-- All code that was not there before asks for imports in `Q` only. -/
structure Emitter.IsConfined (Q : Confinement) (e : Emitter) : Prop where
  codes : ∀ c ∈ e.codes.toList.drop Q.before, ∀ q ∈ c.requests, Q q
  units : ∀ u ∈ e.units, u.IsConfined Q

namespace Emit

variable {α β : Type}

/-- In a unit of this class, `x` writes no code that asks for an import outside of `Q`. -/
def Keeps (Q : Confinement) (owner : Option String) (x : Emit α) : Prop :=
  ∀ (e : Emitter) (owners : List (Option String)),
    e.units.map CodeUnit.owner = owner :: owners → e.IsConfined Q →
      (x.run e).2.units.map CodeUnit.owner = owner :: owners ∧ (x.run e).2.IsConfined Q

theorem keeps_pure (a : α) : Keeps Q owner (pure a) := fun _ _ hu he => ⟨hu, he⟩

theorem Keeps.bind {x : Emit α} {f : α → Emit β} (hx : Keeps Q owner x)
    (hf : ∀ a, Keeps Q owner (f a)) : Keeps Q owner (x >>= f) := by
  intro e owners hu he
  obtain ⟨hu', he'⟩ := hx e owners hu he
  exact hf (x.run e).1 (x.run e).2 owners hu' he'

/-- What follows on looking at the unit may depend on its class and on its ways out. -/
theorem keeps_current {f : CodeUnit → Emit β}
    (hf : ∀ u, u.owner = owner → u.IsConfined Q → Keeps Q owner (f u)) :
    Keeps Q owner (current >>= f) := by
  intro e owners hu he
  cases hunits : e.units with
  | nil => rw [hunits] at hu; cases hu
  | cons u rest =>
    have hrun : (current >>= f).run e = (f u).run e := by
      show (f (e.units.head?.getD default)).run e = _
      rw [hunits]
      rfl
    rw [hunits, List.map_cons, List.cons.injEq] at hu
    rw [hrun]
    refine hf u hu.1 (he.units u (hunits ▸ List.mem_cons_self)) e owners ?_ he
    rw [hunits, List.map_cons, hu.1, hu.2]

/-- The blocks may change so long as the new ones are in `Q`. -/
theorem keeps_blocks {f : List CodeBlock → List CodeBlock}
    (hf : ∀ bs, ∀ b ∈ f bs, b ∈ bs ∨ ∀ n ∈ b.following, n.Allows Q owner) :
    Keeps Q owner (change fun u => { u with blocks := f u.blocks }) := by
  intro e owners hu he
  cases hunits : e.units with
  | nil => rw [hunits] at hu; cases hu
  | cons u rest =>
    have hall := he.units
    rw [hunits] at hall hu
    have howner : u.owner = owner := (List.cons.inj hu).1
    rw [run_change hunits]
    refine ⟨hu, he.codes, fun v hv => ?_⟩
    rcases List.mem_cons.mp hv with rfl | hv
    · refine ⟨(hall u List.mem_cons_self).requests, fun b hb => ?_⟩
      rcases hf u.blocks b hb with hb | hb
      · exact (hall u List.mem_cons_self).blocks b hb
      · rw [howner]
        exact hb
    · exact hall v (List.mem_cons_of_mem _ hv)

theorem keeps_setBlocks {bs : List CodeBlock}
    (hbs : ∀ b ∈ bs, ∀ n ∈ b.following, n.Allows Q owner) :
    Keeps Q owner (change fun u => { u with blocks := bs }) :=
  keeps_blocks (f := fun _ => bs) fun _ b hb => .inr (hbs b hb)

theorem Asks.keeps {x : Emit α} {qs : List ImportRequest} (hx : Asks owner x qs)
    (hqs : ∀ q ∈ qs, Q q) : Keeps Q owner x := by
  intro e owners hu he
  cases hunits : e.units with
  | nil => rw [hunits] at hu; cases hu
  | cons u rest =>
    have hall := he.units
    rw [hunits] at hall hu
    rw [List.map_cons, List.cons.injEq] at hu
    obtain ⟨u', hrun, hcodes, howner, hblocks, hasked⟩ := hx e u rest hunits hu.1
    have hconfined := hall u List.mem_cons_self
    rw [hrun]
    refine ⟨?_, hcodes ▸ he.codes, ?_⟩
    · rw [List.map_cons, howner, hu.2]
    · rw [hrun]
      intro v hv
      rcases List.mem_cons.mp hv with rfl | hv
      · refine ⟨fun q hq => ?_, ?_⟩
        · rw [hasked] at hq
          exact (List.mem_append.mp hq).elim (hconfined.requests q) (hqs q)
        · rw [hblocks, howner, ← hu.1]
          exact hconfined.blocks
      · exact hall v (List.mem_cons_of_mem _ hv)

theorem Asks.keeps_quiet {x : Emit α} (hx : Asks owner x []) : Keeps Q owner x :=
  hx.keeps (List.forall_mem_nil _)

theorem keeps_op {o : Op} (ho : o.request? = none) : Keeps Q owner (op o) :=
  (asks_quiet ho).keeps_quiet

/-- A change of neither the code nor the blocks. -/
theorem keeps_aside {f : CodeUnit → CodeUnit} (howner : ∀ u, (f u).owner = u.owner := by intro; rfl)
    (hblocks : ∀ u, (f u).blocks = u.blocks := by intro; rfl)
    (hops : ∀ u, (f u).ops = u.ops := by intro; rfl) : Keeps Q owner (change f) := by
  refine (asks_change howner hblocks fun u => ?_).keeps_quiet
  rw [CodeUnit.requests, hops, List.append_nil]
  rfl

/-! ## Rows of steps -/

theorem keeps_forM {as : List α} {f : α → Emit Unit} (hf : ∀ a ∈ as, Keeps Q owner (f a)) :
    Keeps Q owner (as.forM f) := by
  induction as with
  | nil => exact keeps_pure ()
  | cons a as ih =>
    have hrest := ih fun b hb => hf b (List.mem_cons_of_mem a hb)
    exact (hf a List.mem_cons_self).bind fun _ => hrest

theorem keeps_forM_option {a : Option α} {f : α → Emit Unit}
    (hf : ∀ b ∈ a.toList, Keeps Q owner (f b)) : Keeps Q owner (a.forM f) := by
  cases a with
  | none => exact keeps_pure ()
  | some b => exact hf b List.mem_cons_self

theorem keeps_mapM {as : List α} {f : α → Emit β} (hf : ∀ a ∈ as, Keeps Q owner (f a)) :
    Keeps Q owner (as.mapM f) := by
  induction as with
  | nil => rw [List.mapM_nil]; exact keeps_pure []
  | cons a as ih =>
    have hrest := ih fun b hb => hf b (List.mem_cons_of_mem a hb)
    rw [List.mapM_cons]
    exact (hf a List.mem_cons_self).bind fun _ => hrest.bind fun _ => keeps_pure _

theorem keeps_flatMapM {as : List α} {f : α → Emit (List β)}
    (hf : ∀ a ∈ as, Keeps Q owner (f a)) : Keeps Q owner (as.flatMapM f) := by
  induction as with
  | nil => rw [List.flatMapM_nil]; exact keeps_pure []
  | cons a as ih =>
    have hrest := ih fun b hb => hf b (List.mem_cons_of_mem a hb)
    rw [List.flatMapM_cons]
    exact (hf a List.mem_cons_self).bind fun _ => hrest.bind fun _ => keeps_pure _

/-! ## Lines, holes and blocks -/

theorem keeps_onLine (line : Option Int) : Keeps Q owner (onLine line) := keeps_aside

theorem Keeps.within {x : Emit α} (hx : Keeps Q owner x) (line : Option Int) :
    Keeps Q owner (within line x) :=
  keeps_current fun _ _ _ => (keeps_onLine line).bind fun _ => hx.bind fun a =>
    Keeps.bind keeps_aside fun _ => keeps_pure a

theorem keeps_here : Keeps Q owner here := keeps_current fun _ _ _ => keeps_pure _

theorem keeps_hole {o : Nat → Op} (ho : (o 0).request? = none) : Keeps Q owner (hole o) :=
  keeps_here.bind fun _ => (keeps_op ho).bind fun _ => keeps_pure _

theorem request?_withTarget (target : Nat) (o : Op) :
    (withTarget target o).request? = o.request? := by
  cases o <;> rfl

theorem keeps_fill (place : Nat) : Keeps Q owner (fill place) := by
  refine Asks.keeps_quiet (asks_change (fun _ => rfl) (fun _ => rfl) fun u => ?_)
  rw [List.append_nil]
  exact requestsOf_modify _ _ fun o => request?_withTarget _ o.1

theorem keeps_fillAll (places : List Nat) : Keeps Q owner (fillAll places) :=
  keeps_forM fun place _ => keeps_fill place

theorem Keeps.inBlock {x : Emit Unit} (hx : Keeps Q owner x) {b : CodeBlock}
    (hb : ∀ n ∈ b.following, n.Allows Q owner := by exact List.forall_mem_nil _) :
    Keeps Q owner (inBlock b x) := by
  have henter : Keeps Q owner (enter b) := by
    refine keeps_blocks fun bs c hc => ?_
    rcases List.mem_cons.mp hc with rfl | hc
    · exact .inr hb
    · exact .inl hc
  have hleave : Keeps Q owner leave := keeps_blocks fun bs c hc => .inl (List.mem_of_mem_drop hc)
  exact henter.bind fun _ => hx.bind fun _ => hleave

theorem keeps_nameUse (access : Access) (name : String) : Keeps Q owner (nameUse access name) :=
  (asks_nameUse access name).keeps_quiet

/-! ## Units -/

theorem keeps_fullNameOf (name : String) : Keeps Q owner (fullNameOf name) := by
  refine keeps_current fun u _ _ => ?_
  split
  · exact keeps_pure _
  · split
    · exact keeps_pure _
    · exact keeps_pure _

theorem keeps_shareCells (scope : Scope) : Keeps Q owner (shareCells scope) :=
  (keeps_forM fun name _ => (asks_cellOf name).keeps_quiet.bind fun _ => keeps_op rfl).bind fun _ =>
    keeps_pure _

/-- What is written in a new unit is confined, and goes back to the units around it. -/
theorem Keeps.opened {inside : Option String} {body : Emit Unit} (hbody : Keeps Q inside body)
    {e : Emitter} (he : e.IsConfined Q) {u : CodeUnit} (howner : u.owner = inside)
    (hops : u.ops = #[]) (hblocks : u.blocks = []) :
    ∃ v rest, (body.run { e with units := u :: e.units }).2.units = v :: rest ∧
      rest.map CodeUnit.owner = e.units.map CodeUnit.owner ∧
      (body.run { e with units := u :: e.units }).2.IsConfined Q := by
  have hu : u.IsConfined Q := by
    refine ⟨fun q hq => ?_, fun body hb => ?_⟩
    · rw [CodeUnit.requests, hops] at hq
      cases hq
    · rw [hblocks] at hb
      cases hb
  have hopened : Emitter.IsConfined Q { e with units := u :: e.units } :=
    ⟨he.codes, List.forall_mem_cons.mpr ⟨hu, he.units⟩⟩
  obtain ⟨howners, hconfined⟩ := hbody _ (e.units.map CodeUnit.owner)
    (by rw [List.map_cons, howner]) hopened
  obtain ⟨v, rest, hunits, -, hrest⟩ := List.map_eq_cons_iff.mp howners
  exact ⟨v, rest, hunits, hrest, hconfined⟩

/-- A unit that is written and finished leaves the units around it, and confined code. -/
theorem Keeps.confined_unit {inside : Option String} {body : Emit Unit}
    (hbody : Keeps Q inside body) {e : Emitter} (he : e.IsConfined Q) (scope : Scope)
    (kind : UnitKind) (name fullName : String) (p : ParameterList) (doc : Option String)
    (line : Option Int) :
    ((unit scope kind name fullName inside p doc line body).run e).2.units.map CodeUnit.owner =
        e.units.map CodeUnit.owner ∧
      ((unit scope kind name fullName inside p doc line body).run e).2.IsConfined Q := by
  have hclosed : ∀ u : CodeUnit, u.owner = inside → u.ops = #[] → u.blocks = [] →
      let r := (body.run { e with units := u :: e.units }).2
      let closed : Emitter := { r with
        codes := r.codes.push (finished (r.units.head?.getD default) name p doc r.file)
        units := r.units.drop 1 }
      closed.units.map CodeUnit.owner = e.units.map CodeUnit.owner ∧ closed.IsConfined Q := by
    intro u howner hops hblocks
    obtain ⟨v, rest, hunits, hrest, hconfined⟩ := hbody.opened he howner hops hblocks
    have hall := hconfined.units
    dsimp only
    rw [hunits] at hall ⊢
    refine ⟨hrest, fun c hc => ?_, fun w hw => hall w (List.mem_cons_of_mem _ hw)⟩
    rw [Array.toList_push, List.drop_append] at hc
    rcases List.mem_append.mp hc with hc | hc
    · exact hconfined.codes c hc
    · rw [List.mem_singleton.mp (List.mem_of_mem_drop hc)]
      exact (hall v List.mem_cons_self).requests
  exact hclosed _ rfl rfl rfl

theorem keeps_unit {inside : Option String} {body : Emit Unit} (hbody : Keeps Q inside body)
    (scope : Scope) (kind : UnitKind) (name fullName : String) (p : ParameterList)
    (doc : Option String) (line : Option Int) :
    Keeps Q owner (unit scope kind name fullName inside p doc line body) := by
  intro e owners hu he
  obtain ⟨hunits, hconfined⟩ := hbody.confined_unit he scope kind name fullName p doc line
  exact ⟨hunits.trans hu, hconfined⟩

/-! ## Trees -/

/-- Code written for a tree keeps to what the tree allows. -/
structure KeepsTrees (Q : Confinement) (go : Node → Emit Unit) : Prop where
  tree : ∀ {owner : Option String} {n : Node}, n.Allows Q owner → Keeps Q owner (go n)

variable {go : Node → Emit Unit}

theorem KeepsTrees.forM (hgo : KeepsTrees Q go) {ns : List Node}
    (hns : ∀ n ∈ ns, n.Allows Q owner) : Keeps Q owner (ns.forM go) :=
  keeps_forM fun n hn => hgo.tree (hns n hn)

theorem KeepsTrees.forM_option (hgo : KeepsTrees Q go) {n : Option Node}
    (hn : ∀ c ∈ n.toList, c.Allows Q owner) : Keeps Q owner (n.forM go) :=
  keeps_forM_option fun c hc => hgo.tree (hn c hc)

end Emit

end Script

end LiveSketch

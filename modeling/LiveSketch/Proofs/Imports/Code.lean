import LiveSketch.Analysis.Imports
import LiveSketch.Proofs.Imports.Site
import LiveSketch.Script.Code.Statement

/-!
# What the code of an import asks for

The code of an import statement asks for exactly the imports of the statement, by the names that
they have inside of the class it stands in. `Asks owner x qs` says of a step of writing code that in
a unit of this class it writes requests for `qs`, in this order, and no other; steps put together
ask for what their parts ask for (`Asks.bind`).
-/

namespace LiveSketch

open Script

/-- The imports that a node makes, in order. -/
def Node.imports (n : Node) : List ImportItem :=
  match n.form with
  | .importModules names =>
    (aliases names).map fun (span, name, _) => ⟨span.orElse n.span, name, [], 0⟩
  | .importFrom module names level =>
    [⟨n.span, module.getD "",
      (aliases names).map fun (span, name, _) => (span.orElse n.span, name), level.getD 0⟩]
  | _ => []

def Node.IsImport (n : Node) : Prop :=
  match n.form with
  | .importModules _ | .importFrom .. => True
  | _ => False

namespace Script

/-- The import that an operation asks for. -/
def Op.request? : Op → Option ImportRequest
  | .importModule name members level => some ⟨name, members, level⟩
  | _ => none

/-- The imports that operations ask for, in order. -/
def requestsOf (ops : Array (Op × Nat)) : List ImportRequest :=
  ops.toList.filterMap fun o => o.1.request?

def Code.requests (c : Code) : List ImportRequest := requestsOf c.ops

/-- The imports that a unit asks for so far. -/
def CodeUnit.requests (u : CodeUnit) : List ImportRequest := requestsOf u.ops

theorem requestsOf_push (ops : Array (Op × Nat)) (o : Op) (line : Nat) :
    requestsOf (ops.push (o, line)) = requestsOf ops ++ o.request?.toList := by
  unfold requestsOf
  rw [Array.toList_push, List.filterMap_append]
  rfl

/-- Operations may be changed so long as they ask for the same import. -/
theorem requestsOf_modify (ops : Array (Op × Nat)) (place : Nat) {f : Op × Nat → Op × Nat}
    (hf : ∀ o, (f o).1.request? = o.1.request?) :
    requestsOf (ops.modify place f) = requestsOf ops := by
  unfold requestsOf
  rw [Array.toList_modify]
  generalize ops.toList = row
  induction row generalizing place with
  | nil => cases place <;> rfl
  | cons o row ih =>
    cases place with
    | zero => rw [List.modify_zero_cons, List.filterMap_cons, List.filterMap_cons, hf]
    | succ place => rw [List.modify_succ_cons, List.filterMap_cons, List.filterMap_cons, ih]

namespace Emit

variable {α β : Type} {owner : Option String}

/-- In a unit of this class, `x` adds these requests to the code of the unit. It changes no other
code and not what has to be done on the way out. -/
def Asks (owner : Option String) (x : Emit α) (qs : List ImportRequest) : Prop :=
  ∀ (e : Emitter) (u : CodeUnit) (rest : List CodeUnit), e.units = u :: rest → u.owner = owner →
    ∃ u', (x.run e).2.units = u' :: rest ∧ (x.run e).2.codes = e.codes ∧ u'.owner = owner ∧
      u'.blocks = u.blocks ∧ u'.requests = u.requests ++ qs

/-! ## Steps of writing -/

theorem asks_pure (a : α) : Asks owner (pure a) [] := by
  intro e u rest he hu
  exact ⟨u, he, rfl, hu, rfl, (List.append_nil _).symm⟩

theorem Asks.bind {x : Emit α} {f : α → Emit β} {qs qs' : List ImportRequest}
    (hx : Asks owner x qs) (hf : ∀ a, Asks owner (f a) qs') : Asks owner (x >>= f) (qs ++ qs') := by
  intro e u rest he hu
  obtain ⟨v, hv, hvcodes, hvowner, hvblocks, hvasked⟩ := hx e u rest he hu
  obtain ⟨w, hw, hwcodes, hwowner, hwblocks, hwasked⟩ :=
    hf (x.run e).1 (x.run e).2 v rest hv hvowner
  refine ⟨w, hw, hwcodes.trans hvcodes, hwowner, hwblocks.trans hvblocks, ?_⟩
  rw [hwasked, hvasked, List.append_assoc]

theorem Asks.before {x : Emit α} {f : α → Emit β} {qs : List ImportRequest}
    (hx : Asks owner x qs) (hf : ∀ a, Asks owner (f a) []) : Asks owner (x >>= f) qs := by
  have hboth := hx.bind hf
  rwa [List.append_nil] at hboth

/-- What follows on looking at the unit may depend on its class. -/
theorem asks_current {f : CodeUnit → Emit β} {qs : List ImportRequest}
    (hf : ∀ u, u.owner = owner → Asks owner (f u) qs) : Asks owner (current >>= f) qs := by
  intro e u rest he hu
  have hrun : (current >>= f).run e = (f u).run e := by
    show (f (e.units.head?.getD default)).run e = _
    rw [he]
    rfl
  rw [hrun]
  exact hf u hu e u rest he hu

theorem run_change {e : Emitter} {u : CodeUnit} {rest : List CodeUnit} (he : e.units = u :: rest)
    (f : CodeUnit → CodeUnit) : ((change f).run e).2 = { e with units := f u :: rest } := by
  cases e
  cases he
  rfl

theorem asks_change {f : CodeUnit → CodeUnit} {qs : List ImportRequest}
    (howner : ∀ u, (f u).owner = u.owner) (hblocks : ∀ u, (f u).blocks = u.blocks)
    (hasked : ∀ u, (f u).requests = u.requests ++ qs) : Asks owner (change f) qs := by
  intro e u rest he hu
  rw [run_change he]
  exact ⟨f u, rfl, rfl, (howner u).trans hu, hblocks u, hasked u⟩

theorem asks_op (o : Op) : Asks owner (op o) o.request?.toList :=
  asks_change (fun _ => rfl) (fun _ => rfl) fun u => requestsOf_push u.ops o u.line

theorem asks_quiet {o : Op} (h : o.request? = none) : Asks owner (op o) [] := by
  have hop : Asks owner (op o) o.request?.toList := asks_op o
  rwa [h] at hop

theorem asks_forM {as : List α} {f : α → Emit Unit} {qs : α → List ImportRequest}
    (hf : ∀ a ∈ as, Asks owner (f a) (qs a)) : Asks owner (as.forM f) (as.flatMap qs) := by
  induction as with
  | nil => exact asks_pure ()
  | cons a as ih =>
    have hrest := ih fun b hb => hf b (List.mem_cons_of_mem a hb)
    exact (hf a List.mem_cons_self).bind fun _ => hrest

/-! ## Names ask for nothing -/

theorem asks_slotOf (name : String) : Asks owner (slotOf name) [] := by
  refine asks_current fun u _ => ?_
  cases u.slots.findIdx? (· == name) with
  | some slot => exact asks_pure slot
  | none =>
    refine Asks.before ?_ fun _ => asks_pure _
    exact asks_change (fun _ => rfl) (fun _ => rfl) fun _ => (List.append_nil _).symm

theorem asks_cellOf (name : String) : Asks owner (cellOf name) [] := by
  refine asks_current fun u _ => ?_
  cases u.shared.findIdx? (· == name) with
  | some cell => exact asks_pure cell
  | none => exact asks_pure _

theorem asks_byAccess {load store remove : Op} (access : Access) (hload : load.request? = none)
    (hstore : store.request? = none) (hremove : remove.request? = none) :
    Asks owner (op (match access with
      | .load => load
      | .store => store
      | .remove => remove)) [] := by
  cases access with
  | load => exact asks_quiet hload
  | store => exact asks_quiet hstore
  | remove => exact asks_quiet hremove

theorem asks_nameUse (access : Access) (name : String) : Asks owner (nameUse access name) [] := by
  refine asks_current fun u _ => ?_
  dsimp only
  cases u.scope.placeOf (privateName u.owner name) with
  | own =>
    dsimp only
    split
    · exact (asks_slotOf _).before fun slot => asks_byAccess access rfl rfl rfl
    · exact asks_byAccess access rfl rfl rfl
  | shared | outer =>
    refine (asks_cellOf _).before fun cell => asks_byAccess access ?_ rfl rfl
    split <;> rfl
  | declaredGlobal => exact asks_byAccess access rfl rfl rfl
  | global =>
    dsimp only
    split
    · exact asks_byAccess access rfl rfl rfl
    · exact asks_byAccess access rfl rfl rfl

/-! ## Import statements -/

/-- A request is written with the module's name in the class of the unit. -/
theorem asks_importModule (name : String) (members : List String) (level : Int)
    {rest : Emit Unit} (hrest : Asks owner rest []) :
    Asks owner (do op (.importModule (privateName (← current).owner name) members level); rest)
      [⟨privateName owner name, members, level⟩] := by
  refine asks_current fun u hu => ?_
  rw [hu]
  exact (asks_op _).before fun _ => hrest

theorem asks_importModules (names : List Node) :
    Asks owner (importModules names)
      ((Node.aliases names).map fun a => ⟨privateName owner a.2.1, [], 0⟩) := by
  induction names with
  | nil => exact asks_pure ()
  | cons a names ih =>
    have hsplit : Node.aliases (a :: names) = Node.aliases [a] ++ Node.aliases names :=
      List.filterMap_append (l := [a])
    rw [hsplit, List.map_append]
    refine Asks.bind ?_ fun _ => ih
    unfold Node.aliases
    simp only [List.filterMap_cons, List.filterMap_nil]
    cases hform : a.form with
    | importedName name asName =>
      refine asks_importModule name [] 0 ?_
      cases asName with
      | some asName => exact (asks_quiet rfl).before fun _ => asks_nameUse .store asName
      | none => exact asks_nameUse .store _
    | _ => exact asks_pure ()

theorem asks_importMembers (module : Option String) (names : List Node) (level : Option Int) :
    Asks owner (importMembers module names level)
      [⟨privateName owner (module.getD ""), (Node.aliases names).map fun a => a.2.1,
        level.getD 0⟩] := by
  unfold importMembers
  generalize hmembers : List.filterMap _ names = members
  have halias : (Node.aliases names).map Prod.snd = members := by
    rw [← hmembers]
    unfold Node.aliases
    rw [List.map_filterMap]
    refine List.filterMap_congr fun a _ => ?_
    cases a.form <;> rfl
  have hnames : ((Node.aliases names).map fun a => a.2.1) = members.map Prod.fst := by
    rw [← halias, List.map_map]
    rfl
  rw [hnames]
  refine asks_current fun u hu => ?_
  dsimp only
  rw [hu]
  refine (asks_op (.importModule _ _ _)).before fun _ => ?_
  split
  · exact asks_quiet rfl
  · have hbound : Asks owner (members.forM fun m => do
        op (.importMember (privateName owner m.1))
        nameUse .store (m.2.getD m.1)) (members.flatMap fun _ => []) :=
      asks_forM fun a _ => (asks_quiet rfl).before fun _ => asks_nameUse .store _
    rw [List.flatMap_eq_nil_iff.mpr fun _ _ => rfl] at hbound
    exact hbound.before fun _ => asks_quiet rfl

/-- The code of an import asks for the imports of the node as the class of the unit has it. -/
theorem asks_statement {n : Node} (h : n.IsImport) (go : Node → Emit Unit) :
    Asks owner (statement go n) (n.imports.map (ImportItem.request owner)) := by
  unfold statement Node.imports
  unfold Node.IsImport at h
  cases hform : n.form with
  | importModules names =>
    dsimp only
    rw [List.map_map]
    exact asks_importModules names
  | importFrom module names level =>
    have hasks : Asks owner (importMembers module names level) _ :=
      asks_importMembers module names level
    dsimp only
    rw [List.map_singleton, ImportItem.request, List.map_map]
    exact hasks
  | _ =>
    rw [hform] at h
    exact h.elim

end Emit

end Script

end LiveSketch

import LiveSketch.Proofs.Imports.Confined.Expression

/-!
# Statements keep to the imports of their tree

One lemma for each compound statement. A way out of a block writes once more what has to follow the
block (`keeps_leaveBlocks`), and the body of a class is a unit of this class
(`keeps_classStatement`). `keepsTrees_write` is the induction on the depth of a tree, and
`request_of_mem_codesAfter` what comes of it for a script.
-/

namespace LiveSketch.Script.Emit

variable {α β : Type} {Q : Confinement} {owner : Option String} {go : Node → Emit Unit}

/-! ## Blocks -/

/-- The name of a fault is forgotten at the end of its handler. -/
theorem keeps_forget (name : String) : Keeps Q owner (do
    push .none
    nameUse .store name
    nameUse .remove name) :=
  (keeps_op rfl).bind fun _ => (keeps_nameUse _ _).bind fun _ => keeps_nameUse _ _

theorem keeps_forget_option (name : Option String) : Keeps Q owner (name.forM fun name => do
    push .none
    nameUse .store name
    nameUse .remove name) :=
  keeps_forM_option fun name _ => keeps_forget name

theorem keeps_leaveBlocks (hgo : KeepsTrees Q go) (keeps toLoop : Bool) {blocks : List CodeBlock}
    (hb : ∀ b ∈ blocks, ∀ n ∈ b.following, n.Allows Q owner) :
    Keeps Q owner (leaveBlocks go keeps toLoop blocks) := by
  induction blocks with
  | nil => exact keeps_pure none
  | cons block outer ih =>
    obtain ⟨hblock, houter⟩ := List.forall_mem_cons.mp hb
    have hrest := ih houter
    have hdrop : Keeps Q owner (if keeps then do
        op .swap
        op .pop
      else op .pop) := by
      split
      · exact (keeps_op rfl).bind fun _ => keeps_op rfl
      · exact keeps_op rfl
    unfold leaveBlocks
    cases block with
    | loop key start hasIterator =>
      dsimp only
      split
      · exact keeps_pure _
      · split
        · exact hdrop.bind fun _ => hrest
        · exact hrest
    | «finally» body =>
      refine (keeps_op rfl).bind fun _ => keeps_current fun u howner hu => ?_
      refine (keeps_setBlocks ?_).bind fun _ => (hgo.forM hblock).bind fun _ =>
        (keeps_setBlocks (howner ▸ hu.blocks)).bind fun _ => hrest
      split
      · exact List.forall_mem_cons.mpr ⟨List.forall_mem_nil _, houter⟩
      · exact houter
    | finallyHandler => exact hdrop.bind fun _ => (keeps_op rfl).bind fun _ => hrest
    | guarded => exact (keeps_op rfl).bind fun _ => hrest
    | handler name =>
      dsimp only
      split
      on_goal 1 => refine (keeps_op rfl).bind fun _ => ?_
      all_goals exact (keeps_op rfl).bind fun _ => (keeps_forget_option name).bind fun _ => hrest
    | context =>
      refine (keeps_op rfl).bind fun _ => ?_
      dsimp only
      split
      on_goal 1 => refine (keeps_op rfl).bind fun _ => ?_
      all_goals exact (keeps_op rfl).bind fun _ => hrest
    | waiting => exact hdrop.bind fun _ => hrest

theorem Keeps.guarded {body : Emit Unit} (hbody : Keeps Q owner body) {block : CodeBlock}
    (held : Nat) (hb : ∀ n ∈ block.following, n.Allows Q owner := by exact List.forall_mem_nil _) :
    Keeps Q owner (guarded block held body) :=
  (keeps_hole rfl).bind fun _ => (hbody.inBlock hb).bind fun _ => (keeps_op rfl).bind fun _ =>
    keeps_pure _

theorem keeps_newLoop : Keeps Q owner newLoop := fun _ _ hu he => ⟨hu, he.codes, he.units⟩

theorem keeps_landBreaks (key : Nat) : Keeps Q owner (landBreaks key) :=
  keeps_current fun _ _ _ => keeps_fillAll _

/-! ## Compound statements -/

theorem allows_undescribed {body : List Node} (hb : ∀ n ∈ body, n.Allows Q owner) :
    ∀ n ∈ undescribed body, n.Allows Q owner := by
  unfold undescribed
  split
  · exact fun n hn => hb n (List.mem_of_mem_drop hn)
  · exact hb

theorem keeps_bodyOf (hgo : KeepsTrees Q go) {body : List Node}
    (hb : ∀ n ∈ body, n.Allows Q owner) : Keeps Q owner (bodyOf go body) := by
  have hstatements : Keeps Q owner ((undescribed body).forM go) :=
    hgo.forM (allows_undescribed hb)
  unfold bodyOf
  dsimp only
  split
  on_goal 1 => refine (keeps_op rfl).bind fun _ => ?_
  all_goals
    split
    · exact (keeps_op rfl).bind fun _ => (keeps_op rfl).bind fun _ => hstatements
    · exact hstatements

theorem allows_declaredType {a type : Node} (h : a.Allows Q owner)
    (htype : declaredType? a = some type) : type.Allows Q owner := by
  unfold declaredType? at htype
  split at htype
  · rename_i hform
    exact h.parts hform rfl type (Option.mem_toList.mpr htype)
  · cases htype

theorem keeps_declaredTypes (hgo : KeepsTrees Q go) {p : ParameterList}
    (hp : ParametersAllow Q owner p) {returns : Option Node}
    (hreturns : ∀ r ∈ returns.toList, r.Allows Q owner) :
    Keeps Q owner (declaredTypes go p returns) := by
  refine keeps_current fun u _ _ => ?_
  dsimp only
  generalize hdeclared : _ ++ (returns.map ("return", ·)).toList = declared
  have htypes : ∀ e ∈ declared, e.2.Allows Q owner := by
    intro e he
    rw [← hdeclared] at he
    rcases List.mem_append.mp he with he | he
    · obtain ⟨a, ha, hentry⟩ := List.mem_filterMap.mp he
      obtain ⟨type, htype, rfl⟩ := Option.map_eq_some_iff.mp hentry
      exact allows_declaredType (hp.parameters a ha) htype
    · obtain ⟨r, hr, rfl⟩ := Option.map_eq_some_iff.mp (Option.mem_toList.mp he)
      exact hreturns r (Option.mem_toList.mpr hr)
  refine (hgo.named (fun name => name) htypes).bind fun _ => ?_
  split
  · exact (keeps_op rfl).bind fun _ => keeps_pure _
  · exact keeps_pure _

theorem keeps_decorated (decorators : List Node) : Keeps Q owner (decorated decorators) :=
  keeps_forM fun _ _ => (keeps_op rfl).within _

/-- The parts of a function ask for imports in `Q` only. -/
structure FunctionAllows (Q : Confinement) (owner : Option String) (args : Node)
    (body decorators : List Node) (returns : Option Node) : Prop where
  parameters : ParametersAllow Q owner (parameterList args)
  body : ∀ c ∈ body, c.Allows Q owner
  decorators : ∀ d ∈ decorators, d.Allows Q owner
  returns : ∀ r ∈ returns.toList, r.Allows Q owner

theorem keeps_functionStatement (hgo : KeepsTrees Q go) (n : Node) (isAsync : Bool) (name : String)
    {args : Node} {body decorators : List Node} {returns : Option Node}
    (h : FunctionAllows Q owner args body decorators returns) :
    Keeps Q owner (functionStatement go n isAsync name args body decorators returns) := by
  refine (hgo.forM h.decorators).bind fun _ => (keeps_defaultsOf hgo h.parameters).bind fun _ =>
    (keeps_declaredTypes hgo h.parameters h.returns).bind fun _ =>
    keeps_current fun u howner _ => ?_
  have hinside : Keeps Q owner (do
      (undescribed body).forM go
      push .none
      op .give) := (hgo.forM (allows_undescribed h.body)).bind fun _ => (keeps_op rfl).bind fun _ =>
    keeps_op rfl
  dsimp only
  rw [howner]
  exact (keeps_fullNameOf _).bind fun _ => (keeps_unit hinside _ _ _ _ _ _ _).bind fun _ =>
    (keeps_makeFunction _ _ _ _).bind fun _ => (keeps_decorated _).bind fun _ => keeps_nameUse _ _

/-- The parts of a class ask for imports in `Q` only, its body in the name of the class. -/
structure ClassAllows (Q : Confinement) (owner : Option String) (name : String)
    (bases keywords body decorators : List Node) : Prop where
  bases : ∀ c ∈ bases, c.Allows Q owner
  keywords : ∀ c ∈ keywords, c.Allows Q owner
  body : ∀ c ∈ body, c.Allows Q (some name)
  decorators : ∀ d ∈ decorators, d.Allows Q owner

theorem keeps_classStatement (hgo : KeepsTrees Q go) (n : Node) {name : String}
    {bases keywords body decorators : List Node}
    (h : ClassAllows Q owner name bases keywords body decorators) :
    Keeps Q owner (classStatement go n name bases keywords body decorators) := by
  refine (hgo.forM h.decorators).bind fun _ => keeps_current fun u _ _ => ?_
  refine (keeps_fullNameOf name).bind fun _ => (keeps_unit ?_ _ _ _ _ _ _ _).bind fun _ =>
    (keeps_makeFunction _ _ _ _).bind fun _ =>
    (keeps_given hgo none h.bases h.keywords (fun _ _ => rfl) fun _ => rfl).bind fun _ =>
    (keeps_decorated _).bind fun _ => keeps_nameUse _ _
  refine (keeps_op rfl).bind fun _ => (keeps_op rfl).bind fun _ => (keeps_op rfl).bind fun _ =>
    (keeps_op rfl).bind fun _ => (keeps_bodyOf hgo h.body).bind fun _ => ?_
  dsimp only
  split
  on_goal 1 =>
    refine (asks_cellOf _).keeps_quiet.bind fun _ => (keeps_op rfl).bind fun _ =>
      (keeps_op rfl).bind fun _ => ?_
  all_goals exact (keeps_op rfl).bind fun _ => keeps_op rfl

/-! ## Handlers -/

/-- A body, what handles its faults and what follows without one ask for imports in `Q` only. -/
structure HandlersAllow (Q : Confinement) (owner : Option String)
    (body handlers orelse : List Node) : Prop where
  body : ∀ n ∈ body, n.Allows Q owner
  handlers : ∀ n ∈ handlers, n.Allows Q owner
  orelse : ∀ n ∈ orelse, n.Allows Q owner

theorem keeps_handled (hgo : KeepsTrees Q go) {body handlers orelse : List Node}
    (h : HandlersAllow Q owner body handlers orelse) :
    Keeps Q owner (handled go body handlers orelse) := by
  refine ((hgo.forM h.body).guarded 0).bind fun _ => (hgo.forM h.orelse).bind fun _ =>
    (keeps_hole rfl).bind fun _ => (keeps_fill _).bind fun _ =>
    (keeps_flatMapM fun c hmem => Keeps.within ?_ _).bind fun _ => (keeps_op rfl).bind fun _ =>
    keeps_fillAll _
  split
  · rename_i type name inner hform
    obtain ⟨htype, hinner⟩ := List.forall_mem_append.mp ((h.handlers c hmem).parts hform rfl)
    have hinner := hgo.forM hinner
    refine (keeps_mapM fun t ht => ?_).bind fun _ => ?_
    · exact (hgo.tree (htype t ht)).bind fun _ => (keeps_op rfl).bind fun _ => keeps_hole rfl
    · cases name with
      | some name =>
        exact (keeps_nameUse _ _).bind fun _ => (hinner.guarded 0).bind fun _ =>
          (keeps_op rfl).bind fun _ => (keeps_forget name).bind fun _ =>
          (keeps_hole rfl).bind fun _ => (keeps_fill _).bind fun _ =>
          (keeps_forget name).bind fun _ => (keeps_op rfl).bind fun _ =>
          (keeps_fillAll _).bind fun _ => keeps_pure _
      | none =>
        exact (keeps_op rfl).bind fun _ => hinner.inBlock.bind fun _ =>
          (keeps_op rfl).bind fun _ => (keeps_hole rfl).bind fun _ =>
          (keeps_fillAll _).bind fun _ => keeps_pure _
  · exact keeps_pure []

theorem keeps_handledByParts (hgo : KeepsTrees Q go) {body handlers orelse : List Node}
    (h : HandlersAllow Q owner body handlers orelse) :
    Keeps Q owner (handledByParts go body handlers orelse) := by
  refine ((hgo.forM h.body).guarded 0).bind fun _ => (hgo.forM h.orelse).bind fun _ =>
    (keeps_hole rfl).bind fun _ => (keeps_fill _).bind fun _ => (keeps_op rfl).bind fun _ =>
    (keeps_op rfl).bind fun _ => (keeps_forM fun c hmem => Keeps.within ?_ _).bind fun _ =>
    (keeps_op rfl).bind fun _ => (keeps_hole rfl).bind fun _ => (keeps_op rfl).bind fun _ =>
    (keeps_fill _).bind fun _ => (keeps_op rfl).bind fun _ => (keeps_op rfl).bind fun _ =>
    keeps_fill _
  split
  · rename_i type name inner hform
    obtain ⟨htype, hinner⟩ := List.forall_mem_append.mp ((h.handlers c hmem).parts hform rfl)
    have hforget : Keeps Q owner _ := keeps_forget_option name
    refine (hgo.forM_option htype).bind fun _ => (keeps_op rfl).bind fun _ =>
      (keeps_hole rfl).bind fun _ => ?_
    cases name
    on_goal 1 => refine (keeps_op rfl).bind fun _ => ?_
    on_goal 2 => refine (keeps_nameUse _ _).bind fun _ => ?_
    all_goals
      exact ((hgo.forM hinner).guarded 0).bind fun _ => hforget.bind fun _ =>
        (keeps_hole rfl).bind fun _ => (keeps_fill _).bind fun _ => hforget.bind fun _ =>
        (keeps_op rfl).bind fun _ => (keeps_op rfl).bind fun _ => (keeps_hole rfl).bind fun _ =>
        (keeps_fill _).bind fun _ => (keeps_op rfl).bind fun _ => keeps_fillAll _
  · exact keeps_pure ()

theorem keeps_followed (hgo : KeepsTrees Q go) {inner : Emit Unit} (hinner : Keeps Q owner inner)
    {body : List Node} (hbody : ∀ n ∈ body, n.Allows Q owner) :
    Keeps Q owner (followed go inner body) := by
  have hguarded : Keeps Q owner (guarded (.finally body) 0 inner) := hinner.guarded 0 hbody
  exact hguarded.bind fun _ => (hgo.forM hbody).bind fun _ => (keeps_hole rfl).bind fun _ =>
    (keeps_fill _).bind fun _ => (hgo.forM hbody).inBlock.bind fun _ =>
    (keeps_op rfl).bind fun _ => keeps_fill _

theorem keeps_inContexts (hgo : KeepsTrees Q go) (line : Option Int) {inner : Emit Unit}
    (hinner : Keeps Q owner inner) {items : List Node} (hitems : ∀ n ∈ items, n.Allows Q owner) :
    Keeps Q owner (inContexts go line inner items) := by
  induction items with
  | nil => exact hinner
  | cons item rest ih =>
    obtain ⟨hitem, hrest⟩ := List.forall_mem_cons.mp hitems
    have ih := ih hrest
    unfold inContexts
    split
    · rename_i context vars hform
      obtain ⟨hcontext, hvars⟩ := List.forall_mem_cons.mp (hitem.parts hform rfl)
      refine (hgo.tree hcontext).bind fun _ => (keeps_op rfl).bind fun _ =>
        (Keeps.guarded ?_ 1).bind fun _ => (keeps_onLine _).bind fun _ =>
        (keeps_op rfl).bind fun _ => (keeps_hole rfl).bind fun _ => (keeps_fill _).bind fun _ =>
        (keeps_op rfl).bind fun _ => (keeps_hole rfl).bind fun _ => (keeps_op rfl).bind fun _ =>
        (keeps_fill _).bind fun _ => (keeps_op rfl).bind fun _ => (keeps_op rfl).bind fun _ =>
        (keeps_op rfl).bind fun _ => keeps_fill _
      cases vars with
      | some vars => exact (hgo.tree (hvars vars List.mem_cons_self)).bind fun _ => ih
      | none => exact (keeps_op rfl).bind fun _ => ih
    · exact keeps_pure ()

theorem keeps_matched (hgo : KeepsTrees Q go) {subject : Node} (hsubject : subject.Allows Q owner)
    {cases : List Node} (hcases : ∀ c ∈ cases, c.Allows Q owner) :
    Keeps Q owner (matched go subject cases) := by
  refine (hgo.tree hsubject).bind fun _ => (keeps_flatMapM fun c hmem => ?_).bind fun _ =>
    (keeps_op rfl).bind fun _ => keeps_fillAll _
  split
  · rename_i p guard body hform
    obtain ⟨hp, hrest⟩ := List.forall_mem_cons.mp ((hcases c hmem).parts hform rfl)
    obtain ⟨hguard, hbody⟩ := List.forall_mem_append.mp hrest
    exact (keeps_op rfl).bind fun _ => (keeps_pattern hgo _ 0 hp).missesOf.bind fun _ =>
      (keeps_forM fun _ _ => (keeps_captureSlot _).bind fun _ => (keeps_op rfl).bind fun _ =>
        keeps_nameUse _ _).bind fun _ =>
      (keeps_flatMapM fun t ht => keeps_jumpUnless hgo (hguard t ht)).bind fun _ =>
      (keeps_op rfl).bind fun _ => (hgo.forM hbody).bind fun _ => (keeps_hole rfl).bind fun _ =>
      (keeps_landMisses _).bind fun _ => (keeps_fillAll _).bind fun _ => keeps_pure _
  · exact keeps_pure []

/-! ## Simple statements -/

theorem keeps_changeTarget (hgo : KeepsTrees Q go) {target : Node} (htarget : target.Allows Q owner)
    (o : BinaryOperator) {value : Node} (hvalue : value.Allows Q owner) :
    Keeps Q owner (changeTarget go target o value) := by
  have hvalue := hgo.tree hvalue
  unfold changeTarget
  split
  · exact ((keeps_nameUse _ _).within _).bind fun _ => hvalue.bind fun _ =>
      (keeps_op rfl).bind fun _ => (keeps_nameUse _ _).within _
  · rename_i inner name access hform
    have hinner := htarget.parts hform rfl inner List.mem_cons_self
    exact keeps_current fun _ _ _ => (hgo.tree hinner).bind fun _ => (keeps_op rfl).bind fun _ =>
      ((keeps_op rfl).within _).bind fun _ => hvalue.bind fun _ => (keeps_op rfl).bind fun _ =>
      (keeps_op rfl).bind fun _ => (keeps_op rfl).within _
  · rename_i inner index access hform
    obtain ⟨hinner, hindex⟩ := Node.allows_two (htarget.parts hform rfl)
    exact (hgo.tree hinner).bind fun _ => (hgo.tree hindex).bind fun _ =>
      (keeps_op rfl).bind fun _ => (keeps_op rfl).bind fun _ =>
      ((keeps_op rfl).within _).bind fun _ => hvalue.bind fun _ => (keeps_op rfl).bind fun _ =>
      (keeps_op rfl).bind fun _ => (keeps_op rfl).within _
  · exact keeps_pure ()

/-- A target, its declared type and its value ask for imports in `Q` only. -/
structure DeclarationAllows (Q : Confinement) (owner : Option String)
    (target declared : Node) (value : Option Node) : Prop where
  target : target.Allows Q owner
  declared : declared.Allows Q owner
  value : ∀ v ∈ value.toList, v.Allows Q owner

theorem keeps_declaration (hgo : KeepsTrees Q go) {target declared : Node} {value : Option Node}
    (h : DeclarationAllows Q owner target declared value) (simple : Bool) :
    Keeps Q owner (declaration go target declared value simple) := by
  have hdropped : ∀ n : Node, n.Allows Q owner → Keeps Q owner (do
      go n
      op .pop) := fun n hn => (hgo.tree hn).bind fun _ => keeps_op rfl
  have hlast : ∀ isAsked : Bool, Keeps Q owner (if isAsked then do
      go declared
      op .pop
    else pure ()) := by
    intro isAsked
    split
    · exact hdropped declared h.declared
    · exact keeps_pure ()
  unfold declaration
  cases value
  on_goal 2 =>
    refine (hgo.tree (h.value _ List.mem_cons_self)).bind fun _ =>
      (hgo.tree h.target).bind fun _ => ?_
  all_goals
    refine keeps_current fun u _ _ => ?_
    dsimp only
    split
    · split
      · exact (hgo.tree h.declared).bind fun _ => (keeps_op rfl).bind fun _ =>
          keeps_current fun _ _ _ => (keeps_op rfl).bind fun _ =>
          (keeps_op rfl).bind fun _ => hlast _
      · exact hlast _
    · rename_i inner name access hform
      have hinner := h.target.parts hform rfl inner List.mem_cons_self
      split
      · exact (hdropped inner hinner).bind fun _ => hlast _
      · exact hlast _
    · rename_i inner index access hform
      obtain ⟨hinner, hindex⟩ := Node.allows_two (h.target.parts hform rfl)
      split
      · exact (hdropped inner hinner).bind fun _ => (hdropped index hindex).bind fun _ => hlast _
      · exact hlast _
    · exact hlast _

theorem keeps_loopJump (hgo : KeepsTrees Q go) (leaves : Bool) :
    Keeps Q owner (loopJump go leaves) := by
  refine keeps_current fun u howner hu =>
    (keeps_leaveBlocks hgo false true (howner ▸ hu.blocks)).bind fun left => ?_
  split
  · split
    · split
      on_goal 1 => refine (keeps_op rfl).bind fun _ => ?_
      all_goals exact (keeps_hole rfl).bind fun _ => keeps_aside
    · exact keeps_op rfl
  · exact keeps_pure ()

/-! ## Trees -/

theorem keeps_import {n : Node} (himport : n.IsImport) (hn : n.Allows Q owner) :
    Keeps Q owner (statement go n) := by
  refine (asks_statement himport go).keeps fun q hq => ?_
  obtain ⟨i, hi, rfl⟩ := List.mem_map.mp hq
  exact hn _ (Node.mem_sites_self owner n) i hi

theorem keeps_statement (hgo : KeepsTrees Q go) {n : Node} (hn : n.Allows Q owner) :
    Keeps Q owner (statement go n) := by
  have himport : n.IsImport → Keeps Q owner (statement go n) := fun h => keeps_import h hn
  unfold Node.IsImport at himport
  unfold statement at himport ⊢
  cases hform : n.form with
  | module body =>
    have hbody := hn.parts hform rfl
    exact (keeps_bodyOf hgo hbody).bind fun _ => (keeps_op rfl).bind fun _ => keeps_op rfl
  | functionDef isAsync name args body decorators returns typeParams =>
    have hparts := hn.parts hform rfl
    simp only [Form.parts, List.forall_mem_cons, List.forall_mem_append] at hparts
    obtain ⟨hargs, ⟨⟨hbody, hdecorators⟩, hreturns⟩, -⟩ := hparts
    exact keeps_functionStatement hgo n isAsync name
      ⟨parametersAllow hargs, hbody, hdecorators, hreturns⟩
  | classDef name bases keywords body decorators typeParams =>
    obtain ⟨hbases, hkeywords, hbody, hdecorators⟩ := hn.ofClass hform
    exact keeps_classStatement hgo n ⟨hbases, hkeywords, hbody, hdecorators⟩
  | ret value =>
    refine (keeps_orNone hgo (hn.parts hform rfl)).bind fun _ =>
      keeps_current fun u howner hu => ?_
    have hleft := keeps_leaveBlocks hgo true false (howner ▸ hu.blocks)
    exact Keeps.bind (hleft.bind fun _ => keeps_pure _) fun _ => keeps_op rfl
  | delete targets => exact hgo.forM (hn.parts hform rfl)
  | assign targets value =>
    obtain ⟨htargets, hvalue⟩ := List.forall_mem_append.mp (hn.parts hform rfl)
    refine (hgo.tree (hvalue value List.mem_cons_self)).bind fun _ =>
      keeps_forM fun step hmem => ?_
    have htarget := hgo.tree (htargets step.1 (List.of_mem_zip hmem).1)
    dsimp only
    split
    · exact (keeps_op rfl).bind fun _ => htarget
    · exact htarget
  | augAssign target o value =>
    obtain ⟨htarget, hvalue⟩ := Node.allows_two (hn.parts hform rfl)
    exact keeps_changeTarget hgo htarget o hvalue
  | annAssign target declared value simple =>
    obtain ⟨htarget, hrest⟩ := List.forall_mem_cons.mp (hn.parts hform rfl)
    obtain ⟨hdeclared, hvalue⟩ := List.forall_mem_cons.mp hrest
    exact keeps_declaration hgo ⟨htarget, hdeclared, hvalue⟩ simple
  | forLoop isAsync target iter body orelse =>
    have hparts := hn.parts hform rfl
    simp only [Form.parts, List.forall_mem_cons, List.forall_mem_append] at hparts
    obtain ⟨htarget, hiter, hbody, horelse⟩ := hparts
    exact (hgo.tree hiter).bind fun _ => (keeps_op rfl).bind fun _ => keeps_newLoop.bind fun _ =>
      keeps_here.bind fun _ => (keeps_hole rfl).bind fun _ => (hgo.tree htarget).bind fun _ =>
      (hgo.forM hbody).inBlock.bind fun _ => (keeps_op rfl).bind fun _ =>
      (keeps_fill _).bind fun _ => (hgo.forM horelse).bind fun _ => keeps_landBreaks _
  | whileLoop test body orelse =>
    obtain ⟨htest, hrest⟩ := List.forall_mem_cons.mp (hn.parts hform rfl)
    obtain ⟨hbody, horelse⟩ := List.forall_mem_append.mp hrest
    exact keeps_newLoop.bind fun _ => keeps_here.bind fun _ =>
      (keeps_jumpUnless hgo htest).bind fun _ =>
      (hgo.forM hbody).inBlock.bind fun _ => (keeps_op rfl).bind fun _ =>
      (keeps_fillAll _).bind fun _ => (hgo.forM horelse).bind fun _ => keeps_landBreaks _
  | branch test body orelse =>
    obtain ⟨htest, hrest⟩ := List.forall_mem_cons.mp (hn.parts hform rfl)
    obtain ⟨hbody, horelse⟩ := List.forall_mem_append.mp hrest
    exact (keeps_jumpUnless hgo htest).bind fun _ => (hgo.forM hbody).bind fun _ =>
      (keeps_hole rfl).bind fun _ => (keeps_fillAll _).bind fun _ =>
      (hgo.forM horelse).bind fun _ => keeps_fill _
  | withBlock isAsync items body =>
    obtain ⟨hitems, hbody⟩ := List.forall_mem_append.mp (hn.parts hform rfl)
    exact keeps_inContexts hgo _ (hgo.forM hbody) hitems
  | tryBlock star body handlers orelse finalbody =>
    have hparts := hn.parts hform rfl
    simp only [Form.parts, List.forall_mem_append] at hparts
    obtain ⟨⟨⟨hbody, hhandlers⟩, horelse⟩, hfinal⟩ := hparts
    have hinner : Keeps Q owner (if handlers.isEmpty then do
          body.forM go
          orelse.forM go
        else if star then handledByParts go body handlers orelse
        else handled go body handlers orelse) := by
      split
      · exact (hgo.forM hbody).bind fun _ => hgo.forM horelse
      · split
        · exact keeps_handledByParts hgo ⟨hbody, hhandlers, horelse⟩
        · exact keeps_handled hgo ⟨hbody, hhandlers, horelse⟩
    dsimp only
    split
    · exact hinner
    · exact keeps_followed hgo hinner hfinal
  | matchOn subject cases =>
    obtain ⟨hsubject, hcases⟩ := List.forall_mem_cons.mp (hn.parts hform rfl)
    exact keeps_matched hgo hsubject hcases
  | raise exc cause => exact (hgo.forM (hn.parts hform rfl)).bind fun _ => keeps_op rfl
  | assert test message =>
    obtain ⟨htest, hmessage⟩ := List.forall_mem_cons.mp (hn.parts hform rfl)
    exact (keeps_jumpWhere hgo _ true htest).bind fun _ => (keeps_orNone hgo hmessage).bind fun _ =>
      (keeps_op rfl).bind fun _ => keeps_fillAll _
  | importModules names =>
    rw [hform] at himport
    exact himport trivial
  | importFrom module names level =>
    rw [hform] at himport
    exact himport trivial
  | expression value =>
    dsimp only
    split
    · exact (hgo.tree (hn.parts hform rfl value List.mem_cons_self)).bind fun _ => keeps_op rfl
    · exact keeps_pure ()
  | leaveLoop => exact keeps_loopJump hgo true
  | nextRound => exact keeps_loopJump hgo false
  | globals _ | nonlocals _ | pass => exact keeps_pure ()
  | _ => exact keeps_expression hgo hn

theorem keepsTrees_write (fuel : Nat) : KeepsTrees Q (write fuel) := by
  induction fuel with
  | zero => exact ⟨fun _ => keeps_pure ()⟩
  | succ fuel ih => exact ⟨fun hn => (keeps_statement ih hn).within _⟩

end LiveSketch.Script.Emit

namespace LiveSketch.Script

/-- The code of a script asks for no import but those that stand in the script, each as the class
around it has it, whatever codes were there before. -/
theorem request_of_mem_codesAfter {before : Array Code} {scope : Scope} {tree : Node}
    {file : String} {c : Code}
    (hc : c ∈ (codesAfter before scope tree file).toList.drop before.size) {q : ImportRequest}
    (hq : q ∈ c.requests) : ∃ p ∈ tree.sites none, ∃ i ∈ p.2.imports, q = i.request p.1 := by
  let Q : Confinement :=
    ⟨fun q => ∃ p ∈ tree.sites none, ∃ i ∈ p.2.imports, q = i.request p.1, before.size⟩
  have htree : tree.Allows Q none := fun p hp i hi => ⟨p, hp, i, hi, rfl⟩
  have hstart : Emitter.IsConfined Q ⟨before, [], 0, file⟩ := by
    refine ⟨fun c hc => ?_, List.forall_mem_nil _⟩
    rw [List.drop_eq_nil_of_le (Nat.le_of_eq Array.length_toList)] at hc
    cases hc
  obtain ⟨-, hconfined⟩ := ((Emit.keepsTrees_write _).tree htree).confined_unit hstart scope
    .module "<module>" "<module>" default none (some 1)
  exact hconfined.codes c hc q hq

end LiveSketch.Script

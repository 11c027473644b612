import LiveSketch.Proofs.Imports.Confined.Basic
import LiveSketch.Script.Code.Statement

/-!
# Patterns and expressions keep to the imports of their tree

One lemma for each way of writing, with any way `go` of writing the trees inside (`KeepsTrees`). A
comprehension or a function without a name is a unit of its own, of the class around it.
-/

namespace LiveSketch.Script.Emit

variable {α β : Type} {Q : Confinement} {owner : Option String} {go : Node → Emit Unit}

/-! ## Patterns -/

theorem keeps_noteMiss (place depth : Nat) : Keeps Q owner (noteMiss place depth) := keeps_aside

theorem keeps_missIfFalse (depth : Nat) : Keeps Q owner (missIfFalse depth) :=
  (keeps_hole rfl).bind fun _ => keeps_noteMiss _ _

theorem keeps_miss (depth : Nat) : Keeps Q owner (miss depth) :=
  (keeps_hole rfl).bind fun _ => keeps_noteMiss _ _

theorem Keeps.missesOf {x : Emit Unit} (hx : Keeps Q owner x) : Keeps Q owner (missesOf x) :=
  keeps_current fun _ _ _ => Keeps.bind keeps_aside fun _ => hx.bind fun _ =>
    keeps_current fun _ _ _ => Keeps.bind keeps_aside fun _ => keeps_pure _

theorem keeps_landMisses (misses : List (Nat × Nat)) : Keeps Q owner (landMisses misses) :=
  (keeps_forM fun _ _ => (keeps_fillAll _).bind fun _ => keeps_op rfl).bind fun _ => keeps_fillAll _

theorem keeps_captureSlot (name : String) : Keeps Q owner (captureSlot name) :=
  (asks_slotOf _).keeps_quiet

theorem keeps_keep (name : Option String) : Keeps Q owner (keep name) := by
  cases name with
  | none => exact keeps_op rfl
  | some name => exact (keeps_captureSlot name).bind fun _ => keeps_op rfl

theorem keeps_pattern (hgo : KeepsTrees Q go) (fuel depth : Nat) {n : Node}
    (hn : n.Allows Q owner) : Keeps Q owner (pattern go fuel depth n) := by
  induction fuel generalizing depth n with
  | zero => exact keeps_op rfl
  | succ fuel ih =>
    have hrow : ∀ (below : Nat) (patterns : List Node), (∀ p ∈ patterns, p.Allows Q owner) →
        Keeps Q owner ((patterns.zip (List.range patterns.length).reverse).forM fun a =>
          pattern go fuel (below + a.2) a.1) := fun below patterns h =>
      keeps_forM fun a ha => ih _ (h a.1 (List.of_mem_zip ha).1)
    rw [pattern]
    refine Keeps.within ?_ _
    cases hform : n.form with
    | matchValue v =>
      have hv := hn.parts hform rfl v List.mem_cons_self
      exact (hgo.tree hv).bind fun _ => (keeps_op rfl).bind fun _ => keeps_missIfFalse _
    | matchSingleton v =>
      exact (keeps_op rfl).bind fun _ => (keeps_op rfl).bind fun _ => keeps_missIfFalse _
    | matchStar name => exact keeps_keep name
    | matchAs pattern name =>
      cases pattern with
      | none => exact keeps_keep name
      | some p =>
        have hp := hn.parts hform rfl p List.mem_cons_self
        exact (keeps_op rfl).bind fun _ => (ih _ hp).bind fun _ => keeps_keep name
    | matchOr patterns =>
      have hps := hn.parts hform rfl
      refine Keeps.bind (keeps_mapM fun p hp => ?_) fun _ => ?_
      · exact (keeps_op rfl).bind fun _ => (ih _ (hps p hp)).missesOf.bind fun _ =>
          (keeps_hole rfl).bind fun _ => (keeps_landMisses _).bind fun _ => keeps_pure _
      · exact (keeps_op rfl).bind fun _ => (keeps_miss _).bind fun _ =>
          (keeps_fillAll _).bind fun _ => keeps_op rfl
    | matchSequence patterns =>
      have hps := hrow depth patterns (hn.parts hform rfl)
      refine (keeps_op rfl).bind fun _ => (keeps_missIfFalse _).bind fun _ => ?_
      dsimp only
      split
      · exact (keeps_op rfl).bind fun _ => (keeps_missIfFalse _).bind fun _ =>
          (keeps_op rfl).bind fun _ => hps
      · exact (keeps_op rfl).bind fun _ => (keeps_missIfFalse _).bind fun _ =>
          (keeps_op rfl).bind fun _ => hps
    | matchMapping keys patterns rest =>
      obtain ⟨hkeys, hps⟩ := List.forall_mem_append.mp (hn.parts hform rfl)
      have hrest : Keeps Q owner (if rest.isSome then do
          keys.forM go
          op (.matchRest keys.length)
          keep rest
        else keep rest) := by
        split
        · exact (hgo.forM hkeys).bind fun _ => (keeps_op rfl).bind fun _ => keeps_keep rest
        · exact keeps_keep rest
      refine (keeps_op rfl).bind fun _ => (keeps_missIfFalse _).bind fun _ => ?_
      dsimp only
      split
      · exact (keeps_op rfl).bind fun _ => (keeps_missIfFalse _).bind fun _ =>
          (hgo.forM hkeys).bind fun _ => (keeps_op rfl).bind fun _ =>
          (keeps_missIfFalse _).bind fun _ => (hrow _ patterns hps).bind fun _ => hrest
      · exact hrest
    | matchClass cls patterns attributes attributePatterns =>
      obtain ⟨hcls, hps⟩ := List.forall_mem_cons.mp (hn.parts hform rfl)
      exact (hgo.tree hcls).bind fun _ => (keeps_op rfl).bind fun _ =>
        (keeps_missIfFalse _).bind fun _ => hrow _ _ hps
    | _ => exact keeps_op rfl

/-! ## Rows -/

theorem keeps_orNone (hgo : KeepsTrees Q go) {n : Option Node}
    (hn : ∀ c ∈ n.toList, c.Allows Q owner) : Keeps Q owner (orNone go n) := by
  cases n with
  | none => exact keeps_op rfl
  | some c => exact hgo.tree (hn c List.mem_cons_self)

theorem KeepsTrees.named (hgo : KeepsTrees Q go) (text : α → String) {entries : List (α × Node)}
    (he : ∀ e ∈ entries, e.2.Allows Q owner) : Keeps Q owner (entries.forM fun e => do
      push (.text (text e.1))
      go e.2) :=
  keeps_forM fun e hmem => (keeps_op rfl).bind fun _ => hgo.tree (he e hmem)

section Rows

variable {elements : List Node}

theorem keeps_row (hgo : KeepsTrees Q go) {build : Nat → Op} {add extend : Op}
    (hbuild : ∀ k, (build k).request? = none) (hadd : add.request? = none)
    (hextend : extend.request? = none) (he : ∀ e ∈ elements, e.Allows Q owner) :
    Keeps Q owner (row go build add extend elements) := by
  refine (hgo.forM fun e hmem => he e ((List.takeWhile_prefix _).subset hmem)).bind fun _ =>
    (keeps_op (hbuild _)).bind fun _ => keeps_forM fun e hmem => ?_
  refine (hgo.tree (he e (List.mem_of_mem_drop hmem)).unstarred).bind fun _ => keeps_op ?_
  split
  · exact hextend
  · exact hadd

theorem keeps_listOf (hgo : KeepsTrees Q go) (he : ∀ e ∈ elements, e.Allows Q owner) :
    Keeps Q owner (listOf go elements) := keeps_row hgo (fun _ => rfl) rfl rfl he

theorem keeps_tupleOf (hgo : KeepsTrees Q go) (he : ∀ e ∈ elements, e.Allows Q owner) :
    Keeps Q owner (tupleOf go elements) := by
  unfold tupleOf
  split
  · exact (keeps_listOf hgo he).bind fun _ => keeps_op rfl
  · exact (hgo.forM he).bind fun _ => keeps_op rfl

theorem keeps_unpackInto (hgo : KeepsTrees Q go) (he : ∀ e ∈ elements, e.Allows Q owner) :
    Keeps Q owner (unpackInto go elements) := by
  refine (keeps_op ?_).bind fun _ => keeps_forM fun e hmem => hgo.tree (he e hmem).unstarred
  split <;> rfl

end Rows

/-! ## Calls -/

/-- The values of named arguments ask for imports in `Q` only. -/
inductive Named.Allows (Q : Confinement) (owner : Option String) : Named → Prop
  | row {named : List (String × Node)} (h : ∀ e ∈ named, e.2.Allows Q owner) :
      Named.Allows Q owner (.row named)
  | spread {value : Node} (h : value.Allows Q owner) : Named.Allows Q owner (.spread value)

theorem allows_namedOf {keywords : List Node} (hk : ∀ k ∈ keywords, k.Allows Q owner) :
    ∀ span ∈ namedOf keywords, span.Allows Q owner := by
  induction keywords with
  | nil => exact List.forall_mem_nil _
  | cons k rest ih =>
    obtain ⟨hk, hrest⟩ := List.forall_mem_cons.mp hk
    have ih := ih hrest
    unfold namedOf
    split
    · rename_i name value named more hform hspans
      have hv := hk.parts hform rfl value List.mem_cons_self
      rw [hspans] at ih
      obtain ⟨⟨hnamed⟩, hmore⟩ := List.forall_mem_cons.mp ih
      exact List.forall_mem_cons.mpr ⟨.row (List.forall_mem_cons.mpr ⟨hv, hnamed⟩), hmore⟩
    · rename_i name value hform _
      have hv := hk.parts hform rfl value List.mem_cons_self
      exact List.forall_mem_cons.mpr ⟨.row (List.forall_mem_singleton.mpr hv), ih⟩
    · rename_i value hform
      have hv := hk.parts hform rfl value List.mem_cons_self
      exact List.forall_mem_cons.mpr ⟨.spread hv, ih⟩
    · exact ih

theorem keeps_namedDict (hgo : KeepsTrees Q go) {spans : List Named}
    (hs : ∀ span ∈ spans, span.Allows Q owner) : Keeps Q owner (namedDict go spans) := by
  refine keeps_forM fun part hmem => ?_
  obtain ⟨span, k⟩ := part
  cases hs span (List.of_mem_zip hmem).1 with
  | row hentries =>
    refine (hgo.named (fun name => name) hentries).bind fun _ => (keeps_op rfl).bind fun _ => ?_
    split
    · exact keeps_op rfl
    · exact keeps_pure ()
  | spread hvalue =>
    have hvalue := hgo.tree hvalue
    dsimp only
    split
    · exact (keeps_op rfl).bind fun _ => hvalue.bind fun _ => keeps_op rfl
    · exact hvalue.bind fun _ => keeps_op rfl

theorem keeps_given (hgo : KeepsTrees Q go) (line : Option Int) {arguments keywords : List Node}
    (ha : ∀ a ∈ arguments, a.Allows Q owner) (hk : ∀ k ∈ keywords, k.Allows Q owner)
    {plainCall : Nat → List String → Op} {spreadCall : Bool → Op}
    (hplain : ∀ k names, (plainCall k names).request? = none)
    (hspread : ∀ hasNamed, (spreadCall hasNamed).request? = none) :
    Keeps Q owner (given go line arguments keywords plainCall spreadCall) := by
  refine keeps_current fun u _ _ => ?_
  have hnamed := allows_namedOf hk
  have htail : Keeps Q owner (do
      namedDict go (namedOf keywords)
      within line (op (spreadCall !(namedOf keywords).isEmpty))) :=
    (keeps_namedDict hgo hnamed).bind fun _ => (keeps_op (hspread _)).within line
  have hinRow : ∀ entries : List (String × Node), (∀ e ∈ entries, e.2.Allows Q owner) →
      Keeps Q owner (do
        arguments.forM go
        entries.forM fun e => go e.2
        within line (op (plainCall arguments.length
          (entries.map fun e => privateName u.owner e.1)))) := fun entries he =>
    (hgo.forM ha).bind fun _ => (keeps_forM fun e hmem => hgo.tree (he e hmem)).bind fun _ =>
      (keeps_op (hplain _ _)).within line
  dsimp only
  split
  on_goal 2 =>
    split
    · exact hinRow [] (List.forall_mem_nil _)
    · rename_i entries hentries
      rw [hentries] at hnamed
      obtain ⟨hgiven⟩ := hnamed _ List.mem_cons_self
      exact hinRow entries hgiven
  -- both remaining ways spread the arguments out
  all_goals
    split
    · rename_i only _
      split
      · exact (hgo.tree (ha only List.mem_cons_self).unstarred).bind fun _ => htail
      · exact (keeps_tupleOf hgo ha).bind fun _ => htail
    · exact (keeps_tupleOf hgo ha).bind fun _ => htail

/-! ## Conditions -/

theorem keeps_jumpWhere (hgo : KeepsTrees Q go) (fuel : Nat) (wanted : Bool) {n : Node}
    (hn : n.Allows Q owner) : Keeps Q owner (jumpWhere go fuel wanted n) := by
  induction fuel generalizing wanted n with
  | zero => exact keeps_pure []
  | succ fuel ih =>
    have hplain : Keeps Q owner (do
        go n
        return [← hole (if wanted then .jumpIfTrue else .jumpIfFalse)]) := by
      refine (hgo.tree hn).bind fun _ => (keeps_hole ?_).bind fun _ => keeps_pure _
      split <;> rfl
    rw [jumpWhere]
    split
    · rename_i operand hform
      exact ih _ (hn.parts hform rfl operand List.mem_cons_self)
    · rename_i connective values hform
      have hvalues := hn.parts hform rfl
      dsimp only
      split
      · exact hplain
      · rename_i last before hreverse
        have hall : ∀ v ∈ last :: before, v.Allows Q owner := fun v hv =>
          hvalues v (List.mem_reverse.mp (hreverse ▸ hv))
        obtain ⟨hlast, hbefore⟩ := List.forall_mem_cons.mp hall
        refine (keeps_flatMapM fun v hv => ih _ (hbefore v (List.mem_reverse.mp hv))).bind fun _ =>
          (ih _ hlast).bind fun _ => ?_
        split
        · exact keeps_pure _
        · exact (keeps_fillAll _).bind fun _ => keeps_pure _
    · rename_i test body orelse hform
      obtain ⟨htest, hbody, horelse⟩ := Node.allows_three (hn.parts hform rfl)
      exact (ih _ htest).bind fun _ => (ih _ hbody).bind fun _ => (keeps_hole rfl).bind fun _ =>
        (keeps_fillAll _).bind fun _ => (ih _ horelse).bind fun _ => (keeps_fill _).bind fun _ =>
        keeps_pure _
    · exact hplain

theorem keeps_jumpUnless (hgo : KeepsTrees Q go) {test : Node} (h : test.Allows Q owner) :
    Keeps Q owner (jumpUnless go test) := keeps_jumpWhere hgo _ _ h

theorem keeps_comparison (hgo : KeepsTrees Q go) {left : Node} (hleft : left.Allows Q owner)
    (ops : List Comparison) {rest : List Node} (hrest : ∀ n ∈ rest, n.Allows Q owner) :
    Keeps Q owner (comparison go left ops rest) := by
  have hstep : ∀ step ∈ ops.zip rest, Keeps Q owner (go step.2) := fun step hstep =>
    hgo.tree (hrest step.2 (List.of_mem_zip hstep).2)
  refine (hgo.tree hleft).bind fun _ => (keeps_mapM fun step hmem => ?_).bind fun holes => ?_
  · exact (hstep step (List.mem_of_mem_take hmem)).bind fun _ => (keeps_op rfl).bind fun _ =>
      (keeps_op rfl).bind fun _ => (keeps_op rfl).bind fun _ => keeps_hole rfl
  · refine (keeps_forM fun step hmem => ?_).bind fun _ => ?_
    · exact (hstep step (List.mem_of_mem_drop hmem)).bind fun _ => keeps_op rfl
    · split
      · exact (keeps_hole rfl).bind fun _ => (keeps_fillAll _).bind fun _ =>
          (keeps_op rfl).bind fun _ => (keeps_op rfl).bind fun _ => keeps_fill _
      · exact keeps_pure ()

/-! ## Functions -/

/-- The parts of a parameter list ask for imports in `Q` only. -/
structure ParametersAllow (Q : Confinement) (owner : Option String) (p : ParameterList) :
    Prop where
  parameters : ∀ a ∈ p.positional ++ p.posOnly ++ p.rest.toList ++ p.keywordOnly ++
    p.keywordRest.toList, a.Allows Q owner
  defaults : ∀ d ∈ p.defaults, d.Allows Q owner
  keywordDefaults : ∀ d, some d ∈ p.keywordDefaults → d.Allows Q owner

theorem parametersAllow {args : Node} (h : args.Allows Q owner) :
    ParametersAllow Q owner (parameterList args) := by
  unfold parameterList
  split
  · rename_i posOnly positional rest keywordOnly keywordDefaults keywordRest defaults hform
    have hparts := h.parts hform rfl
    refine ⟨fun a ha => hparts a ?_, fun d hd => hparts d ?_, fun d hd => hparts d ?_⟩
    · simp only [Form.parts, List.mem_append] at ha ⊢
      tauto
    · exact List.mem_append_right _ hd
    · have hgiven : d ∈ keywordDefaults.filterMap id := List.mem_filterMap.mpr ⟨some d, hd, rfl⟩
      simp only [Form.parts, List.mem_append]
      tauto
  · exact ⟨List.forall_mem_nil _, List.forall_mem_nil _, fun _ hd => absurd hd List.not_mem_nil⟩

theorem keeps_defaultsOf (hgo : KeepsTrees Q go) {p : ParameterList}
    (hp : ParametersAllow Q owner p) : Keeps Q owner (defaultsOf go p) := by
  refine keeps_current fun u _ _ => ?_
  dsimp only
  generalize hnamed : List.filterMap _ _ = named
  have hvalues : ∀ e ∈ named, e.2.Allows Q owner := by
    intro e he
    rw [← hnamed] at he
    obtain ⟨⟨k, d⟩, hmem, hd⟩ := List.mem_filterMap.mp he
    obtain ⟨value, rfl, rfl⟩ := Option.map_eq_some_iff.mp hd
    exact hp.keywordDefaults value (List.of_mem_zip hmem).2
  have hrow := hgo.named (fun a => privateName u.owner (parameterName a)) hvalues
  split
  on_goal 1 => refine (hgo.forM hp.defaults).bind fun _ => (keeps_op rfl).bind fun _ => ?_
  all_goals
    split
    · exact hrow.bind fun _ => (keeps_op rfl).bind fun _ => keeps_pure _
    · exact keeps_pure _

theorem keeps_makeFunction (scope : Scope) (code : Nat) (defaults : Bool × Bool)
    (hasDeclared : Bool) : Keeps Q owner (makeFunction scope code defaults hasDeclared) :=
  (keeps_shareCells scope).bind fun _ => keeps_op rfl

/-! ## Comprehensions -/

/-- The parts of a clause ask for imports in `Q` only. -/
structure ClauseAllows (Q : Confinement) (owner : Option String) (c : Walk.Clause) :
    Prop where
  target : c.target.Allows Q owner
  iter : c.iter.Allows Q owner
  conditions : ∀ n ∈ c.conditions, n.Allows Q owner

theorem clauseAllows {c : Node} (h : c.Allows Q owner) :
    ClauseAllows Q owner (Walk.clauseOf c) := by
  unfold Walk.clauseOf
  split
  · rename_i hform
    obtain ⟨htarget, hrest⟩ := List.forall_mem_cons.mp (h.parts hform rfl)
    obtain ⟨hiter, hconditions⟩ := List.forall_mem_cons.mp hrest
    exact ⟨htarget, hiter, hconditions⟩
  · exact ⟨Node.allows_default, Node.allows_default, List.forall_mem_nil _⟩

theorem keeps_clausesOf (hgo : KeepsTrees Q go) {innermost : Emit Unit}
    (hinnermost : Keeps Q owner innermost) (isFirst : Bool) {clauses : List Node}
    (hc : ∀ c ∈ clauses, c.Allows Q owner) :
    Keeps Q owner (clausesOf go innermost isFirst clauses) := by
  induction clauses generalizing isFirst with
  | nil => rw [clausesOf]; exact hinnermost
  | cons c rest ih =>
    obtain ⟨hc, hrest⟩ := List.forall_mem_cons.mp hc
    have hclause := clauseAllows hc
    rw [clausesOf]
    dsimp only
    split
    on_goal 1 => refine (keeps_op rfl).bind fun _ => ?_
    on_goal 2 => refine (hgo.tree hclause.iter).bind fun _ => (keeps_op rfl).bind fun _ => ?_
    all_goals
      exact keeps_here.bind fun _ => (keeps_hole rfl).bind fun _ =>
        (hgo.tree hclause.target).bind fun _ =>
        (keeps_flatMapM fun n hn => keeps_jumpUnless hgo (hclause.conditions n hn)).bind fun _ =>
        (ih false hrest).bind fun _ => (keeps_fillAll _).bind fun _ => (keeps_op rfl).bind fun _ =>
        keeps_fill _

theorem keeps_comprehension (hgo : KeepsTrees Q go) (span : Span) (name : String)
    {build : Option Op} (hbuild : ∀ o ∈ build.toList, o.request? = none) {clauses : List Node}
    (hc : ∀ c ∈ clauses, c.Allows Q owner) {innermost : Emit Unit}
    (hinnermost : Keeps Q owner innermost) :
    Keeps Q owner (comprehension go span name build clauses innermost) := by
  have hfirst : (clauses.head?.getD default).Allows Q owner := by
    cases clauses with
    | nil => exact Node.allows_default
    | cons c rest => exact hc c List.mem_cons_self
  refine keeps_current fun u howner _ => ?_
  dsimp only
  rw [howner]
  refine (keeps_fullNameOf name).bind fun _ => (keeps_unit ?_ _ _ _ _ _ _ _).bind fun _ =>
    (keeps_makeFunction _ _ _ _).bind fun _ => (hgo.tree (clauseAllows hfirst).iter).bind fun _ =>
    (keeps_op rfl).bind fun _ => keeps_op rfl
  refine (keeps_forM_option fun o ho => keeps_op (hbuild o ho)).bind fun _ =>
    (keeps_clausesOf hgo hinnermost true hc).bind fun _ => ?_
  split
  · exact (keeps_op rfl).bind fun _ => keeps_op rfl
  · exact keeps_op rfl

/-! ## Expressions -/

theorem keeps_expression (hgo : KeepsTrees Q go) {n : Node} (hn : n.Allows Q owner) :
    Keeps Q owner (expression go n) := by
  unfold expression
  cases hform : n.form with
  | constant l => exact keeps_op rfl
  | name id access =>
    dsimp only
    split
    all_goals
      first
      | contradiction
      | exact keeps_op rfl
      | exact keeps_nameUse _ _
      | exact keeps_pure ()
  | connect connective values =>
    have hv := hn.parts hform rfl
    refine (keeps_flatMapM fun step hmem => ?_).bind fun _ => keeps_fillAll _
    refine (hgo.tree (hv step.1 (List.of_mem_zip hmem).1)).bind fun _ => ?_
    split
    · refine (keeps_hole ?_).bind fun _ => keeps_pure _
      split <;> rfl
    · exact keeps_pure _
  | namedExpr target value =>
    obtain ⟨htarget, hvalue⟩ := Node.allows_two (hn.parts hform rfl)
    exact (hgo.tree hvalue).bind fun _ => (keeps_op rfl).bind fun _ => hgo.tree htarget
  | binary left o right =>
    obtain ⟨hleft, hright⟩ := Node.allows_two (hn.parts hform rfl)
    exact (hgo.tree hleft).bind fun _ => (hgo.tree hright).bind fun _ => keeps_op rfl
  | unary o operand =>
    have hoperand := hn.parts hform rfl operand List.mem_cons_self
    have hplain : Keeps Q owner (do
        go operand
        op (.unary o)) := (hgo.tree hoperand).bind fun _ => keeps_op rfl
    have hflipped : ∀ left ops rest, operand.form = .compare left ops rest → ∀ flipped,
        Keeps Q owner (comparison go left flipped rest) := by
      intro left ops rest hcompare flipped
      obtain ⟨hleft, hrest⟩ := List.forall_mem_cons.mp (hoperand.parts hcompare rfl)
      exact keeps_comparison hgo hleft flipped hrest
    cases o with
    | not =>
      dsimp only
      split
      all_goals
        first
        | exact hflipped _ _ _ ‹_› _
        | exact hplain
    | _ => exact hplain
  | ifExp test body orelse =>
    obtain ⟨htest, hbody, horelse⟩ := Node.allows_three (hn.parts hform rfl)
    exact (keeps_jumpUnless hgo htest).bind fun _ => (hgo.tree hbody).bind fun _ =>
      (keeps_hole rfl).bind fun _ => (keeps_fillAll _).bind fun _ =>
      (hgo.tree horelse).bind fun _ => keeps_fill _
  | dict keys values =>
    obtain ⟨hkeys, hvalues⟩ := List.forall_mem_append.mp (hn.parts hform rfl)
    refine (keeps_op rfl).bind fun _ => keeps_forM fun entry hmem => ?_
    obtain ⟨k, v⟩ := entry
    obtain ⟨hk, hv⟩ := List.of_mem_zip hmem
    cases k with
    | some k =>
      have hk : k ∈ keys.filterMap id := List.mem_filterMap.mpr ⟨some k, hk, rfl⟩
      exact (hgo.tree (hkeys k hk)).bind fun _ => (hgo.tree (hvalues v hv)).bind fun _ =>
        keeps_op rfl
    | none => exact (hgo.tree (hvalues v hv)).bind fun _ => keeps_op rfl
  | set elements => exact keeps_row hgo (fun _ => rfl) rfl rfl (hn.parts hform rfl)
  | listComp element clauses =>
    obtain ⟨helement, hclauses⟩ := List.forall_mem_cons.mp (hn.parts hform rfl)
    exact keeps_comprehension hgo _ _ (by simp [Op.request?]) hclauses
      ((hgo.tree helement).bind fun _ => keeps_op rfl)
  | setComp element clauses =>
    obtain ⟨helement, hclauses⟩ := List.forall_mem_cons.mp (hn.parts hform rfl)
    exact keeps_comprehension hgo _ _ (by simp [Op.request?]) hclauses
      ((hgo.tree helement).bind fun _ => keeps_op rfl)
  | dictComp key value clauses =>
    obtain ⟨hkey, hrest⟩ := List.forall_mem_cons.mp (hn.parts hform rfl)
    obtain ⟨hvalue, hclauses⟩ := List.forall_mem_cons.mp hrest
    exact keeps_comprehension hgo _ _ (by simp [Op.request?]) hclauses
      ((hgo.tree hkey).bind fun _ => (hgo.tree hvalue).bind fun _ => keeps_op rfl)
  | generatorExp element clauses =>
    obtain ⟨helement, hclauses⟩ := List.forall_mem_cons.mp (hn.parts hform rfl)
    exact keeps_comprehension hgo _ _ (by simp) hclauses
      ((hgo.tree helement).bind fun _ => (keeps_op rfl).bind fun _ => keeps_op rfl)
  | lambda args body =>
    obtain ⟨hargs, hbody⟩ := Node.allows_two (hn.parts hform rfl)
    refine (keeps_defaultsOf hgo (parametersAllow hargs)).bind fun _ =>
      keeps_current fun u howner _ => ?_
    dsimp only
    rw [howner]
    exact (keeps_fullNameOf _).bind fun _ =>
      (keeps_unit ((hgo.tree hbody).bind fun _ => keeps_op rfl) _ _ _ _ _ _ _).bind fun _ =>
      keeps_makeFunction _ _ _ _
  | yield value =>
    exact (keeps_orNone hgo (hn.parts hform rfl)).bind fun _ => keeps_op rfl
  | yieldFrom value =>
    have hvalue := hn.parts hform rfl value List.mem_cons_self
    exact (hgo.tree hvalue).bind fun _ => (keeps_op rfl).bind fun _ => (keeps_op rfl).bind fun _ =>
      keeps_op rfl
  | await value =>
    have hvalue := hn.parts hform rfl value List.mem_cons_self
    exact (hgo.tree hvalue).bind fun _ => (keeps_op rfl).bind fun _ => (keeps_op rfl).bind fun _ =>
      keeps_op rfl
  | compare left ops rest =>
    obtain ⟨hleft, hrest⟩ := List.forall_mem_cons.mp (hn.parts hform rfl)
    exact keeps_comparison hgo hleft ops hrest
  | call func arguments keywords =>
    obtain ⟨hfunc, hgiven⟩ := List.forall_mem_cons.mp (hn.parts hform rfl)
    obtain ⟨harguments, hkeywords⟩ := List.forall_mem_append.mp hgiven
    exact (hgo.tree hfunc).bind fun _ =>
      keeps_given hgo _ harguments hkeywords (fun _ _ => rfl) fun _ => rfl
  | formattedValue value conversion spec =>
    obtain ⟨hvalue, hspec⟩ := List.forall_mem_cons.mp (hn.parts hform rfl)
    exact (hgo.tree hvalue).bind fun _ => (hgo.forM_option hspec).bind fun _ => keeps_op rfl
  | joinedText values =>
    exact (hgo.forM (hn.parts hform rfl)).bind fun _ => keeps_op rfl
  | member value name access =>
    have hvalue := hn.parts hform rfl value List.mem_cons_self
    refine (hgo.tree hvalue).bind fun _ => keeps_current fun u _ _ => ?_
    cases access with
    | load | store => exact (keeps_op rfl).within _
    | remove => exact keeps_op rfl
  | subscript value index access =>
    obtain ⟨hvalue, hindex⟩ := Node.allows_two (hn.parts hform rfl)
    refine (hgo.tree hvalue).bind fun _ => (hgo.tree hindex).bind fun _ => keeps_op ?_
    cases access <;> rfl
  | slice lower upper step =>
    obtain ⟨hbounds, hstep⟩ := List.forall_mem_append.mp (hn.parts hform rfl)
    obtain ⟨hlower, hupper⟩ := List.forall_mem_append.mp hbounds
    exact (keeps_orNone hgo hlower).bind fun _ => (keeps_orNone hgo hupper).bind fun _ =>
      (keeps_orNone hgo hstep).bind fun _ => keeps_op rfl
  | list elements access =>
    have helements := hn.parts hform rfl
    cases access with
    | load => exact keeps_listOf hgo helements
    | store => exact keeps_unpackInto hgo helements
    | remove => exact hgo.forM helements
  | tuple elements access =>
    have helements := hn.parts hform rfl
    cases access with
    | load => exact keeps_tupleOf hgo helements
    | store => exact keeps_unpackInto hgo helements
    | remove => exact hgo.forM helements
  | starred value access => exact hgo.tree (hn.parts hform rfl value List.mem_cons_self)
  | _ => exact keeps_pure ()

end LiveSketch.Script.Emit

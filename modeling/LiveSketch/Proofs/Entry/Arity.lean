import LiveSketch.Proofs.Entry.Resolution
import LiveSketch.Script.Code.Emitter
import LiveSketch.Script.Machine.Construct

/-!
# The host's call fits the entry point

The search for an entry point looks at the parameters of a definition, a call gives values to the
parameters of its code. Arguments by place alone fit exactly as many parameters by place if every
parameter by name only has a value of its own (`Parameters.bind_placed`), and the parameters of a
code are those of the definition that it was written for (`Code.IsFor`). So whatever definition the
search finds, the three values of the host fit it (`entryPoint_exact`).
-/

namespace LiveSketch

namespace Script

/-! ## Arguments by place -/

namespace Parameters

variable {α : Type}

theorem map_zip_some {values : List α} {own : List (Option α)}
    {take : Option α × Option α → Option α} (htake : ∀ a d, take (some a, d) = some a)
    (h : values.length ≤ own.length) :
    ((values.map some).zip own).map take = values.map some := by
  induction values generalizing own with
  | nil => rfl
  | cons v values ih =>
    cases own with
    | nil => exact absurd h (by simp)
    | cons d own =>
      have htail := ih (Nat.le_of_succ_le_succ h)
      simpa [htake] using htail

theorem fillUp_some {values : List α} {own : List (Option α)} {names : List String}
    (h : values.length ≤ own.length) :
    fillUp (values.map some) own names = (values.map some, []) := by
  unfold fillUp
  dsimp only
  rw [map_zip_some (fun _ _ => rfl) h]
  congr 1
  refine List.filterMap_eq_nil_iff.mpr fun e he => ?_
  obtain ⟨v, n⟩ := e
  obtain ⟨a, -, rfl⟩ := List.mem_map.mp (List.of_mem_zip he).1
  rfl

/-- Parameters without an argument take their own values, and none is missing if each has one. -/
theorem fillUp_none {own : String → Option α} {names : List String}
    (h : ∀ n ∈ names, (own n).isSome = true) :
    fillUp (names.map fun _ => none) (names.map own) names = (names.map own, []) := by
  have hvalues : (names.map fun _ => (none : Option α)).zip (names.map own) =
      names.map fun n => (none, own n) := List.zip_map'
  have hnamed : (names.map own).zip names = names.map fun n => (own n, n) := by
    simpa using List.zip_map' (f := own) (g := id) (l := names)
  unfold fillUp
  dsimp only
  rw [hvalues, List.map_map]
  change (names.map own, ((names.map own).zip names).filterMap _) = _
  rw [hnamed]
  congr 1
  refine List.filterMap_eq_nil_iff.mpr fun e he => ?_
  obtain ⟨n, hn, rfl⟩ := List.mem_map.mp he
  have hvalue := h n hn
  simp [Option.isSome_iff_ne_none.mp hvalue]

/-- As many arguments by place as there are parameters by place go to these one by one, and each
parameter by name only takes its own value. -/
theorem bind_placed {p : Parameters} {defaults args : List α} {namedDefaults : List (String × α)}
    (hargs : args.length = p.placed.length)
    (hnamed : ∀ n ∈ p.namedOnly, (namedDefaults.lookup n).isSome = true) :
    p.bind defaults namedDefaults args [] =
      .ok ⟨args, p.namedOnly.filterMap fun n => namedDefaults.lookup n, [], []⟩ := by
  have hplaced : (args.take p.placed.length).map some ++
      List.replicate (p.placed.length - args.length) none = args.map some := by
    rw [← hargs, List.take_length, Nat.sub_self, List.replicate_zero, List.append_nil]
  have hown : args.length ≤ (List.replicate (p.placed.length - defaults.length) none ++
      defaults.map some).length := by
    rw [List.length_append, List.length_replicate, List.length_map]
    omega
  have hmany : (p.placed.length < args.length && !p.hasRest) = false := by simp [hargs]
  unfold bind
  dsimp only
  rw [hplaced, giveAllNamed]
  simp only [Bind.bind, Except.bind]
  rw [hmany, if_neg Bool.false_ne_true, fillUp_some hown, fillUp_none hnamed]
  simp [hargs, List.filterMap_map, pure, Except.pure]

end Parameters

/-! ## The parameters of a code -/

def slotName (owner : Option String) (parameter : Node) : String :=
  privateName owner (parameterName parameter)

/-- The code was written for a definition with these parameters: their names are its first slots. -/
def Code.IsFor (c : Code) (owner : Option String) (p : ParameterList) : Prop :=
  ∃ u name doc file, c = Emit.finished u name p doc file ∧
    p.all.map (slotName owner) <+: u.slots.toList

namespace Code.IsFor

variable {c : Code} {owner : Option String} {p : ParameterList}

theorem placed (h : c.IsFor owner p) :
    (Run.parametersOf c).placed = (p.posOnly ++ p.positional).map (slotName owner) := by
  obtain ⟨u, name, doc, file, rfl, others, hslots⟩ := h
  have hall : p.all.map (slotName owner) ++ others =
      (p.posOnly ++ p.positional).map (slotName owner) ++ ((p.keywordOnly ++ p.rest.toList ++
        p.keywordRest.toList).map (slotName owner) ++ others) := by
    simp [ParameterList.all]
  unfold Run.parametersOf Emit.finished
  dsimp only
  rw [← hslots, hall, List.take_left']
  simp

theorem namedOnly (h : c.IsFor owner p) :
    (Run.parametersOf c).namedOnly = p.keywordOnly.map (slotName owner) := by
  obtain ⟨u, name, doc, file, rfl, others, hslots⟩ := h
  have hall : p.all.map (slotName owner) ++ others =
      (p.posOnly ++ p.positional).map (slotName owner) ++ (p.keywordOnly.map (slotName owner) ++
        ((p.rest.toList ++ p.keywordRest.toList).map (slotName owner) ++ others)) := by
    simp [ParameterList.all]
  unfold Run.parametersOf Emit.finished
  dsimp only
  rw [← hslots, hall, List.drop_left' (by simp), List.take_left' (by simp)]

end Code.IsFor

namespace ParameterList

variable {α : Type} {p : ParameterList} {owner : Option String} {value : Node → α}

/-- The values that parameters by name only have of their own, by the values of their nodes. -/
def namedValues (p : ParameterList) (owner : Option String) (value : Node → α) :
    List (String × α) :=
  (p.keywordOnly.zip p.keywordDefaults).filterMap fun (k, d) =>
    d.map fun d => (slotName owner k, value d)

theorem lookup_namedValues_isSome (hlength : p.keywordOnly.length ≤ p.keywordDefaults.length)
    (hdefaults : ∀ d ∈ p.keywordDefaults, d.isSome = true) {name : String}
    (h : name ∈ p.keywordOnly.map (slotName owner)) :
    ((p.namedValues owner value).lookup name).isSome = true := by
  obtain ⟨k, hk, rfl⟩ := List.mem_map.mp h
  obtain ⟨i, hi, rfl⟩ := List.getElem_of_mem hk
  have hzip : i < (p.keywordOnly.zip p.keywordDefaults).length := by
    rw [List.length_zip]
    omega
  obtain ⟨d, hd⟩ := Option.isSome_iff_exists.mp
    (hdefaults _ (List.getElem_mem (Nat.lt_of_lt_of_le hi hlength)))
  have hmem : (slotName owner p.keywordOnly[i], value d) ∈ p.namedValues owner value := by
    refine List.mem_filterMap.mpr ⟨_, List.getElem_mem hzip, ?_⟩
    rw [List.getElem_zip]
    dsimp only
    rw [hd]
    rfl
  rw [Option.isSome_iff_ne_none]
  intro hnone
  simpa using List.lookup_eq_none_iff.mp hnone _ hmem

end ParameterList

end Script

/-! ## The call of the host -/

open Script (Code)

/-- The three values of the host, behind those that are filled in, go one by one to the parameters by
place of a definition that the host's call fits, and nothing is missing or left over. -/
theorem FitsDrawing.bind {α : Type} {d : Node} {filledIn : Nat} {code : Code}
    {owner : Option String} (hfits : FitsDrawing d filledIn)
    (hlength : (definitionParameters d).keywordOnly.length ≤
      (definitionParameters d).keywordDefaults.length)
    (hcode : code.IsFor owner (definitionParameters d)) (defaults : List α) (value : Node → α)
    {given : List α} (hgiven : given.length = filledIn + 3) :
    ∃ named, named.length = (definitionParameters d).keywordOnly.length ∧
      (Script.Run.parametersOf code).bind defaults
        ((definitionParameters d).namedValues owner value) given [] = .ok ⟨given, named, [], []⟩ := by
  obtain ⟨-, htakes⟩ := hfits
  obtain ⟨front, canvas, width, height, hfront, hplaced, -⟩ := htakes.placed
  have hargs : given.length = (Script.Run.parametersOf code).placed.length := by
    rw [hcode.placed, hplaced, hgiven]
    simp [hfront]
  have hnamed : ∀ n ∈ (Script.Run.parametersOf code).namedOnly,
      (((definitionParameters d).namedValues owner value).lookup n).isSome = true := by
    rw [hcode.namedOnly]
    exact fun n hn =>
      Script.ParameterList.lookup_namedValues_isSome hlength htakes.keywordDefaults hn
  refine ⟨_, ?_, Script.Parameters.bind_placed hargs hnamed⟩
  rw [List.filterMap_length_eq_length.mpr hnamed, hcode.namedOnly, List.length_map]

/-- **Entry points.** The search finds just the entry point that a script declares, and none if it
declares none. Whatever definition that is, a call with the three values of the host, behind the
class or the object that is filled in where there is one, fits the parameters of its code: each
parameter by place gets one of the values, each by name only its own one, and no value is left over.
Of the tree this needs that every parameter by name only has its place in the row of own values. -/
theorem entryPoint_exact (tree : Node) :
    (∀ e, entryPoint? tree = some e ↔ ∃ d filledIn, tree.Declares e d filledIn) ∧
    (entryPoint? tree = none ↔ ¬ ∃ e d filledIn, tree.Declares e d filledIn) ∧
    ∀ e d filledIn, tree.Declares e d filledIn →
      let p := definitionParameters d
      p.keywordOnly.length ≤ p.keywordDefaults.length →
      ∀ (code : Code) (owner : Option String), code.IsFor owner p →
      ∀ (α : Type) (value : Node → α) (given : List α), given.length = filledIn + 3 →
        ∃ named, named.length = p.keywordOnly.length ∧
          (Script.Run.parametersOf code).bind (p.defaults.map value) (p.namedValues owner value)
            given [] = .ok ⟨given, named, [], []⟩ := by
  refine ⟨fun e => entryPoint?_eq_some_iff, ?_, ?_⟩
  · rw [Option.eq_none_iff_forall_ne_some]
    simp only [ne_eq, entryPoint?_eq_some_iff, not_exists]
  · intro e d filledIn hdeclares p hlength code owner hcode α value given hgiven
    exact hdeclares.fits.bind hlength hcode _ value hgiven

/-- The method `def Draw(self, canvas, /, width: int, height: "int" = 32, *, scale=1)`. -/
def scaledMethod : Node :=
  let at2 := Node.mk ⟨some 2, some 4, some 2, none⟩
  let parameter (name : String) (declared : Option Node) := at2 (.argument name declared)
  at2 (.functionDef false "Draw"
    (at2 (.arguments [parameter "self" none, parameter "canvas" none]
      [parameter "width" (some (at2 (.name "int" .load))),
        parameter "height" (some (at2 (.constant (.text "int"))))]
      none [parameter "scale" none] [some (at2 (.constant (.int 1)))] none
      [at2 (.constant (.int 32))]))
    [at2 .pass] [] none [])

/-- A script with that method in its class. -/
def scaledScript : Node :=
  .mk default (.module [.mk ⟨some 1, some 0, some 2, none⟩
    (.classDef "Script" [] [] [scaledMethod] [] [])])

def scaledCode : Code :=
  Script.Emit.finished
    { (default : Script.CodeUnit) with slots := #["self", "canvas", "width", "height", "scale"] }
    "Draw" (definitionParameters scaledMethod) none "<drawing>"

/-- An object of the class and the three values of the host go one by one to the parameters by place,
where `height` has a value of its own, and `scale` takes its own. -/
theorem scaledScript_call :
    entryPoint? scaledScript = some ⟨true, false, 2⟩ ∧
    ∃ named, named.length = 1 ∧ (Script.Run.parametersOf scaledCode).bind [7] [("scale", 7)]
      [10, 20, 30, 40] [] = .ok ⟨[10, 20, 30, 40], named, [], []⟩ := by
  have hmethod : IsLast (definesFunction entryName) [scaledMethod] scaledMethod :=
    ⟨[], [], rfl, by decide, nofun⟩
  have howns : scaledScript.OwnsLast scaledMethod :=
    ⟨_, ⟨[], [], rfl, by decide, nofun⟩, hmethod⟩
  have htop : ¬ ∃ d, scaledScript.DeclaresTop d := topEntryPoint?_eq_none_iff.mp rfl
  have hfits : FitsDrawing scaledMethod 1 := (@hasEntryShape_iff scaledMethod true).mp (by decide)
  have hfree : ¬ IsDecorated "staticmethod" scaledMethod := by
    rw [← mem_decoratorNames_iff]
    decide
  have hclass : ¬ IsDecorated "classmethod" scaledMethod := by
    rw [← mem_decoratorNames_iff]
    decide
  have hdeclares : scaledScript.Declares ⟨true, false, 2⟩ scaledMethod 1 :=
    .ofObject htop howns hfree hclass hfits
  have hcode : scaledCode.IsFor (some "Script") (definitionParameters scaledMethod) :=
    ⟨_, _, _, _, rfl, ⟨[], by decide +kernel⟩⟩
  have hown : (definitionParameters scaledMethod).namedValues (some "Script") (fun _ => 7) =
      [("scale", 7)] := by decide +kernel
  obtain ⟨hfound, -, hcall⟩ := entryPoint_exact scaledScript
  refine ⟨(hfound _).mpr ⟨_, _, hdeclares⟩, ?_⟩
  rw [← hown]
  exact hcall _ _ _ hdeclares (by decide) scaledCode (some "Script") hcode Nat (fun _ => 7)
    [10, 20, 30, 40] rfl

end LiveSketch

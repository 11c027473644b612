import LiveSketch.Entry.Shape
import LiveSketch.Script.Scope.Basic

/-!
# Which definition is the entry point

The search looks for the last definition of a name and tests its parameters. Here both are told
apart from the search: what is the last of its kind in a row (`IsLast`), which definitions the
host's call fits (`FitsDrawing`), and from these which definition a script declares as its entry
point (`Node.Declares`): the last one at its top, and only if that does not fit the last one in its
last class. `entryPoint?_eq_some_iff` says that the search finds just this.
-/

namespace LiveSketch

open Script (ParameterList parameterList)

/-! ## The last of its kind -/

/-- The element is the last one of the row that satisfies `p`. -/
def IsLast {α : Type} (p : α → Bool) (row : List α) (a : α) : Prop :=
  ∃ before after, row = before ++ a :: after ∧ p a = true ∧ ∀ b ∈ after, p b = false

theorem find?_reverse_eq_some_iff {α : Type} {p : α → Bool} {row : List α} {a : α} :
    row.reverse.find? p = some a ↔ IsLast p row a := by
  rw [List.find?_eq_some_iff_append]
  constructor
  · rintro ⟨ha, after, before, hrow, hafter⟩
    refine ⟨before.reverse, after.reverse, ?_, ha, fun b hb => ?_⟩
    · rw [← List.reverse_reverse row, hrow]
      simp
    · simpa using hafter b (List.mem_reverse.mp hb)
  · rintro ⟨before, after, rfl, ha, hafter⟩
    refine ⟨ha, after.reverse, before.reverse, by simp, fun b hb => ?_⟩
    simpa using hafter b (List.mem_reverse.mp hb)

/-! ## Definitions that the host's call fits -/

/-- The parameter is declared as `int`, by name or as text, or not declared at all. -/
def IsSize (parameter : Node) : Prop :=
  ∀ type, declaredType parameter = some type →
    (∃ access, type.form = .name "int" access) ∨ type.form = .constant (.text "int")

theorem declaresInt_iff {parameter : Node} :
    declaresInt (declaredType parameter) = true ↔ IsSize parameter := by
  unfold IsSize
  cases declaredType parameter with
  | none => simp [declaresInt]
  | some type =>
    have hall : (∀ t, some type = some t →
        (∃ access, t.form = .name "int" access) ∨ t.form = .constant (.text "int")) ↔
        (∃ access, type.form = .name "int" access) ∨ type.form = .constant (.text "int") :=
      ⟨fun h => h type rfl, by rintro h _ ⟨⟩; exact h⟩
    rw [hall]
    unfold declaresInt
    dsimp only
    split
    · rename_i id access hform
      simp [hform]
    · rename_i word hform
      simp [hform]
    · rename_i hname htext
      refine iff_of_false Bool.false_ne_true ?_
      rintro (⟨access, hform⟩ | hform)
      · exact hname _ _ hform
      · exact htext _ hform

/-- The parameters are a canvas, a width and a height by place, behind so many that are filled in.
There are none for the rest, and all that are given by name only have values of their own. -/
structure TakesDrawing (p : ParameterList) (filledIn : Nat) : Prop where
  placed : ∃ front canvas width height, front.length = filledIn ∧
    p.posOnly ++ p.positional = front ++ [canvas, width, height] ∧ IsSize width ∧ IsSize height
  rest : p.rest = none
  keywordRest : p.keywordRest = none
  keywordDefaults : ∀ d ∈ p.keywordDefaults, d.isSome = true

def definitionParameters (definition : Node) : ParameterList :=
  match definition.form with
  | .functionDef _ _ parameters .. => parameterList parameters
  | _ => default

/-- A plain function, with parameters that the host's call fits. -/
def FitsDrawing (definition : Node) (filledIn : Nat) : Prop :=
  (∃ name parameters body decorators returns typeParams, definition.form =
    .functionDef false name parameters body decorators returns typeParams) ∧
  TakesDrawing (definitionParameters definition) filledIn

/-- Three elements are left behind the first ones, if the row is long enough to leave these out. -/
theorem drop_eq_three_iff {α : Type} {row : List α} {n : Nat} {a b c : α} :
    (n ≤ row.length ∧ row.drop n = [a, b, c]) ↔
      ∃ front, front.length = n ∧ row = front ++ [a, b, c] := by
  constructor
  · rintro ⟨hle, hdrop⟩
    exact ⟨row.take n, List.length_take_of_le hle, by rw [← hdrop, List.take_append_drop]⟩
  · rintro ⟨front, rfl, rfl⟩
    exact ⟨by simp, List.drop_left⟩

/-- What is left to the host, when the first parameter is to be skipped and there is one. -/
theorem left_eq_three_iff {α : Type} {row : List α} {skipFirst : Bool} {a b c : α} :
    ((skipFirst && row.isEmpty) = false ∧ (if skipFirst then row.drop 1 else row) = [a, b, c]) ↔
      ∃ front, front.length = (if skipFirst then 1 else 0) ∧ row = front ++ [a, b, c] := by
  rw [← drop_eq_three_iff]
  cases skipFirst with
  | false => simp
  | true =>
    cases row with
    | nil => simp
    | cons first others => simp

theorem hasEntryParameters_iff {parameters : Node} {skipFirst : Bool} :
    hasEntryParameters parameters skipFirst = true ↔
      TakesDrawing (parameterList parameters) (if skipFirst then 1 else 0) := by
  unfold hasEntryParameters
  split
  · rename_i posOnly positional rest keywordOnly keywordDefaults keywordRest defaults hform
    have hlist : parameterList parameters =
        ⟨posOnly, positional, rest, keywordOnly, keywordDefaults, keywordRest, defaults⟩ := by
      unfold parameterList
      rw [hform]
    rw [hlist]
    dsimp only
    simp only [Bool.and_eq_true, Bool.not_eq_true', Option.isNone_iff_eq_none, List.all_eq_true]
    constructor
    · rintro ⟨⟨⟨⟨hskip, hrest⟩, hkeywordRest⟩, hdefaults⟩, htaken⟩
      split at htaken
      · rename_i canvas width height hleft
        obtain ⟨hwidth, hheight⟩ := Bool.and_eq_true_iff.mp htaken
        obtain ⟨front, hlength, hplaced⟩ := left_eq_three_iff.mp ⟨hskip, hleft⟩
        exact {
          placed := ⟨front, canvas, width, height, hlength, hplaced,
            declaresInt_iff.mp hwidth, declaresInt_iff.mp hheight⟩
          rest := hrest
          keywordRest := hkeywordRest
          keywordDefaults := hdefaults }
      · cases htaken
    · intro h
      obtain ⟨front, canvas, width, height, hlength, hplaced, hwidth, hheight⟩ := h.placed
      obtain ⟨hskip, hleft⟩ := left_eq_three_iff.mpr ⟨front, hlength, hplaced⟩
      refine ⟨⟨⟨⟨hskip, h.rest⟩, h.keywordRest⟩, h.keywordDefaults⟩, ?_⟩
      rw [hleft]
      exact Bool.and_eq_true_iff.mpr ⟨declaresInt_iff.mpr hwidth, declaresInt_iff.mpr hheight⟩
  · rename_i hform
    have hlist : parameterList parameters = default := by
      unfold parameterList
      split
      · rename_i h
        exact absurd h (hform _ _ _ _ _ _ _)
      · rfl
    rw [hlist]
    refine iff_of_false Bool.false_ne_true fun h => ?_
    obtain ⟨front, canvas, width, height, -, hplaced, -⟩ := h.placed
    exact List.append_ne_nil_of_right_ne_nil front (List.cons_ne_nil _ _) hplaced.symm

theorem hasEntryShape_iff {definition : Node} {skipFirst : Bool} :
    hasEntryShape definition skipFirst = true ↔
      FitsDrawing definition (if skipFirst then 1 else 0) := by
  unfold hasEntryShape FitsDrawing definitionParameters
  split
  · rename_i name parameters body decorators returns typeParams hform
    rw [hform, hasEntryParameters_iff]
    exact (and_iff_right ⟨_, _, _, _, _, _, rfl⟩).symm
  · rename_i hform
    refine iff_of_false Bool.false_ne_true ?_
    rintro ⟨⟨_, _, _, _, _, _, h⟩, -⟩
    exact hform _ _ _ _ _ _ h

/-- The definition has a decorator that is just this name. -/
def IsDecorated (name : String) (definition : Node) : Prop :=
  ∃ isAsync own parameters body decorators returns typeParams,
    definition.form = .functionDef isAsync own parameters body decorators returns typeParams ∧
    ∃ d ∈ decorators, ∃ access, d.form = .name name access

theorem mem_decoratorNames_iff {name : String} {definition : Node} :
    (decoratorNames definition).contains name = true ↔ IsDecorated name definition := by
  rw [List.contains_iff_mem]
  unfold decoratorNames
  split
  · rename_i decorators _ _ hform
    rw [List.mem_filterMap]
    constructor
    · rintro ⟨d, hd, hname⟩
      split at hname
      · rename_i id access hdecorator
        cases hname
        exact ⟨_, _, _, _, _, _, _, hform, d, hd, access, hdecorator⟩
      · cases hname
    · rintro ⟨_, _, _, _, _, _, _, hform', d, hd, access, hdecorator⟩
      rw [hform] at hform'
      cases hform'
      exact ⟨d, hd, by rw [hdecorator]⟩
  · rename_i hform
    refine iff_of_false List.not_mem_nil ?_
    rintro ⟨_, _, _, _, _, _, _, h, -⟩
    exact hform _ _ _ _ _ _ _ h

/-! ## Declared entry points -/

/-- The last function at the top of the script that has the name of the drawing function, if the
host's call fits it. -/
def Node.DeclaresTop (tree definition : Node) : Prop :=
  IsLast (definesFunction entryName) (blockOf tree) definition ∧ FitsDrawing definition 0

/-- The last function with the name of the drawing function in the last class of the script that may
hold it. -/
def Node.OwnsLast (tree definition : Node) : Prop :=
  ∃ owner, IsLast (definesClass ownerName) (blockOf tree) owner ∧
    IsLast (definesFunction entryName) (blockOf owner) definition

/-- The script declares the definition as this entry point, and a call of it fills in so many of its
parameters before those that the host passes: none at the top and in a free function of the class,
else the class or an object of it. -/
inductive Node.Declares (tree : Node) : EntryPoint → Node → Nat → Prop
  | top {definition : Node} (h : tree.DeclaresTop definition) :
    Declares tree ⟨false, true, lineOfNode definition⟩ definition 0
  | free {definition : Node} (htop : ¬ ∃ d, tree.DeclaresTop d) (h : tree.OwnsLast definition)
    (hfree : IsDecorated "staticmethod" definition) (hfits : FitsDrawing definition 0) :
    Declares tree ⟨true, true, lineOfNode definition⟩ definition 0
  | ofClass {definition : Node} (htop : ¬ ∃ d, tree.DeclaresTop d) (h : tree.OwnsLast definition)
    (hfree : ¬ IsDecorated "staticmethod" definition) (hclass : IsDecorated "classmethod" definition)
    (hfits : FitsDrawing definition 1) :
    Declares tree ⟨true, true, lineOfNode definition⟩ definition 1
  | ofObject {definition : Node} (htop : ¬ ∃ d, tree.DeclaresTop d) (h : tree.OwnsLast definition)
    (hfree : ¬ IsDecorated "staticmethod" definition)
    (hclass : ¬ IsDecorated "classmethod" definition) (hfits : FitsDrawing definition 1) :
    Declares tree ⟨true, false, lineOfNode definition⟩ definition 1

theorem Node.Declares.fits {tree definition : Node} {e : EntryPoint} {filledIn : Nat}
    (h : tree.Declares e definition filledIn) : FitsDrawing definition filledIn := by
  cases h with
  | top h => exact h.2
  | free _ _ _ hfits => exact hfits
  | ofClass _ _ _ _ hfits => exact hfits
  | ofObject _ _ _ _ hfits => exact hfits

/-! ## The search -/

theorem lastStatement_eq_some_iff {p : Node → Bool} {block : List Node} {n : Node} :
    lastStatement p block = some n ↔ IsLast p block n := find?_reverse_eq_some_iff

/-- A definition is taken for an entry point exactly if the host's call fits it. -/
theorem taken_eq_some_iff {definition : Node} {skipFirst : Bool} {e e' : EntryPoint} :
    (if hasEntryShape definition skipFirst then some e' else none) = some e ↔
      FitsDrawing definition (if skipFirst then 1 else 0) ∧ e = e' := by
  rw [← hasEntryShape_iff]
  split
  · rename_i h
    rw [Option.some.injEq, eq_comm]
    exact (and_iff_right h).symm
  · rename_i h
    exact iff_of_false nofun fun hfits => h hfits.1

theorem topEntryPoint?_eq_some_iff {tree : Node} {e : EntryPoint} :
    topEntryPoint? tree = some e ↔
      ∃ d, tree.DeclaresTop d ∧ e = ⟨false, true, lineOfNode d⟩ := by
  unfold topEntryPoint? Node.DeclaresTop
  simp only [Option.bind_eq_bind, Option.bind_eq_some_iff, lastStatement_eq_some_iff,
    taken_eq_some_iff, and_assoc]
  rfl

theorem topEntryPoint?_eq_none_iff {tree : Node} :
    topEntryPoint? tree = none ↔ ¬ ∃ d, tree.DeclaresTop d := by
  rw [Option.eq_none_iff_forall_ne_some]
  simp only [ne_eq, topEntryPoint?_eq_some_iff]
  exact ⟨fun h ⟨d, hd⟩ => h _ ⟨d, hd, rfl⟩, fun h e ⟨d, hd, _⟩ => h ⟨d, hd⟩⟩

theorem ownedEntryPoint?_eq_some_iff {tree : Node} {e : EntryPoint} :
    ownedEntryPoint? tree = some e ↔ ∃ d, tree.OwnsLast d ∧
      let isFree := (decoratorNames d).contains "staticmethod"
      FitsDrawing d (if !isFree then 1 else 0) ∧
        e = ⟨true, isFree || (decoratorNames d).contains "classmethod", lineOfNode d⟩ := by
  unfold ownedEntryPoint? Node.OwnsLast
  simp only [Option.bind_eq_bind, Option.bind_eq_some_iff, lastStatement_eq_some_iff,
    taken_eq_some_iff]
  constructor
  · rintro ⟨owner, howner, d, hlast, htaken⟩
    exact ⟨d, ⟨owner, howner, hlast⟩, htaken⟩
  · rintro ⟨d, ⟨owner, howner, hlast⟩, htaken⟩
    exact ⟨owner, howner, d, hlast, htaken⟩

theorem entryPoint?_eq_some_iff {tree : Node} {e : EntryPoint} :
    entryPoint? tree = some e ↔ ∃ d filledIn, tree.Declares e d filledIn := by
  unfold entryPoint?
  rw [Option.or_eq_some_iff, topEntryPoint?_eq_none_iff, topEntryPoint?_eq_some_iff,
    ownedEntryPoint?_eq_some_iff]
  constructor
  · rintro (⟨d, htop, rfl⟩ | ⟨htop, d, hlast, hfits, rfl⟩)
    · exact ⟨d, 0, .top htop⟩
    · cases hfree : (decoratorNames d).contains "staticmethod" with
      | true =>
        rw [hfree] at hfits
        exact ⟨d, 0, .free htop hlast (mem_decoratorNames_iff.mp hfree) hfits⟩
      | false =>
        rw [hfree] at hfits
        have hnot : ¬ IsDecorated "staticmethod" d := by
          rw [← mem_decoratorNames_iff, hfree]
          exact Bool.false_ne_true
        cases hclass : (decoratorNames d).contains "classmethod" with
        | true => exact ⟨d, 1, .ofClass htop hlast hnot (mem_decoratorNames_iff.mp hclass) hfits⟩
        | false =>
          refine ⟨d, 1, .ofObject htop hlast hnot ?_ hfits⟩
          rw [← mem_decoratorNames_iff, hclass]
          exact Bool.false_ne_true
  · rintro ⟨d, filledIn, h⟩
    cases h with
    | top h => exact .inl ⟨d, h, rfl⟩
    | free htop hlast hfree hfits =>
      refine .inr ⟨htop, d, hlast, ?_⟩
      rw [← mem_decoratorNames_iff] at hfree
      rw [hfree]
      exact ⟨hfits, rfl⟩
    | ofClass htop hlast hfree hclass hfits =>
      refine .inr ⟨htop, d, hlast, ?_⟩
      rw [← mem_decoratorNames_iff, Bool.not_eq_true] at hfree
      rw [← mem_decoratorNames_iff] at hclass
      rw [hfree, hclass]
      exact ⟨hfits, rfl⟩
    | ofObject htop hlast hfree hclass hfits =>
      refine .inr ⟨htop, d, hlast, ?_⟩
      rw [← mem_decoratorNames_iff, Bool.not_eq_true] at hfree hclass
      rw [hfree, hclass]
      exact ⟨hfits, rfl⟩

end LiveSketch

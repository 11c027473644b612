import LiveSketch.Script.Scope.Basic

/-!
# Noting the use of names

A walk over a tree notes what each scope does with its names. Some uses contradict each other, and
some constructs may not stand in every scope.
-/

namespace LiveSketch.Script

/-- A scope that the walk is in. -/
structure OpenScope where
  kind : ScopeKind
  comprehension : Option ComprehensionKind
  span : Span
  names : List (String × NameUse)
  directives : List (String × Span)
  inner : List NamedScope
  isGenerator : Bool
  isCoroutine : Bool
  /-- The number of comprehensions whose source is being walked. -/
  sources : Nat
  /-- The target of a comprehension is being walked. -/
  inTarget : Bool
deriving Inhabited

namespace OpenScope

def useOf (s : OpenScope) (name : String) : NameUse := (s.names.lookup name).getD {}

/-- The scope with one more use of a name. -/
def noting (s : OpenScope) (name : String) (u : NameUse) : OpenScope :=
  if s.names.any (·.1 == name) then
    { s with names := s.names.map fun (n, old) => if n == name then (n, old.or u) else (n, old) }
  else { s with names := s.names ++ [(name, u)] }

/-- The scope when the walk leaves it. -/
def closed (s : OpenScope) : NamedScope :=
  .mk s.kind s.span s.names s.directives s.isGenerator s.isCoroutine s.inner

end OpenScope

/-- The state of the walk: the scopes it is in, innermost first, and the class whose private names
are meant. -/
structure ScopeWalk where
  scopes : List OpenScope
  owner : Option String

abbrev Walk (α : Type) := ExceptT Malformed (StateM ScopeWalk) α

namespace Walk

def wrong {α : Type} (span : Span) (message : String) : Walk α := throw (faultAt span message)

def scope : Walk OpenScope := do return ((← get).scopes.head?).getD default

def change (f : OpenScope → OpenScope) : Walk Unit :=
  modify fun w => match w.scopes with
    | s :: outer => { w with scopes := f s :: outer }
    | [] => w

/-- A name as the class around it means it. -/
def meant (name : String) : Walk String := do return privateName (← get).owner name

/-- Notes a use of a name in a scope of the walk, which `depth` scopes are inside of. -/
def noteIn (depth : Nat) (name : String) (u : NameUse) (span : Span) : Walk Unit := do
  let name ← meant name
  let w ← get
  match w.scopes[depth]? with
  | none => pure ()
  | some s =>
    let before := s.useOf name
    if u.isParameter && before.isParameter then
      wrong span ("duplicate argument '" ++ name ++ "' in function definition")
    if s.inTarget && (before.isGlobal || before.isNonlocal) then
      wrong span ("comprehension inner loop cannot rebind assignment expression target '" ++ name ++
        "'")
    let u := if s.inTarget then { u with isLoopTarget := true } else u
    let scopes := w.scopes.set depth (s.noting name u)
    -- a name declared as the script's own is known to be global there too
    let scopes := if u.isGlobal then
        scopes.modify (scopes.length - 1) fun top => top.noting name { isGlobal := true }
      else scopes
    set { w with scopes := scopes }

def note (name : String) (u : NameUse) (span : Span) : Walk Unit := noteIn 0 name u span

/-- Notes a declaration, to which later faults point. -/
def noteDirective (name : String) (span : Span) : Walk Unit := do
  let name ← meant name
  change fun s => { s with directives := s.directives ++ [(name, span)] }

def within (kind : ScopeKind) (comprehension : Option ComprehensionKind) (span : Span)
    (body : Walk Unit) : Walk OpenScope := do
  let sources := (← scope).sources
  let opened : OpenScope := ⟨kind, comprehension, span, [], [], [], false, false, sources, false⟩
  modify fun w => { w with scopes := opened :: w.scopes }
  body
  let done ← scope
  modify fun w => { w with scopes := w.scopes.drop 1 }
  change fun s => { s with inner := s.inner ++ [done.closed] }
  pure done

/-! ## Declarations -/

/-- Declares names as living elsewhere. -/
def declare (isGlobal : Bool) (names : List String) (span : Span) : Walk Unit :=
  names.forM fun name => do
    let known := (← scope).useOf (← meant name)
    let kind := if isGlobal then "global" else "nonlocal"
    if known.isParameter then
      wrong span ("name '" ++ name ++ "' is parameter and " ++ kind)
    if known.isRead then
      wrong span ("name '" ++ name ++ "' is used prior to " ++ kind ++ " declaration")
    if known.isTyped then wrong span ("annotated name '" ++ name ++ "' can't be " ++ kind)
    if known.isBound then
      wrong span ("name '" ++ name ++ "' is assigned to before " ++ kind ++ " declaration")
    note name (if isGlobal then { isGlobal := true } else { isNonlocal := true }) span
    noteDirective name span

/-- Binds a name for an import. -/
def noteImport (n : Node) : Walk Unit := do
  match n.form with
  | .importedName name asName =>
    if name == "*" && asName.isNone then
      if (← scope).kind != .module then wrong n.span "import * only allowed at module level"
    else
      let stored := String.ofList ((asName.getD name).toList.takeWhile (· != '.'))
      note stored { isImported := true } n.span
  | _ => pure ()

/-- Finds the scope that a named expression inside of comprehensions binds its name in. -/
def bindOutside (name : String) (span : Span) : Walk Unit := do
  let name' ← meant name
  let rec go : List OpenScope → Nat → Walk Unit
    | [], _ => pure ()
    | s :: outer, depth => do
      let known := s.useOf name'
      if s.comprehension.isSome then
        if known.isLoopTarget && known.isBound then
          wrong span ("assignment expression cannot rebind comprehension iteration variable '" ++
            name ++ "'")
        go outer (depth + 1)
      else match s.kind with
        | .function =>
          note name (if known.isGlobal then { isGlobal := true } else { isNonlocal := true }) span
          noteDirective name span
          noteIn depth name { isBound := true } span
        | .module =>
          note name { isGlobal := true } span
          noteDirective name span
          noteIn depth name { isGlobal := true } span
        | .cls =>
          wrong span "assignment expression within a comprehension cannot be used in a class body"
  go (← get).scopes 0

/-! ## The walk -/

/-- Refuses to wait for a value from outside in a comprehension. -/
def refuseYield (span : Span) : Walk Unit := do
  match (← scope).comprehension with
  | none => pure ()
  | some kind => wrong span (match kind with
    | .list => "'yield' inside list comprehension"
    | .set => "'yield' inside set comprehension"
    | .dict => "'yield' inside dict comprehension"
    | .generator => "'yield' inside generator expression")

/-- The parts of a comprehension clause. -/
structure Clause where
  target : Node
  iter : Node
  conditions : List Node
  isAsync : Bool
deriving Inhabited

def clauseOf (n : Node) : Clause :=
  match n.form with
  | .comprehension target iter conditions isAsync => ⟨target, iter, conditions, isAsync⟩
  | _ => default

def marked (before after : OpenScope → OpenScope) (x : Walk Unit) : Walk Unit := do
  change before
  x
  change after

def inSource (x : Walk Unit) : Walk Unit :=
  marked (fun s => { s with sources := s.sources + 1 }) (fun s => { s with sources := s.sources - 1 })
    x

def inTarget (x : Walk Unit) : Walk Unit :=
  marked (fun s => { s with inTarget := true }) (fun s => { s with inTarget := false }) x

/-- Walks a tree of at most so many levels. -/
def visit : Nat → Node → Walk Unit
  | 0, _ => pure ()
  | fuel + 1, n => do
    let go := visit fuel
    let all (ns : List Node) : Walk Unit := ns.forM go
    let bind (name : String) : Walk Unit := note name { isBound := true } n.span
    let parametersOf (args : Node) : Walk Unit := (parameterList args).all.forM fun p =>
      note (parameterName p) { isParameter := true } p.span
    let defaultsOf (p : ParameterList) : Walk Unit := do
      all p.defaults
      all (p.keywordDefaults.filterMap id)
    let comprehension (kind : ComprehensionKind) (clauses : List Node) (elements : List Node) :
        Walk Unit := do
      let first := clauseOf (clauses.head?.getD default)
      inSource (go first.iter)
      let done ← within .function (some kind) n.span do
        if first.isAsync then change fun s => { s with isCoroutine := true }
        note ".0" { isParameter := true } n.span
        inTarget (go first.target)
        all first.conditions
        (clauses.drop 1).forM fun c => do
          let c := clauseOf c
          inTarget (go c.target)
          inSource (go c.iter)
          all c.conditions
          if c.isAsync then change fun s => { s with isCoroutine := true }
        all elements
        if kind = .generator then change fun s => { s with isGenerator := true }
      if done.isCoroutine && kind != .generator then
        change fun s => { s with isCoroutine := true }
    match n.form with
    | .functionDef isAsync name args body decorators returns _ => do
      bind name
      let p := parameterList args
      defaultsOf p
      all (p.posOnly.filterMap declaredType?)
      all (p.positional.filterMap declaredType?)
      all ((p.rest.toList ++ p.keywordRest.toList).filterMap declaredType?)
      all (p.keywordOnly.filterMap declaredType?)
      all returns.toList
      all decorators
      discard <| within .function none n.span do
        if isAsync then change fun s => { s with isCoroutine := true }
        parametersOf args
        all body
    | .lambda args body => do
      defaultsOf (parameterList args)
      discard <| within .function none n.span do
        parametersOf args
        go body
    | .classDef name bases keywords body decorators _ => do
      bind name
      all bases
      all keywords
      all decorators
      discard <| within .cls none n.span do
        let owner := (← get).owner
        modify fun w => { w with owner := some name }
        all body
        modify fun w => { w with owner := owner }
    | .annAssign target declared value simple => do
      match target.form with
      | .name id _ =>
        let known := (← scope).useOf (← meant id)
        if (known.isGlobal || known.isNonlocal) && 1 < (← get).scopes.length && simple then
          wrong n.span ("annotated name '" ++ id ++ "' can't be " ++
            (if known.isGlobal then "global" else "nonlocal"))
        if simple then note id { isTyped := true, isBound := true } target.span
        else if value.isSome then note id { isBound := true } target.span
      | _ => go target
      go declared
      all value.toList
    | .tryBlock _ body handlers orelse finalbody => do
      all body
      all orelse
      all handlers
      all finalbody
    | .globals names => declare true names n.span
    | .nonlocals names => declare false names n.span
    | .importModules names => names.forM noteImport
    | .importFrom _ names _ => names.forM noteImport
    | .handler type name body => do
      all type.toList
      name.forM bind
      all body
    | .namedExpr target value => do
      if 0 < (← scope).sources then
        wrong n.span "assignment expression cannot be used in a comprehension iterable expression"
      if (← scope).comprehension.isSome then
        match target.form with
        | .name id _ => bindOutside id target.span
        | _ => pure ()
      go value
      go target
    | .listComp element clauses => comprehension .list clauses [element]
    | .setComp element clauses => comprehension .set clauses [element]
    | .generatorExp element clauses => comprehension .generator clauses [element]
    | .dictComp key value clauses => comprehension .dict clauses [value, key]
    | .yield value => do
      all value.toList
      change fun s => { s with isGenerator := true }
      refuseYield n.span
    | .yieldFrom value => do
      go value
      change fun s => { s with isGenerator := true }
      refuseYield n.span
    | .await value => do
      go value
      change fun s => { s with isCoroutine := true }
    | .name id access => do
      note id (if access = .load then { isRead := true } else { isBound := true }) n.span
      if access = .load && id == "super" && (← scope).kind = .function then
        note "__class__" { isRead := true } n.span
    | .matchStar name => name.forM bind
    | .matchAs pattern name => do
      all pattern.toList
      name.forM bind
    | .matchMapping keys patterns rest => do
      all keys
      all patterns
      rest.forM bind
    | _ => all n.children

end Walk

def collectScopes (tree : Node) : Except Malformed NamedScope :=
  let top : OpenScope := ⟨.module, none, tree.span, [], [], [], false, false, 0, false⟩
  let (result, w) := (Walk.visit tree.height tree).run.run ⟨[top], none⟩
  result.map fun _ => ((w.scopes.head?).getD default).closed

end LiveSketch.Script

import LiveSketch.Decimal.Shortest
import LiveSketch.Diagnostic.Basic
import LiveSketch.Script.Check.Fold
import LiveSketch.Script.Scope.Resolve
import LiveSketch.Text.Quoted

/-!
# What is wrong with a tree

A text that can be read may still make no sense: a loop is left outside of any loop, a value is
given back outside of any function. A walk in the order in which code would be generated finds the
first such fault, and warns on the way of what can hardly be meant. What follows a `try` whatever
happens is looked at once for each way out.
-/

namespace LiveSketch.Script

/-- What a stretch of code belongs to. -/
inductive UnitKind where
  | module | cls | function | asyncFunction | lambda | comprehension
deriving DecidableEq, Repr, Inhabited

/-- A block that code is inside of. -/
inductive OpenBlock where
  | loop
  | finally (body : List Node)
  | groupHandler
  | other
deriving Inhabited

/-- What surrounds a construct. -/
structure CheckSite where
  scope : Scope
  kind : UnitKind
  blocks : List OpenBlock
deriving Inhabited

/-- Checking: warnings on the way, and the first fault. -/
abbrev Check (α : Type) := ExceptT Malformed (StateM (List Warning)) α

namespace Check

def wrong {α : Type} (span : Span) (message : String) : Check α := throw (faultAt span message)

def warn (span : Span) (message : String) : Check Unit :=
  modify fun ws => ws ++ [⟨"SyntaxWarning", message, span.line.getD 1, unitFile⟩]

def maxBlocks : Nat := 20

/-- The site inside one more block. -/
def enter (site : CheckSite) (span : Span) (b : OpenBlock) : Check CheckSite :=
  if maxBlocks ≤ site.blocks.length then wrong span "too many statically nested blocks"
  else pure { site with blocks := b :: site.blocks }

/-- Refuses to bind or remove the name that cannot change. -/
def allowName (span : Span) (name : String) (access : Access) : Check Unit :=
  if name == "__debug__" then
    match access with
    | .load => pure ()
    | .store => wrong span "cannot assign to __debug__"
    | .remove => wrong span "cannot delete __debug__"
  else pure ()

/-! ## Types that can be told ahead -/

/-- The name of the type of an expression, where it can be told. -/
def typeOf? (n : Node) : Option String :=
  match constantOf? n with
  | some c => some c.typeName
  | none => match n.form with
    | .tuple .. => some "tuple"
    | .list .. | .listComp .. => some "list"
    | .dict .. | .dictComp .. => some "dict"
    | .set .. | .setComp .. => some "set"
    | .generatorExp .. => some "generator"
    | .lambda .. => some "function"
    | .joinedText .. | .formattedValue .. => some "str"
    | _ => none

/-- The type of an expression whose value can never be called. -/
def uncallableType? (n : Node) : Option String :=
  match n.form with
  | .lambda .. => none
  | _ => typeOf? n

/-- The type of an expression whose value has no items. -/
def itemlessType? (n : Node) : Option String := do
  let type ← typeOf? n
  if ["NoneType", "ellipsis", "int", "bool", "float", "complex", "set", "generator",
      "function"].contains type then
    some type
  else none

/-- The types of a row and of an index that it cannot take. -/
def wrongIndex? (value index : Node) : Option (String × String) := do
  let indexType ← typeOf? index
  if indexType == "int" || indexType == "bool" then none
  else
    let type ← typeOf? value
    if ["str", "bytes", "tuple", "list"].contains type then some (type, indexType) else none

/-- The words after a warning that a comma may be missing. -/
def missedComma : String := "; perhaps you missed a comma?"

/-- Warns of a comparison by identity with a constant of which there may be many. -/
def checkComparison (n left : Node) (ops : List Comparison) (rest : List Node) : Check Unit :=
  let isMany (e : Node) : Bool := (constantOf? e).any fun c => !c.isSingle
  let rec go (left : Node) : List (Comparison × Node) → Check Unit
    | [] => pure ()
    | (op, right) :: more =>
      if (op = .is || op = .isNot) && (isMany left || isMany right) then
        warn n.span (if op = .is then "\"is\" with a literal. Did you mean \"==\"?"
          else "\"is not\" with a literal. Did you mean \"!=\"?")
      else go right more
  go left (ops.zip rest)

/-- Refuses an argument that is named twice. -/
def checkKeywords (span : Span) : List Node → Check Unit
  | [] => pure ()
  | n :: rest => do
    match n.form with
    | .keyword (some name) _ =>
      allowName span name .store
      match rest.find? fun m => match m.form with
        | .keyword (some other) _ => other == name
        | _ => false with
      | some again => wrong again.span ("keyword argument repeated: " ++ name)
      | none => pure ()
    | _ => pure ()
    checkKeywords span rest

/-- Refuses more than one starred target in a row. -/
def checkTargets (span : Span) (elements : List Node) : Check Unit :=
  if 1 < (elements.filter fun n => match n.form with
    | .starred .. => true
    | _ => false).length then
    wrong span "multiple starred expressions in assignment"
  else pure ()

/-- What a starred expression holds, or the expression itself. -/
def unstarred (n : Node) : Node :=
  match n.form with
  | .starred value _ => value
  | _ => n

/-- The first statement is a text that describes the others. -/
def isDescribed (body : List Node) : Bool :=
  match body.head?.map Node.form with
  | some (.expression value) => match value.form with
    | .constant (.text _) => true
    | _ => false
  | _ => false

/-! ## Patterns -/

/-- The state of checking a pattern: the names it has captured, and the last pattern looked at. -/
structure Captures where
  names : List String
  last : Span

def capture (c : Captures) (name : String) : Check Captures := do
  allowName c.last name .store
  if c.names.contains name then
    wrong c.last ("multiple assignments to name " ++ quoted name ++ " in pattern")
  pure { c with names := c.names ++ [name] }

/-- The pattern matches everything and captures nothing. -/
def isWildcard (n : Node) : Bool :=
  match n.form with
  | .matchAs none none => true
  | _ => false

def shownConstant : Constant → String
  | .none => "None"
  | .ellipsis => "Ellipsis"
  | .bool b => if b then "True" else "False"
  | .int n => toString n
  | .float x => floatText x
  | .text cs => quoted (String.ofList cs)
  | .bytes _ | .complex | .tuple _ => "..."

def sameKey (a b : Constant) : Bool :=
  match a, b with
  | .none, .none => true
  | .text a, .text b => a == b
  | .bytes a, .bytes b => a == b
  | a, b => match a.int?, b.int? with
    | some x, some y => x == y
    | _, _ => match a.float?, b.float? with
      | some x, some y => x == y
      | _, _ => false

/-- Refuses a key that was there before. -/
def checkKeys (span : Span) (seen : List Constant) : List Constant → Check Unit
  | [] => pure ()
  | c :: later => do
    if seen.any (sameKey c) then
      wrong span ("mapping pattern checks duplicate key (" ++ shownConstant c ++ ")")
    checkKeys span (c :: seen) later

def checkAttributes : List (String × Node) → Check Unit
  | [] => pure ()
  | (name, pattern) :: rest => do
    allowName pattern.span name .store
    match rest.find? fun other => other.1 == name with
    | some (_, again) => wrong again.span ("attribute name repeated in class pattern: " ++ name)
    | none => pure ()
    checkAttributes rest

/-- Checks a pattern of at most so many levels. `mayMatchAll` where nothing is left unreachable. -/
def checkPattern (value : Node → Check Unit) : Nat → Bool → Captures → Node → Check Captures
  | 0, _, c, _ => pure c
  | fuel + 1, mayMatchAll, c, n => do
    let c := { c with last := n.span }
    let part (c : Captures) (p : Node) : Check Captures := checkPattern value fuel true c p
    match n.form with
    | .matchValue v => do
      value v
      pure c
    | .matchSequence patterns => do
      if 1 < (patterns.filter fun p => match p.form with
          | .matchStar _ => true
          | _ => false).length then
        wrong n.span "multiple starred expressions in sequence pattern"
      patterns.foldlM part c
    | .matchMapping keys patterns rest => do
      checkKeys n.span [] (keys.filterMap constantOf?)
      keys.forM value
      let c ← patterns.foldlM part c
      rest.toList.foldlM capture c
    | .matchClass cls patterns attributes attributePatterns => do
      checkAttributes (attributes.zip attributePatterns)
      value cls
      (patterns ++ attributePatterns).foldlM part c
    | .matchStar name => name.toList.foldlM capture c
    | .matchAs none none =>
      if mayMatchAll then pure c else wrong n.span "wildcard makes remaining patterns unreachable"
    | .matchAs none (some name) =>
      if mayMatchAll then capture c name
      else wrong n.span ("name capture " ++ quoted name ++ " makes remaining patterns unreachable")
    | .matchAs (some pattern) name => do
      let c ← checkPattern value fuel mayMatchAll c pattern
      name.toList.foldlM capture c
    | .matchOr patterns => do
      let count := patterns.length
      let (found, last) ← (patterns.zip (List.range count)).foldlM
        (fun ((found, _) : Option (List String) × Span) (p, k) => do
          let inner ← checkPattern value fuel (mayMatchAll && k + 1 = count) ⟨[], p.span⟩ p
          match found with
          | none => pure (some inner.names, inner.last)
          | some first =>
            if inner.names.length = first.length && first.all inner.names.contains then
              pure (some first, inner.last)
            else wrong inner.last "alternative patterns bind different names")
        (none, n.span)
      (found.getD []).foldlM capture { c with last := last }
    | _ => pure c

/-! ## Statements and expressions -/

/-- The site inside of a new unit at a span. -/
def inside (site : CheckSite) (span : Span) (kind : UnitKind) : CheckSite :=
  ⟨site.scope.innerAt span, kind, []⟩

/-- Refuses parameters that cannot be bound. -/
def checkParameters (span : Span) (args : Node) : Check Unit :=
  (parameterList args).all.forM fun p => allowName span (parameterName p) .store

/-- Checks a construct of at most so many levels. -/
def check : Nat → CheckSite → Node → Check Unit
  | 0, _, _ => pure ()
  | fuel + 1, site, n => do
    let go := check fuel site
    let all (ns : List Node) : Check Unit := ns.forM go
    let within (site : CheckSite) (ns : List Node) : Check Unit := ns.forM (check fuel site)
    let wrongHere {α : Type} (message : String) : Check α := wrong n.span message
    let inFunction := site.scope.info.kind = .function
    /- Goes out of blocks, up to a loop or out of all of them, and through what has to follow. -/
    let rec leave (toLoop : Bool) : List OpenBlock → Check Bool
      | [] => pure false
      | .groupHandler :: _ =>
        wrongHere "'break', 'continue' and 'return' cannot appear in an except* block"
      | .loop :: outer => if toLoop then pure true else leave toLoop outer
      | .finally body :: outer => do
        within { site with blocks := outer } body
        leave toLoop outer
      | .other :: outer => leave toLoop outer
    let defaultsOf (args : Node) : Check Unit := do
      let p := parameterList args
      all p.defaults
      all (p.keywordDefaults.filterMap id)
    let nested (b : OpenBlock) (ns : List Node) : Check Unit := do
      within (← enter site n.span b) ns
    let handlers (isGroup : Bool) (hs : List Node) : Check Unit := do
      let site ← enter site n.span (if isGroup then .groupHandler else .other)
      let count := hs.length
      (hs.zip (List.range count)).forM fun (h, k) => do
        match h.form with
        | .handler type name body =>
          if type.isNone && k + 1 < count then wrong h.span "default 'except:' must be last"
          within site type.toList
          name.forM fun name => allowName h.span name .store
          within (← enter site h.span .other) body
        | _ => pure ()
    let tryExcept (star : Bool) (body hs orelse : List Node) (site : CheckSite) : Check Unit := do
      within (← enter site n.span .other) body
      within site orelse
      handlers star hs
    let comprehension (isGenerator : Bool) (clauses elements : List Node) : Check Unit := do
      let inner := inside site n.span .comprehension
      if inner.scope.info.isCoroutine && !isGenerator && site.kind != .asyncFunction &&
          site.kind != .comprehension then
        wrongHere "asynchronous comprehension outside of an asynchronous function"
      (clauses.zip (List.range clauses.length)).forM fun (c, k) => do
        let c := Walk.clauseOf c
        if 0 < k then within inner [c.iter]
        within inner [c.target]
        within inner c.conditions
      within inner elements
      all ((clauses.head?.map fun c => (Walk.clauseOf c).iter).toList)
    let given (arguments keywords : List Node) : Check Unit := do
      all (arguments.map unstarred)
      keywords.forM fun k => all k.children
    match n.form with
    | .functionDef isAsync name args body decorators returns _ => do
      checkParameters n.span args
      all decorators
      defaultsOf args
      let p := parameterList args
      all ((p.positional ++ p.posOnly ++ p.rest.toList ++ p.keywordOnly ++
        p.keywordRest.toList).filterMap declaredType?)
      all returns.toList
      within (inside site n.span (if isAsync then .asyncFunction else .function))
        (if isDescribed body then body.drop 1 else body)
      allowName n.span name .store
    | .lambda args body => do
      checkParameters n.span args
      defaultsOf args
      within (inside site n.span .lambda) [body]
    | .classDef name bases keywords body decorators _ => do
      all decorators
      within (inside site n.span .cls) body
      checkKeywords n.span keywords
      given bases keywords
      allowName n.span name .store
    | .ret value => do
      if !inFunction then wrongHere "'return' outside function"
      if value.isSome && site.scope.info.isCoroutine && site.scope.info.isGenerator then
        wrongHere "'return' with value in async generator"
      all value.toList
      discard (leave false site.blocks)
    | .leaveLoop => do
      if !(← leave true site.blocks) then wrongHere "'break' outside loop"
    | .nextRound => do
      if !(← leave true site.blocks) then wrongHere "'continue' not properly in loop"
    | .assign targets value => do
      go value
      all targets
    | .augAssign target _ value => do
      match target.form with
      | .name id _ =>
        go value
        allowName target.span id .store
      | .member inner name _ =>
        go inner
        go value
        allowName target.span name .store
      | .subscript inner index _ =>
        go inner
        go index
        go value
      | _ => go value
    | .annAssign target declared value simple => do
      value.forM go
      if value.isSome then go target
      let isOuter := site.kind = .module || site.kind = .cls
      match target.form with
      | .name id _ =>
        allowName n.span id .store
        if simple && isOuter then go declared
      | .member inner name _ =>
        allowName n.span name .store
        if value.isNone then go inner
      | .subscript inner index _ =>
        if value.isNone then
          go inner
          go index
      | _ => pure ()
      if !simple && isOuter then go declared
    | .forLoop isAsync target iter body orelse => do
      if isAsync && site.kind != .asyncFunction then
        wrongHere "'async for' outside async function"
      let inner ← enter site n.span .loop
      within inner [iter, target]
      within inner body
      all orelse
    | .whileLoop test body orelse => do
      let inner ← enter site n.span .loop
      within inner [test]
      within inner body
      within inner [test]
      all orelse
    | .withBlock isAsync items body => do
      if isAsync && site.kind != .asyncFunction then
        wrongHere "'async with' outside async function"
      let inner ← items.foldlM (fun inner item => do
        match item.form with
        | .withItem context vars =>
          within inner [context]
          let inner ← enter inner n.span .other
          within inner vars.toList
          pure inner
        | _ => pure inner) site
      within inner body
    | .tryBlock star body hs orelse finalbody => do
      if finalbody.isEmpty then tryExcept star body hs orelse site
      else
        let inner ← enter site n.span (.finally finalbody)
        if hs.isEmpty then within inner body
        else check fuel inner (.mk n.span (.tryBlock star body hs orelse []))
        all finalbody
        nested .other finalbody
    | .matchOn subject cases => do
      go subject
      let count := cases.length
      (cases.zip (List.range count)).forM fun (c, k) => do
        match c.form with
        | .matchCase pattern guard body =>
          let mayMatchAll := guard.isSome || k + 1 = count
          let found ← checkPattern go pattern.height mayMatchAll ⟨[], pattern.span⟩ pattern
          found.names.forM fun name => allowName pattern.span name .store
          all guard.toList
          all body
        | _ => pure ()
    | .assert test message => do
      let isRow := match test.form with
        | .tuple elements _ => !elements.isEmpty
        | _ => match constantOf? test with
          | some (.tuple items) => !items.isEmpty
          | _ => false
      if isRow then warn n.span "assertion is always true, perhaps remove parentheses?"
      go test
      all message.toList
    | .importModules names | .importFrom _ names _ =>
      names.forM fun a => match a.form with
        | .importedName name asName => allowName n.span (asName.getD name) .store
        | _ => pure ()
    | .expression value => if (constantOf? value).isSome then pure () else go value
    | .unary .not operand => do
      match operand.form with
      | .compare left [.is] rest => go (.mk operand.span (.compare left [.isNot] rest))
      | .compare left [.isNot] rest => go (.mk operand.span (.compare left [.is] rest))
      | _ => go operand
    | .dict keys values =>
      (keys.zip values).forM fun (k, v) => do
        all k.toList
        go v
    | .set elements => all (elements.map unstarred)
    | .listComp element clauses => comprehension false clauses [element]
    | .setComp element clauses => comprehension false clauses [element]
    | .generatorExp element clauses => comprehension true clauses [element]
    | .dictComp key value clauses => comprehension false clauses [key, value]
    | .yield value => do
      if !inFunction then wrongHere "'yield' outside function"
      all value.toList
    | .yieldFrom value => do
      if !inFunction then wrongHere "'yield' outside function"
      if site.kind = .asyncFunction then wrongHere "'yield from' inside async function"
      go value
    | .await value => do
      if !inFunction then wrongHere "'await' outside function"
      if site.kind != .asyncFunction && site.kind != .comprehension then
        wrongHere "'await' outside async function"
      go value
    | .compare left ops rest => do
      checkComparison n left ops rest
      go left
      all rest
    | .call func arguments keywords => do
      checkKeywords n.span keywords
      match uncallableType? func with
      | some type => warn n.span ("'" ++ type ++ "' object is not callable" ++ missedComma)
      | none => pure ()
      go func
      given arguments keywords
    | .member value name access => do
      go value
      allowName n.span name access
    | .subscript value index access => do
      if access = .load && (constantOf? n).isNone then
        match itemlessType? value, wrongIndex? value index with
        | some type, _ => warn n.span ("'" ++ type ++ "' object is not subscriptable" ++ missedComma)
        | none, some (type, indexType) =>
          warn n.span (type ++ " indices must be integers or slices, not " ++ indexType ++ missedComma)
        | none, none => pure ()
      go value
      go index
    | .starred _ access =>
      wrongHere (if access = .store then "starred assignment target must be in a list or tuple"
        else "can't use starred expression here")
    | .name id access => allowName n.span id access
    | .list elements access | .tuple elements access => do
      if access = .store then checkTargets n.span elements
      all (elements.map unstarred)
    | .module body => all (if isDescribed body then body.drop 1 else body)
    | _ => all n.children

end Check

/-- What generating code for a tree finds: warnings, and a fault if there is one. -/
def checkTree (tree : Node) : Phase Unit :=
  match scopesOf tree with
  | .error e => ⟨[], .error (.malformed e)⟩
  | .ok scope =>
    let (result, warnings) := (Check.check (2 * tree.height + 4) ⟨scope, .module, []⟩ tree).run.run []
    ⟨warnings, result.mapError .malformed⟩

end LiveSketch.Script

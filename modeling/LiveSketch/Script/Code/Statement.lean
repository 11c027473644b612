import LiveSketch.Script.Code.Expression

/-!
# Code of statements

A statement leaves the stack as it was. On the way out of blocks, by a jump or with a value, all is
done that the blocks ask for.
-/

namespace LiveSketch.Script

namespace Emit

/-! ## Blocks -/

/-- Goes out of blocks, up to a loop or out of all of them, and does what they ask for. With
`keeps` the top value stays. Gives the loop, and the blocks around it. -/
def leaveBlocks (go : Node → Emit Unit) (keeps toLoop : Bool) :
    List CodeBlock → Emit (Option CodeBlock)
  | [] => pure none
  | block :: outer => do
    let drop : Emit Unit := do
      if keeps then op .swap
      op .pop
    match block with
    | .loop key start hasIterator =>
      if toLoop then return some (.loop key start hasIterator)
      if hasIterator then drop
    | .finally body =>
      op .unguard
      let before := (← current).blocks
      change fun u => { u with blocks := if keeps then .waiting :: outer else outer }
      body.forM go
      change fun u => { u with blocks := before }
    | .finallyHandler =>
      drop
      op .leaveHandler
    | .guarded => op .unguard
    | .handler name =>
      if name.isSome then op .unguard
      op .leaveHandler
      name.forM fun name => do
        push .none
        nameUse .store name
        nameUse .remove name
    | .context =>
      op .unguard
      if keeps then op .swap
      op .exit
    | .waiting => drop
    leaveBlocks go keeps toLoop outer

/-- Writes a body that goes on at a handler when a fault is raised; gives the hole for the handler. -/
def guarded (block : CodeBlock) (held : Nat) (body : Emit Unit) : Emit Nat := do
  let handler ← hole fun h => .guard h held
  inBlock block body
  op .unguard
  pure handler

def newLoop : Emit Nat := modifyGet fun e => (e.loops, { e with loops := e.loops + 1 })

/-- Goes on here after a jump out of a loop. -/
def landBreaks (key : Nat) : Emit Unit := do
  fillAll (((← current).breaks.filter fun b => b.1 = key).map Prod.snd)

/-! ## Compound statements -/

/-- The statements without a text that describes them. -/
def undescribed (body : List Node) : List Node := if Check.isDescribed body then body.drop 1 else body

def description? (body : List Node) : Option String :=
  if Check.isDescribed body then
    body.head?.bind fun n => match n.form with
      | .expression value => match value.form with
        | .constant (.text s) => some s
        | _ => none
      | _ => none
  else none

/-- Some statement says what type a name has. -/
def declares (body : List Node) : Bool :=
  let within (fuel : Nat) : List Node → Bool :=
    Nat.rec (fun _ => false) (fun _ inner ns => ns.any fun n => match n.form with
      | .annAssign .. => true
      | .functionDef .. | .classDef .. | .lambda .. => false
      | _ => inner n.children) fuel
  within ((Node.mk .unknown (.module body)).height) body

/-- The body of a script or of a class: its description, the types it declares, its statements. -/
def bodyOf (go : Node → Emit Unit) (body : List Node) : Emit Unit := do
  if declares body then op .declareTypes
  match description? body with
  | some doc =>
    push (.text doc)
    op (.storeName "__doc__")
  | none => pure ()
  (undescribed body).forM go

/-- What a function's parameters and result are declared to be. -/
def declaredTypes (go : Node → Emit Unit) (p : ParameterList) (returns : Option Node) :
    Emit Bool := do
  let owner := (← current).owner
  let parameters := p.positional ++ p.posOnly ++ p.rest.toList ++ p.keywordOnly ++ p.keywordRest.toList
  let declared := (parameters.filterMap fun a =>
    (declaredType? a).map (privateName owner (parameterName a), ·)) ++
    (returns.map ("return", ·)).toList
  declared.forM fun (name, type) => do
    push (.text name)
    go type
  if !declared.isEmpty then op (.buildDict declared.length)
  pure !declared.isEmpty

/-- Calls decorators, the last one first. -/
def decorated (decorators : List Node) : Emit Unit :=
  decorators.reverse.forM fun d => within d.span.line (op (.call 1 []))

def functionStatement (go : Node → Emit Unit) (n : Node) (isAsync : Bool) (name : String)
    (args : Node) (body decorators : List Node) (returns : Option Node) : Emit Unit := do
  decorators.forM go
  let p := parameterList args
  let defaults ← defaultsOf go p
  let hasDeclared ← declaredTypes go p returns
  let u ← current
  let scope := u.scope.innerAt n.span
  let code ← unit scope (if isAsync then .asyncFunction else .function) name (← fullNameOf name)
    u.owner p (description? body) n.span.line do
      (undescribed body).forM go
      push .none
      op .give
  makeFunction scope code defaults hasDeclared
  decorated decorators
  nameUse .store name

def classStatement (go : Node → Emit Unit) (n : Node) (name : String)
    (bases keywords body decorators : List Node) : Emit Unit := do
  decorators.forM go
  let u ← current
  let scope := u.scope.innerAt n.span
  let fullName ← fullNameOf name
  let code ← unit scope .cls name fullName (some name) default (description? body) n.span.line do
    op (.loadName "__name__")
    op (.storeName "__module__")
    push (.text fullName)
    op (.storeName "__qualname__")
    bodyOf go body
    if scope.info.isAskedFor then
      op (.shareCell (← cellOf className))
      op (.storeName "__classcell__")
    push .none
    op .give
  makeFunction scope code (false, false) false
  given go none bases keywords .makeClass .makeClassSpread
  decorated decorators
  nameUse .store name

/-- A body with handlers for the faults it raises. -/
def handled (go : Node → Emit Unit) (body handlers orelse : List Node) : Emit Unit := do
  let handler ← guarded .guarded 0 (body.forM go)
  orelse.forM go
  let done ← hole .jump
  fill handler
  let dones ← handlers.flatMapM fun h => within h.span.line do
    match h.form with
    | .handler type name body =>
      let next ← type.toList.mapM fun type => do
        go type
        op .matchFault
        hole .jumpIfFalse
      match name with
      | some name =>
        nameUse .store name
        let cleanup ← guarded (.handler name) 0 (body.forM go)
        let forget : Emit Unit := do
          push .none
          nameUse .store name
          nameUse .remove name
        op .leaveHandler
        forget
        let done ← hole .jump
        fill cleanup
        forget
        op .reraise
        fillAll next
        pure [done]
      | none =>
        op .pop
        inBlock (.handler none) (body.forM go)
        op .leaveHandler
        let done ← hole .jump
        fillAll next
        pure [done]
    | _ => pure []
  op .reraise
  fillAll (done :: dones)

/-- A body with handlers that each take a part of the faults it raises. While they run, a list of
what they have raised and what is left of the fault lie on top of it. -/
def handledByParts (go : Node → Emit Unit) (body handlers orelse : List Node) : Emit Unit := do
  let handler ← guarded .guarded 0 (body.forM go)
  orelse.forM go
  let done ← hole .jump
  fill handler
  op (.buildList 0)
  op (.copy 1)
  handlers.forM fun h => within h.span.line do
    match h.form with
    | .handler type name body => do
      type.forM go
      op .splitFault
      let missed ← hole .jumpIfFalse
      let forget : Emit Unit := name.forM fun name => do
        push .none
        nameUse .store name
        nameUse .remove name
      match name with
      | some name => nameUse .store name
      | none => op .pop
      let broken ← guarded (.handler name) 0 (body.forM go)
      forget
      let next ← hole .jump
      fill broken
      forget
      op (.appendTo 1)
      op .leaveHandler
      let away ← hole .jump
      fill missed
      op .pop
      fillAll [next, away]
    | _ => pure ()
  op .joinFaults
  let clean ← hole .jumpIfFalse
  op .reraise
  fill clean
  op .pop
  op .leaveHandler
  fill done

/-- A body with what follows it whatever happens. -/
def followed (go : Node → Emit Unit) (body : Emit Unit) (finalbody : List Node) : Emit Unit := do
  let handler ← guarded (.finally finalbody) 0 body
  finalbody.forM go
  let done ← hole .jump
  fill handler
  inBlock .finallyHandler (finalbody.forM go)
  op .reraise
  fill done

def inContexts (go : Node → Emit Unit) (line : Option Int) (body : Emit Unit) :
    List Node → Emit Unit
  | [] => body
  | item :: rest => do
    match item.form with
    | .withItem context vars =>
      go context
      op .enter
      let handler ← guarded .context 1 do
        match vars with
        | some vars => go vars
        | none => op .pop
        inContexts go line body rest
      onLine line
      op .exit
      let done ← hole .jump
      fill handler
      op .exitFault
      let suppressed ← hole .jumpIfTrue
      op .reraise
      fill suppressed
      op .pop
      op .leaveHandler
      op .pop
      fill done
    | _ => pure ()

/-- A value that is looked at case by case. -/
def matched (go : Node → Emit Unit) (subject : Node) (cases : List Node) : Emit Unit := do
  go subject
  let dones ← cases.flatMapM fun c => do
    match c.form with
    | .matchCase p guard body =>
      op (.copy 0)
      let misses ← missesOf (pattern go (p.height + 1) 0 p)
      (captured p).forM fun name => do
        op (.loadSlot (← captureSlot name) name)
        nameUse .store name
      let unmet ← guard.toList.flatMapM (jumpUnless go)
      op .pop
      body.forM go
      let done ← hole .jump
      landMisses misses
      fillAll unmet
      pure [done]
    | _ => pure []
  op .pop
  fillAll dones

/-! ## Simple statements -/

def dottedParts (name : String) : List String := (name.splitOn ".")

def importModules (names : List Node) : Emit Unit :=
  names.forM fun a => do
    match a.form with
    | .importedName name asName =>
      op (.importModule (privateName (← current).owner name) [] 0)
      match asName with
      | some asName =>
        op (.importDeep ((dottedParts name).drop 1))
        nameUse .store asName
      | none => nameUse .store ((dottedParts name).headD name)
    | _ => pure ()

def importMembers (module : Option String) (names : List Node) (level : Option Int) : Emit Unit := do
  let members := names.filterMap fun a => match a.form with
    | .importedName name asName => some (name, asName)
    | _ => none
  let owner := (← current).owner
  op (.importModule (privateName owner (module.getD "")) (members.map Prod.fst) (level.getD 0))
  if members.map Prod.fst = ["*"] then op .importAll
  else
    members.forM fun (name, asName) => do
      op (.importMember (privateName owner name))
      nameUse .store (asName.getD name)
    op .pop

def changeTarget (go : Node → Emit Unit) (target : Node) (o : BinaryOperator) (value : Node) :
    Emit Unit := do
  match target.form with
  | .name id _ =>
    within target.span.line (nameUse .load id)
    go value
    op (.update o)
    within target.span.line (nameUse .store id)
  | .member inner name _ =>
    let name := privateName (← current).owner name
    go inner
    op (.copy 0)
    within target.span.endLine (op (.loadMember name))
    go value
    op (.update o)
    op .swap
    within target.span.endLine (op (.storeMember name))
  | .subscript inner index _ =>
    go inner
    go index
    op (.copy 1)
    op (.copy 1)
    within target.span.line (op .loadItem)
    go value
    op (.update o)
    op .sink
    within target.span.line (op .storeItem)
  | _ => pure ()

/-- A target with the type that it is declared to have. -/
def declaration (go : Node → Emit Unit) (target declared : Node) (value : Option Node)
    (simple : Bool) : Emit Unit := do
  match value with
  | some value =>
    go value
    go target
  | none => pure ()
  let kind := (← current).kind
  let isOuter := kind = .module || kind = .cls
  let dropped (n : Node) : Emit Unit := do
    go n
    op .pop
  match target.form with
  | .name id _ =>
    if simple && isOuter then
      go declared
      op (.loadName "__annotations__")
      push (.text (privateName (← current).owner id))
      op .storeItem
  | .member inner _ _ => if value.isNone then dropped inner
  | .subscript inner index _ =>
    if value.isNone then
      dropped inner
      dropped index
  | _ => pure ()
  if !simple && isOuter then dropped declared

/-- A way back to the start of a loop, or out of it. -/
def loopJump (go : Node → Emit Unit) (leaves : Bool) : Emit Unit := do
  match ← leaveBlocks go false true (← current).blocks with
  | some (.loop key start hasIterator) =>
    if leaves then
      if hasIterator then op .pop
      let place ← hole .jump
      change fun u => { u with breaks := (key, place) :: u.breaks }
    else op (.jump start)
  | _ => pure ()

def statement (go : Node → Emit Unit) (n : Node) : Emit Unit := do
  let all (ns : List Node) : Emit Unit := ns.forM go
  match n.form with
  | .module body =>
    bodyOf go body
    push .none
    op .give
  | .functionDef isAsync name args body decorators returns _ =>
    functionStatement go n isAsync name args body decorators returns
  | .classDef name bases keywords body decorators _ =>
    classStatement go n name bases keywords body decorators
  | .ret value => do
    orNone go value
    discard (leaveBlocks go true false (← current).blocks)
    op .give
  | .delete targets => all targets
  | .assign targets value => do
    go value
    let count := targets.length
    (targets.zip (List.range count)).forM fun (t, k) => do
      if k + 1 < count then op (.copy 0)
      go t
  | .augAssign target o value => changeTarget go target o value
  | .annAssign target declared value simple => declaration go target declared value simple
  | .forLoop _ target iter body orelse => do
    go iter
    op .iterate
    let key ← newLoop
    let start ← here
    let done ← hole .next
    go target
    inBlock (.loop key start true) (all body)
    op (.jump start)
    fill done
    all orelse
    landBreaks key
  | .whileLoop test body orelse => do
    let key ← newLoop
    let start ← here
    let done ← jumpUnless go test
    inBlock (.loop key start false) (all body)
    op (.jump start)
    fillAll done
    all orelse
    landBreaks key
  | .branch test body orelse => do
    let otherwise ← jumpUnless go test
    all body
    let done ← hole .jump
    fillAll otherwise
    all orelse
    fill done
  | .withBlock _ items body => inContexts go n.span.line (all body) items
  | .tryBlock star body handlers orelse finalbody =>
    let inner : Emit Unit :=
      if handlers.isEmpty then do
        all body
        all orelse
      else if star then handledByParts go body handlers orelse
      else handled go body handlers orelse
    if finalbody.isEmpty then inner else followed go inner finalbody
  | .matchOn subject cases => matched go subject cases
  | .raise exc cause => do
    all (exc.toList ++ cause.toList)
    op (.raise (exc.toList ++ cause.toList).length)
  | .assert test message => do
    let met ← jumpWhere go (test.height + 1) true test
    orNone go message
    op (.failAssertion message.isSome)
    fillAll met
  | .importModules names => importModules names
  | .importFrom module names level => importMembers module names level
  | .expression value => do
    if (constantOf? value).isNone then
      go value
      op .pop
  | .leaveLoop => loopJump go true
  | .nextRound => loopJump go false
  | .globals _ | .nonlocals _ | .pass => pure ()
  | _ => expression go n

/-- Writes a construct of at most so many levels. -/
def write : Nat → Node → Emit Unit
  | 0, _ => pure ()
  | fuel + 1, n => within n.span.line (statement (write fuel) n)

end Emit

/-- Codes with those of a script behind them; the last one is that of the script itself. -/
def codesAfter (before : Array Code) (scope : Scope) (tree : Node) (file : String) : Array Code :=
  let write := Emit.unit scope .module "<module>" "<module>" none default none (some 1)
    (Emit.write (tree.height + 1) tree)
  (write.run ⟨before, [], 0, file⟩).2.codes

end LiveSketch.Script

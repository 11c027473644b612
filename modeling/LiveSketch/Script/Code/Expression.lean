import LiveSketch.Script.Code.Pattern

/-!
# Code of expressions

An expression leaves its value on the stack; written as a target, it takes a value from there.
-/

namespace LiveSketch.Script

namespace Emit

def isStarred (n : Node) : Bool :=
  match n.form with
  | .starred .. => true
  | _ => false

/-- Writes an expression, or else `none`. -/
def orNone (go : Node → Emit Unit) (n : Option Node) : Emit Unit := (n.map go).getD (push .none)

/-! ## Rows -/

/-- A row of elements, some of which may be starred. -/
def row (go : Node → Emit Unit) (build : Nat → Op) (add extend : Op) (elements : List Node) :
    Emit Unit := do
  let plain := elements.takeWhile fun e => !isStarred e
  plain.forM go
  op (build plain.length)
  (elements.drop plain.length).forM fun e => do
    go (Check.unstarred e)
    op (if isStarred e then extend else add)

def listOf (go : Node → Emit Unit) (elements : List Node) : Emit Unit :=
  row go .buildList (.appendTo 0) .extendList elements

def tupleOf (go : Node → Emit Unit) (elements : List Node) : Emit Unit :=
  if elements.any isStarred then do
    listOf go elements
    op .listToTuple
  else do
    elements.forM go
    op (.buildTuple elements.length)

/-- Takes a row from the stack and stores its elements in targets. -/
def unpackInto (go : Node → Emit Unit) (targets : List Node) : Emit Unit := do
  let before := (targets.takeWhile fun e => !isStarred e).length
  op (if before = targets.length then .unpack before
    else .unpackRest before (targets.length - before - 1))
  targets.forM fun e => go (Check.unstarred e)

/-! ## Calls -/

/-- Named arguments one after the other, or a mapping that is spread out. -/
inductive Named where
  | row (named : List (String × Node))
  | spread (value : Node)

def namedOf : List Node → List Named
  | [] => []
  | k :: rest => match k.form, namedOf rest with
    | .keyword (some name) value, .row named :: more => .row ((name, value) :: named) :: more
    | .keyword (some name) value, more => .row [(name, value)] :: more
    | .keyword none value, more => .spread value :: more
    | _, more => more

def namedDict (go : Node → Emit Unit) (spans : List Named) : Emit Unit :=
  (spans.zip (List.range spans.length)).forM fun (span, k) => do
    match span with
    | .row entries =>
      entries.forM fun (name, value) => do
        push (.text name)
        go value
      op (.buildDict entries.length)
      if 0 < k then op .extendNamed
    | .spread value =>
      if k = 0 then op (.buildDict 0)
      go value
      op .extendNamed

/-- The arguments of a call, and the call itself on behalf of a line. -/
def given (go : Node → Emit Unit) (line : Option Int) (arguments keywords : List Node)
    (plainCall : Nat → List String → Op) (spreadCall : Bool → Op) : Emit Unit := do
  let owner := (← current).owner
  let spread : Emit Unit := do
    match arguments with
    | [only] => if isStarred only then go (Check.unstarred only) else tupleOf go arguments
    | _ => tupleOf go arguments
    let spans := namedOf keywords
    namedDict go spans
    within line (op (spreadCall !spans.isEmpty))
  let plain (entries : List (String × Node)) : Emit Unit := do
    arguments.forM go
    entries.forM fun (_, value) => go value
    within line (op (plainCall arguments.length (entries.map fun e => privateName owner e.1)))
  if arguments.any isStarred then spread
  else match namedOf keywords with
    | [] => plain []
    | [.row entries] => plain entries
    | _ => spread

/-- The call of a member is written on the line where the member's name ends. -/
def callLine (func : Node) (arguments keywords : List Node) : Option Int :=
  let isSpread := arguments.any isStarred || keywords.any fun k => match k.form with
    | .keyword none _ => true
    | _ => false
  match func.form with
  | .member _ _ .load => if isSpread then none else func.span.endLine
  | _ => none

/-! ## Conditions -/

/-- Writes an expression that is only asked for its truth, and jumps where it is as wanted. Gives the
holes of the jumps. -/
def jumpWhere (go : Node → Emit Unit) : Nat → Bool → Node → Emit (List Nat)
  | 0, _, _ => pure []
  | fuel + 1, wanted, n => do
    let plain : Emit (List Nat) := do
      go n
      return [← hole (if wanted then .jumpIfTrue else .jumpIfFalse)]
    match n.form with
    | .unary .not operand => jumpWhere go fuel (!wanted) operand
    | .connect connective values => do
      let skips := connective = .or
      match values.reverse with
      | [] => plain
      | last :: before =>
        let first ← before.reverse.flatMapM (jumpWhere go fuel skips)
        let final ← jumpWhere go fuel wanted last
        if skips = wanted then pure (first ++ final)
        else
          fillAll first
          pure final
    | .ifExp test body orelse => do
      let otherwise ← jumpWhere go fuel false test
      let first ← jumpWhere go fuel wanted body
      let done ← hole .jump
      fillAll otherwise
      let second ← jumpWhere go fuel wanted orelse
      fill done
      pure (first ++ second)
    | _ => plain

/-- Writes a condition, and jumps where it is not as wanted. Gives the holes of the jumps. -/
def jumpUnless (go : Node → Emit Unit) (test : Node) : Emit (List Nat) :=
  jumpWhere go (test.height + 1) false test

def comparison (go : Node → Emit Unit) (left : Node) (ops : List Comparison) (rest : List Node) :
    Emit Unit := do
  go left
  let steps := ops.zip rest
  let holes ← (steps.take (steps.length - 1)).mapM fun (o, right) => do
    go right
    op (.copy 0)
    op .sink
    op (.compare o)
    hole .jumpIfFalseOrPop
  (steps.drop (steps.length - 1)).forM fun (o, right) => do
    go right
    op (.compare o)
  if !holes.isEmpty then
    let done ← hole .jump
    fillAll holes
    op .swap
    op .pop
    fill done

/-! ## Functions -/

/-- The parameters of a comprehension: what it goes through first. -/
def sourceParameter (span : Span) : ParameterList :=
  { (default : ParameterList) with posOnly := [.mk span (.argument ".0" none)] }

/-- The default values of parameters. Gives whether there are any of each kind. -/
def defaultsOf (go : Node → Emit Unit) (p : ParameterList) : Emit (Bool × Bool) := do
  let owner := (← current).owner
  if !p.defaults.isEmpty then
    p.defaults.forM go
    op (.buildTuple p.defaults.length)
  let named := (p.keywordOnly.zip p.keywordDefaults).filterMap fun (k, d) => d.map (k, ·)
  if !named.isEmpty then
    named.forM fun (k, d) => do
      push (.text (privateName owner (parameterName k)))
      go d
    op (.buildDict named.length)
  pure (!p.defaults.isEmpty, !named.isEmpty)

def makeFunction (scope : Scope) (code : Nat) (defaults : Bool × Bool) (hasDeclared : Bool) :
    Emit Unit := do
  let cells ← shareCells scope
  op (.makeFunction code defaults.1 defaults.2 hasDeclared cells)

/-- The clauses of a comprehension inside of each other, and what is done innermost. -/
def clausesOf (go : Node → Emit Unit) (innermost : Emit Unit) : Bool → List Node → Emit Unit
  | _, [] => innermost
  | isFirst, c :: rest => do
    let c := Walk.clauseOf c
    if isFirst then op (.loadSlot 0 ".0")
    else
      go c.iter
      op .iterate
    let start ← here
    let done ← hole .next
    go c.target
    let skips ← c.conditions.flatMapM (jumpUnless go)
    clausesOf go innermost false rest
    fillAll skips
    op (.jump start)
    fill done

/-- A comprehension: a function of its own that is called with what it goes through first. -/
def comprehension (go : Node → Emit Unit) (span : Span) (name : String) (build : Option Op)
    (clauses : List Node) (innermost : Emit Unit) : Emit Unit := do
  let u ← current
  let scope := u.scope.innerAt span
  let code ← unit scope .comprehension name (← fullNameOf name) u.owner (sourceParameter span) none
    span.line do
      build.forM op
      clausesOf go innermost true clauses
      if build.isNone then push .none
      op .give
  makeFunction scope code (false, false) false
  go (Walk.clauseOf (clauses.head?.getD default)).iter
  op .iterate
  op (.call 1 [])

/-! ## Expressions -/

def expression (go : Node → Emit Unit) (n : Node) : Emit Unit := do
  match n.form with
  | .constant l => push (literalValue l)
  | .name "__debug__" .load => push (.bool true)
  | .name id access => nameUse access id
  | .connect connective values => do
    let count := values.length
    let holes ← (values.zip (List.range count)).flatMapM fun (v, k) => do
      go v
      if k + 1 < count then
        return [← hole (if connective = .and then .jumpIfFalseOrPop else .jumpIfTrueOrPop)]
      else pure []
    fillAll holes
  | .namedExpr target value => do
    go value
    op (.copy 0)
    go target
  | .binary left o right => do
    go left
    go right
    op (.binary o)
  | .unary .not operand => do
    match operand.form with
    | .compare left [.is] rest => comparison go left [.isNot] rest
    | .compare left [.isNot] rest => comparison go left [.is] rest
    | .compare left [.in] rest => comparison go left [.notIn] rest
    | .compare left [.notIn] rest => comparison go left [.in] rest
    | _ =>
      go operand
      op (.unary .not)
  | .unary o operand => do
    go operand
    op (.unary o)
  | .ifExp test body orelse => do
    let otherwise ← jumpUnless go test
    go body
    let done ← hole .jump
    fillAll otherwise
    go orelse
    fill done
  | .dict keys values => do
    op (.buildDict 0)
    (keys.zip values).forM fun (k, v) => do
      match k with
      | some k =>
        go k
        go v
        op (.putIn 0)
      | none =>
        go v
        op .extendDict
  | .set elements => row go .buildSet (.addTo 0) .extendSet elements
  | .listComp element clauses =>
    comprehension go n.span "<listcomp>" (some (.buildList 0)) clauses do
      go element
      op (.appendTo clauses.length)
  | .setComp element clauses =>
    comprehension go n.span "<setcomp>" (some (.buildSet 0)) clauses do
      go element
      op (.addTo clauses.length)
  | .dictComp key value clauses =>
    comprehension go n.span "<dictcomp>" (some (.buildDict 0)) clauses do
      go key
      go value
      op (.putIn clauses.length)
  | .generatorExp element clauses =>
    comprehension go n.span "<genexpr>" none clauses do
      go element
      op .yield
      op .pop
  | .lambda args body => do
    let p := parameterList args
    let defaults ← defaultsOf go p
    let u ← current
    let scope := u.scope.innerAt n.span
    let code ← unit scope .lambda "<lambda>" (← fullNameOf "<lambda>") u.owner p none n.span.line do
      go body
      op .give
    makeFunction scope code defaults false
  | .yield value => do
    orNone go value
    op .yield
  | .yieldFrom value => do
    go value
    op .iterate
    push .none
    op .delegate
  | .await value => do
    go value
    op .awaitable
    push .none
    op .delegate
  | .compare left ops rest => comparison go left ops rest
  | .call func arguments keywords => do
    go func
    given go (callLine func arguments keywords) arguments keywords .call .callSpread
  | .formattedValue value conversion spec => do
    go value
    spec.forM go
    op (.format conversion spec.isSome)
  | .joinedText values => do
    values.forM go
    op (.joinTexts values.length)
  | .member value name access => do
    go value
    let name := privateName (← current).owner name
    match access with
    | .load => within n.span.endLine (op (.loadMember name))
    | .store => within n.span.endLine (op (.storeMember name))
    | .remove => op (.dropMember name)
  | .subscript value index access => do
    go value
    go index
    op (match access with
      | .load => .loadItem
      | .store => .storeItem
      | .remove => .dropItem)
  | .slice lower upper step => do
    orNone go lower
    orNone go upper
    orNone go step
    op .buildSlice
  | .list elements .load => listOf go elements
  | .tuple elements .load => tupleOf go elements
  | .list elements .store | .tuple elements .store => unpackInto go elements
  | .list elements .remove | .tuple elements .remove => elements.forM go
  | .starred value _ => go value
  | _ => pure ()

end Emit

end LiveSketch.Script

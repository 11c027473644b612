import LiveSketch.Script.Machine.Step

/-!
# Running

Activations are carried out step by step. A call puts an activation on top of the one it came from; a
raised fault goes down through them to the first handler and notes each place it goes through. What
the language itself calls, it calls through a host of one level less.
-/

namespace LiveSketch.Script

/-- What carrying out activations comes to. -/
inductive Ended where
  | result (v : Value)
  | yielded (v : Value) (a : Activation)

/-- The most steps that are made. -/
def maxSteps : Nat := 400000000

/-- The most activations inside each other. -/
def maxDepth : Nat := 980

/-- The most calls of the language inside each other. -/
def maxLevels : Nat := 300

namespace Run

/-- Notes that a fault went through an activation, at the operation before its place. -/
def noteFrame (fault : Value) (a : Activation) (place : Nat) : Run Unit := do
  match fault with
  | .ref address =>
    let code := ((← getThe World).codes[a.code]?).getD default
    changeFault address fun f => { f with frames := (code.file, code.lineAt place) :: f.frames }
  | _ => pure ()

/-- Leaves the blocks of an activation up to one that goes on at a handler. -/
def handlerOf (a : Activation) (fault : Value) : List Block → Run (Option Activation)
  | [] => pure none
  | .handler before :: blocks => do
    modifyThe World fun w => { w with handled := before }
    handlerOf a fault blocks
  | .guard handler depth :: blocks => do
    let before := (← getThe World).handled
    modifyThe World fun w => { w with handled := some fault }
    pure (some { a with
      place := handler, blocks := .handler before :: blocks
      stack := fault :: a.stack.drop (a.stack.length - depth) })

/-- One activation less is inside of others. -/
def leaveDepth : Run Unit := modifyThe World fun w => { w with depth := w.depth - 1 }

/-- One activation more is inside of others. -/
def enterDepth : Run Unit := do
  if maxDepth ≤ (← getThe World).depth then
    raise "RecursionError" "maximum recursion depth exceeded"
  modifyThe World fun w => { w with depth := w.depth + 1 }

/-- Takes a fault down through activations to the first handler. -/
def unwind (fault : Value) (a : Activation) : List Activation → Run (Activation × List Activation)
  | [] => do
    match ← handlerOf a fault a.blocks with
    | some a => pure (a, [])
    | none => raiseFault fault
  | b :: outer => do
    match ← handlerOf a fault a.blocks with
    | some a => pure (a, b :: outer)
    | none =>
      leaveDepth
      noteFrame fault b (b.place - 1)
      unwind fault b outer

/-- What a step comes to, also where it breaks off. -/
inductive Outcome where
  | stepped (s : Stepped)
  | broken (fault : Value)

def tryStep (a : Activation) : Run Outcome :=
  orElse (do
    match ← step a with
    | .into a callee =>
      enterDepth
      pure (.stepped (.into a callee))
    | s => pure (.stepped s)) fun fault => pure (.broken fault)

/-- Carries out an activation that others wait for. -/
def loop : Nat → Activation → List Activation → Run Ended
  | 0, _, _ => throw Stop.spent
  | fuel + 1, a, outer => do
    match ← tryStep a with
    | .stepped (.on a) => loop fuel a outer
    | .stepped (.into a callee) => loop fuel callee (a :: outer)
    | .stepped (.give v) => match outer with
      | [] => pure (.result v)
      | b :: outer => do
        leaveDepth
        loop fuel (b.pushed v) outer
    | .stepped (.yield v a) => pure (.yielded v a)
    | .stepped (.again fault) => do
      let (a, outer) ← unwind fault a outer
      loop fuel a outer
    | .broken fault => do
      noteFrame fault a a.place
      let (a, outer) ← unwind fault a outer
      loop fuel a outer

/-- Carries out an activation to its end. -/
def performHere (a : Activation) : Run Value := do
  let handled := (← getThe World).handled
  let depth := (← getThe World).depth
  enterDepth
  let restore : Run Unit := modifyThe World fun w => { w with handled := handled, depth := depth }
  let ended ← orElse (loop maxSteps a []) fun fault => do
    restore
    raiseFault fault
  restore
  match ended with
  | .result v | .yielded v _ => pure v

def callHere (natives : String → Option Native) (f : Value) (args : List Value)
    (named : List (String × Value)) : Run Value := do
  let run (name : String) (args : List Value) : Run Value := do
    match natives name with
    | some n => n args named
    | none => raise "NotImplementedError" (name ++ "() is not available")
  match f with
  | .native name => run name args
  | .method self name => run name (self :: args)
  | .canvasCall name => run "canvas" (.text name :: args)
  | _ => match ← enter f args named with
    | .value v => pure v
    | .activation a => performHere a

/-- Takes up a generator that waits. -/
def resumeHere (address : Nat) (r : Resume) : Run Yielded := do
  let o ← object address
  let type ← typeName (.ref address)
  match o.data with
  | .generator .running => wrongValue (type ++ " already executing")
  | .generator .finished => match r with
    | .send _ => pure (.result .none)
    | .raise fault => raiseFault fault
  | .generator (.waiting a isFresh) =>
    match r, isFresh with
    | .send .none, _ | .send _, false | .raise _, _ => pure ()
    | _, _ => wrongType ("can't send non-None value to a just-started " ++ type)
    setData address (.generator .running)
    let handled := (← getThe World).handled
    let depth := (← getThe World).depth
    let restore : Run Unit := modifyThe World fun w => { w with handled := handled, depth := depth }
    let start : Run Ended := do
      enterDepth
      match r with
      | .send v => loop maxSteps (if isFresh then a else a.pushed v) []
      | .raise fault => do
        noteFrame fault a (a.place - 1)
        let (a, outer) ← unwind fault a []
        loop maxSteps a outer
    let ended ← orElse start fun fault => do
      restore
      setData address (.generator .finished)
      if ← isOfType fault "StopIteration" then
        let other ← newFault "RuntimeError" [.text (type ++ " raised StopIteration")]
        match other, fault with
        | .ref n, .ref old => do
          let frames := match (← object old).data with
            | .fault f => f.frames
            | _ => []
          changeFault n fun f => { f with
            cause := some fault, context := some fault, frames := frames.take 1 }
        | _, _ => pure ()
        raiseFault other
      else raiseFault fault
    restore
    match ended with
    | .result v => do
      setData address (.generator .finished)
      pure (.result v)
    | .yielded v a => do
      setData address (.generator (.waiting a false))
      pure (.value v)
  | _ => pure (.result .none)

end Run

/-- The machine with at most so many calls of the language inside each other. -/
def hostOf (natives : String → Option Native) : Nat → Host
  | 0 =>
    let broken {α : Type} : Action α := Run.raise "RecursionError" "maximum recursion depth exceeded"
      { call := fun _ _ _ => throw .spent, resume := fun _ _ => throw .spent
        perform := fun _ => throw .spent, knows := fun _ => false }
    { call := fun _ _ _ => broken, resume := fun _ _ => broken, perform := fun _ => broken
      knows := fun _ => false }
  | levels + 1 =>
    { call := fun f args named => Run.callHere natives f args named (hostOf natives levels)
      resume := fun address r => Run.resumeHere address r (hostOf natives levels)
      perform := fun a => Run.performHere a (hostOf natives levels)
      knows := fun name => (natives name).isSome }

end LiveSketch.Script

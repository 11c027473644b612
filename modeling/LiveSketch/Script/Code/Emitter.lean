import LiveSketch.Script.Check.Emit
import LiveSketch.Script.Code.Basic

/-!
# Writing code

Code is written unit by unit, a unit inside of another being finished first. A jump ahead is written
with a hole for its target, which is filled when the target is reached.
-/

namespace LiveSketch.Script

/-- A block that code being written is inside of, and so what has to be done on the way out. -/
inductive CodeBlock where
  /-- A loop, by its number; one over values keeps an iterator on the stack. -/
  | loop (key start : Nat) (hasIterator : Bool)
  | finally (body : List Node)
  /-- What follows whatever happens, while a fault waits on the stack. -/
  | finallyHandler
  | guarded
  /-- A handler, with the name of its fault. -/
  | handler (name : Option String)
  | context
  /-- A value that waits to be given back. -/
  | waiting
deriving Inhabited

/-- A unit being written. -/
structure CodeUnit where
  scope : Scope
  kind : UnitKind
  owner : Option String
  fullName : String
  ops : Array (Op × Nat)
  slots : Array String
  shared : Array String
  outer : Array String
  blocks : List CodeBlock
  /-- The holes of jumps out of loops, by the loop's number. -/
  breaks : List (Nat × Nat)
  /-- The holes of jumps out of the pattern being written, with the values that are on the stack. -/
  misses : List (Nat × Nat)
  line : Nat
deriving Inhabited

/-- The state of writing: the finished codes and the units being written, innermost first. -/
structure Emitter where
  codes : Array Code
  units : List CodeUnit
  loops : Nat
  file : String

abbrev Emit := StateM Emitter

namespace Emit

/-- The unit being written. -/
def current : Emit CodeUnit := do return ((← get).units.head?).getD default

/-- Changes the unit being written. -/
def change (f : CodeUnit → CodeUnit) : Emit Unit :=
  modify fun e => match e.units with
    | u :: rest => { e with units := f u :: rest }
    | [] => e

def op (o : Op) : Emit Unit := change fun u => { u with ops := u.ops.push (o, u.line) }

/-- Writes what follows on behalf of a line. -/
def onLine (line : Option Int) : Emit Unit :=
  change fun u => { u with line := (line.map Int.toNat).getD u.line }

/-- Writes on behalf of a line, and goes back to the line before. -/
def within {α : Type} (line : Option Int) (x : Emit α) : Emit α := do
  let before := (← current).line
  onLine line
  let a ← x
  change fun u => { u with line := before }
  pure a

/-- The place of the next operation. -/
def here : Emit Nat := do return (← current).ops.size

/-- Writes a jump with a hole, and gives its place. -/
def hole (o : Nat → Op) : Emit Nat := do
  let place ← here
  op (o 0)
  pure place

def withTarget (target : Nat) : Op → Op
  | .next _ => .next target
  | .jump _ => .jump target
  | .jumpIfFalse _ => .jumpIfFalse target
  | .jumpIfTrue _ => .jumpIfTrue target
  | .jumpIfFalseOrPop _ => .jumpIfFalseOrPop target
  | .jumpIfTrueOrPop _ => .jumpIfTrueOrPop target
  | .guard _ held => .guard target held
  | o => o

/-- Fills a hole with the place of the next operation. -/
def fill (place : Nat) : Emit Unit := change fun u =>
  { u with ops := u.ops.modify place fun (o, line) => (withTarget u.ops.size o, line) }

def fillAll (places : List Nat) : Emit Unit := places.forM fill

def enter (b : CodeBlock) : Emit Unit := change fun u => { u with blocks := b :: u.blocks }

/-- Goes out of the innermost block. -/
def leave : Emit Unit := change fun u => { u with blocks := u.blocks.drop 1 }

def inBlock (b : CodeBlock) (x : Emit Unit) : Emit Unit := do
  enter b
  x
  leave

/-! ## Names -/

/-- The slot of a name, which is made if there is none. -/
def slotOf (name : String) : Emit Nat := do
  let u ← current
  match u.slots.findIdx? (· == name) with
  | some slot => pure slot
  | none =>
    change fun u => { u with slots := u.slots.push name }
    pure u.slots.size

/-- The cell of a name: of this unit, or of one further out. -/
def cellOf (name : String) : Emit Nat := do
  let u ← current
  match u.shared.findIdx? (· == name) with
  | some cell => pure cell
  | none => pure (u.shared.size + ((u.outer.findIdx? (· == name)).getD 0))

def nameUse (access : Access) (name : String) : Emit Unit := do
  let u ← current
  let name := privateName u.owner name
  let isFunction := u.scope.info.kind = .function
  let inTable : Emit Unit := op (match access with
    | .load => .loadName name
    | .store => .storeName name
    | .remove => .dropName name)
  let isGlobal : Emit Unit := op (match access with
    | .load => .loadGlobal name
    | .store => .storeGlobal name
    | .remove => .dropGlobal name)
  let inCell : Emit Unit := do
    let cell ← cellOf name
    op (match access with
      | .load => if isFunction then .loadCell cell name else .loadNameOrCell cell name
      | .store => .storeCell cell
      | .remove => .dropCell cell name)
  match u.scope.placeOf name with
  | .own =>
    if isFunction then
      let slot ← slotOf name
      op (match access with
        | .load => .loadSlot slot name
        | .store => .storeSlot slot
        | .remove => .dropSlot slot name)
    else inTable
  | .shared | .outer => inCell
  | .declaredGlobal => isGlobal
  | .global => if isFunction then isGlobal else inTable

/-! ## Units -/

/-- The full name of something inside of the unit being written. -/
def fullNameOf (name : String) : Emit String := do
  let u ← current
  if u.kind = .module || u.scope.placeOf (privateName u.owner name) = .declaredGlobal then pure name
  else if u.kind = .cls then pure (u.fullName ++ "." ++ name)
  else pure (u.fullName ++ ".<locals>." ++ name)

/-- The names of the slots of a scope: its parameters, then its other own names. -/
def slotNames (scope : Scope) (parameters : List String) : Array String :=
  if scope.info.kind = .function then
    let own := scope.info.places.filterMap fun (name, place) =>
      if place = .own && !parameters.contains name then some name else none
    (parameters ++ own).toArray
  else #[]

def finished (u : CodeUnit) (name : String) (p : ParameterList) (doc : Option String)
    (file : String) : Code where
  name := name
  fullName := u.fullName
  posOnly := p.posOnly.length
  positional := p.posOnly.length + p.positional.length
  keywordOnly := p.keywordOnly.length
  hasRest := p.rest.isSome
  hasKeywordRest := p.keywordRest.isSome
  slots := u.slots
  shared := u.shared
  outer := u.outer
  ops := u.ops
  isGenerator := u.scope.info.isGenerator
  isCoroutine := u.kind = .asyncFunction
  isFunction := u.scope.info.kind = .function
  doc := doc
  file := file

/-- Writes a unit inside of the one being written, and gives the number of its code. -/
def unit (scope : Scope) (kind : UnitKind) (name fullName : String) (owner : Option String)
    (p : ParameterList) (doc : Option String) (line : Option Int) (body : Emit Unit) : Emit Nat := do
  let parameters := p.all.map fun n => privateName owner (parameterName n)
  let shared := if kind = .cls then (if scope.info.isAskedFor then [className] else [])
    else scope.sharedNames
  let opened : CodeUnit :=
    { scope := scope, kind := kind, owner := owner, fullName := fullName, ops := #[]
      slots := slotNames scope parameters, shared := shared.toArray
      outer := scope.info.outer.toArray, blocks := [], breaks := [], misses := []
      line := (line.map Int.toNat).getD 0 }
  modify fun e => { e with units := opened :: e.units }
  body
  let u ← current
  let number := (← get).codes.size
  modify fun e => { e with
    codes := e.codes.push (finished u name p doc e.file)
    units := e.units.drop 1 }
  pure number

/-- Writes the cells that a function made here shares, and gives their number. -/
def shareCells (scope : Scope) : Emit Nat := do
  scope.info.outer.forM fun name => do op (.shareCell (← cellOf name))
  pure scope.info.outer.length

end Emit

end LiveSketch.Script

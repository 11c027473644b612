import LiveSketch.Entry.Engine
import LiveSketch.Reference.Basic
import LiveSketch.Script.Code.Basic
import LiveSketch.Script.Value.Table

/-!
# The world of a running script

All that a running script can change: its objects, what it has printed, what it has drawn. An object
has a class, members of its own, and data by its kind.
-/

namespace LiveSketch.Script

/-! ## Activations -/

/-- A block that an activation is inside of: one that goes on at a handler when a fault is raised, or
a handler, with the fault that was being handled before. -/
inductive Block where
  | guard (handler depth : Nat)
  | handler (before : Option Value)
deriving Inhabited

/-- A unit of code being carried out: where it stands, and its values and names. -/
structure Activation where
  code : Nat
  place : Nat
  stack : List Value
  blocks : List Block
  slots : Array (Option Value)
  cells : Array Nat
  /-- The names of a class body or of the script. -/
  names : Option Nat
  /-- The names of the script. -/
  globals : Nat
deriving Inhabited

/-! ## Objects -/

/-- A function of the script. -/
structure FunctionData where
  code : Nat
  defaults : List Value
  namedDefaults : List (String × Value)
  cells : List Nat
  globals : Nat
deriving Inhabited

/-- A class of the script: its bases, and the classes in which members are looked up, itself first. -/
structure ClassData where
  name : String
  fullName : String
  bases : List Value
  order : List Value
deriving Inhabited

/-- A fault as an object: its arguments, the fault it was raised from, the one that was being handled
then, and the frames it has gone through, outermost first. -/
structure FaultData where
  arguments : List Value
  cause : Option Value
  context : Option Value
  hidesContext : Bool
  frames : List (String × Nat)
deriving Inhabited

/-- How far a generator has come. -/
inductive GeneratorState where
  | waiting (a : Activation) (isFresh : Bool)
  | running
  | finished
deriving Inhabited

/-- What an object holds, by its kind. -/
inductive Data where
  | plain
  | list (items : Array Value)
  | dict (t : Table)
  /-- The members of an object as a dictionary. -/
  | members (address : Nat)
  | set (t : Table)
  | cell (v : Option Value)
  | function (f : FunctionData)
  | cls (c : ClassData)
  /-- A value of the language, as an object of a class that extends its type. -/
  | wraps (v : Value)
  | fault (f : FaultData)
  | generator (s : GeneratorState)
  /-- The parts of an object whose type knows what they mean. -/
  | parts (vs : List Value)
  | module (name : String)
  /-- The state of a source of random numbers. -/
  | words (ws : Array UInt32) (index : Nat) (spare : Option Float)
deriving Inhabited

/-- An object. -/
structure Object where
  cls : Value
  attrs : Table
  data : Data
deriving Inhabited

/-! ## The world -/

/-- All that a running script can change. -/
structure World where
  heap : Array Object
  codes : Array Code
  /-- The names of the script, once it has begun. -/
  globals : Nat
  /-- The fault that is being handled. -/
  handled : Option Value
  printed : String
  canvas : Canvas
  /-- The members that the canvas has besides its calls. -/
  canvasMembers : Table
  drawn : Array CanvasCall
  /-- How many activations are inside each other. -/
  depth : Nat
  references : References
  loaded : List String
  modules : List (String × Nat)
  /-- The objects that are just being shown. -/
  showing : List Nat
deriving Inhabited

/-- Why an action breaks off: a raised fault, or too many steps. -/
inductive Stop where
  | raised (fault : Value)
  | spent
deriving Inhabited

abbrev Action := EStateM Stop World

/-- How a generator is taken up again: with a value, or with a fault. -/
inductive Resume where
  | send (v : Value)
  | raise (fault : Value)

/-- What a generator comes to: a value on the way, or its result. -/
inductive Yielded where
  | value (v : Value)
  | result (v : Value)

/-- What actions can ask of the machine they are part of. -/
structure Host where
  /-- Calls a value. -/
  call : Value → List Value → List (String × Value) → Action Value
  /-- Takes up a generator. -/
  resume : Nat → Resume → Action Yielded
  /-- Carries out an activation. -/
  perform : Activation → Action Value
  /-- There is a function of the language of that full name. -/
  knows : String → Bool

/-- An action as part of a machine. -/
abbrev Run := ReaderT Host Action

abbrev Native := List Value → List (String × Value) → Run Value

namespace Run

def call (f : Value) (arguments : List Value) (named : List (String × Value)) : Run Value :=
  fun h => h.call f arguments named

/-- Calls a value with arguments by place. -/
def apply (f : Value) (arguments : List Value) : Run Value := call f arguments []

/-- Calls a function of the language. -/
def native (name : String) (arguments : List Value) : Run Value :=
  apply (.native name) arguments

def perform (a : Activation) : Run Value := fun h => h.perform a

def resume (address : Nat) (r : Resume) : Run Yielded := fun h => h.resume address r

/-- There is a function of the language of that full name. -/
def knows (name : String) : Run Bool := fun h => pure (h.knows name)

/-! ## Objects -/

def newObject (o : Object) : Run Value := do
  let w ← getThe World
  let address := w.heap.size
  modifyThe World fun w => { w with heap := w.heap.push o }
  pure (.ref address)

/-- A new object of a type of the language. -/
def new (type : String) (data : Data) : Run Value := newObject ⟨.type type, .empty, data⟩

def object (address : Nat) : Run Object := do return ((← getThe World).heap[address]?).getD default

def change (address : Nat) (f : Object → Object) : Run Unit :=
  modifyThe World fun w => { w with heap := w.heap.modify address f }

/-- Puts other data into an object. -/
def setData (address : Nat) (data : Data) : Run Unit := change address ({ · with data := data })

/-- The data of a value, if it is an object. -/
def dataOf (v : Value) : Run Data := do
  match v with
  | .ref a => return (← object a).data
  | _ => pure .plain

def newList (items : List Value) : Run Value := new "list" (.list items.toArray)

def newDict (t : Table) : Run Value := new "dict" (.dict t)

def listItems (address : Nat) : Run (Array Value) := do
  match (← object address).data with
  | .list items => pure items
  | _ => pure #[]

/-- The table of a dictionary or a set. -/
def tableAt (address : Nat) : Run Table := do
  match (← object address).data with
  | .dict t | .set t => pure t
  | .members owner => return (← object owner).attrs
  | _ => pure .empty

def changeMembers (address : Nat) (f : Table → Table) : Run Unit :=
  change address fun ⟨cls, attrs, data⟩ => ⟨cls, f attrs, data⟩

/-- Changes the table of a dictionary or a set. -/
def changeTable (address : Nat) (f : Table → Table) : Run Unit := do
  match (← object address).data with
  | .members owner => changeMembers owner f
  | _ => change address fun o => match o with
    | ⟨cls, attrs, .dict t⟩ => ⟨cls, attrs, .dict (f t)⟩
    | ⟨cls, attrs, .set t⟩ => ⟨cls, attrs, .set (f t)⟩
    | o => o

def changeList (address : Nat) (f : Array Value → Array Value) : Run Unit :=
  change address fun o => match o with
    | ⟨cls, attrs, .list items⟩ => ⟨cls, attrs, .list (f items)⟩
    | o => o

/-! ## Faults -/

def raiseFault {α : Type} (fault : Value) : Run α := throw (Stop.raised fault)

def newFault (type : String) (arguments : List Value) : Run Value := do
  let context := (← getThe World).handled
  new type (.fault ⟨arguments, none, context, false, []⟩)

/-- Raises a new fault of a type of the language. -/
def raiseWith {α : Type} (type : String) (arguments : List Value) : Run α := do
  raiseFault (← newFault type arguments)

/-- Raises a new fault with words. -/
def raise {α : Type} (type words : String) : Run α := raiseWith type [.text words]

/-- Raises the fault of a value that is of a wrong type. -/
def wrongType {α : Type} (words : String) : Run α := raise "TypeError" words

/-- Raises the fault of a value that is wrong. -/
def wrongValue {α : Type} (words : String) : Run α := raise "ValueError" words

def changeFault (address : Nat) (f : FaultData → FaultData) : Run Unit :=
  change address fun o => match o with
    | ⟨cls, attrs, .fault d⟩ => ⟨cls, attrs, .fault (f d)⟩
    | o => o

/-- Does something, and something else if a fault is raised. -/
def orElse {α : Type} (x : Run α) (handler : Value → Run α) : Run α :=
  tryCatchThe Stop x fun s => match s with
    | .raised fault => handler fault
    | .spent => throw .spent

end Run

end LiveSketch.Script

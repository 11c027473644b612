import LiveSketch.Script.Value.Basic
import LiveSketch.Tree.Node

/-!
# Code

What a script is turned into before it runs: for each of its functions, classes and for itself a
row of operations on a stack of values. Each operation knows the line it came from.
-/

namespace LiveSketch.Script

/-- One operation. Targets are places in the row of operations. -/
inductive Op where
  -- values and names
  | push (v : Value)
  | loadSlot (slot : Nat) (name : String)
  | storeSlot (slot : Nat)
  | dropSlot (slot : Nat) (name : String)
  | loadCell (cell : Nat) (name : String)
  | storeCell (cell : Nat)
  | dropCell (cell : Nat) (name : String)
  /-- The cell itself, for a function made here. -/
  | shareCell (cell : Nat)
  /-- A name of a class body, or else a cell. -/
  | loadNameOrCell (cell : Nat) (name : String)
  | loadGlobal (name : String)
  | storeGlobal (name : String)
  | dropGlobal (name : String)
  | loadName (name : String)
  | storeName (name : String)
  | dropName (name : String)
  | loadMember (name : String)
  | storeMember (name : String)
  | dropMember (name : String)
  | loadItem
  | storeItem
  | dropItem
  -- operators
  | unary (op : UnaryOperator)
  | binary (op : BinaryOperator)
  | update (op : BinaryOperator)
  | compare (op : Comparison)
  -- rows
  | buildTuple (count : Nat)
  | buildList (count : Nat)
  | buildSet (count : Nat)
  | buildDict (count : Nat)
  | buildSlice
  | joinTexts (count : Nat)
  | format (conversion : Int) (hasSpec : Bool)
  /-- Adds the top value to a row further down. -/
  | appendTo (depth : Nat)
  | addTo (depth : Nat)
  | putIn (depth : Nat)
  | extendList
  | extendSet
  | extendDict
  | extendNamed
  | listToTuple
  -- calls
  | call (count : Nat) (names : List String)
  | callSpread (hasNamed : Bool)
  | makeFunction (code : Nat) (hasDefaults hasNamedDefaults hasDeclared : Bool) (cells : Nat)
  | makeClass (bases : Nat) (names : List String)
  | makeClassSpread (hasNamed : Bool)
  -- iteration
  | iterate
  | next (target : Nat)
  | unpack (count : Nat)
  | unpackRest (before after : Nat)
  -- flow
  | jump (target : Nat)
  | jumpIfFalse (target : Nat)
  | jumpIfTrue (target : Nat)
  | jumpIfFalseOrPop (target : Nat)
  | jumpIfTrueOrPop (target : Nat)
  | pop
  | copy (depth : Nat)
  | swap
  /-- Moves the top value under the two below it. -/
  | sink
  | give
  | yield
  /-- Goes through another iterator's values until it is done. -/
  | delegate
  | awaitable
  -- faults
  /-- Goes on at the handler when a fault is raised, with all values but so many of the top ones. -/
  | guard (handler held : Nat)
  | unguard
  | leaveHandler
  | reraise
  | matchFault
  /-- Whether a part of a fault is of classes; that part and what is left are put under the answer. -/
  | splitFault
  /-- Whether there is something to raise after handlers, and what it is. -/
  | joinFaults
  | raise (count : Nat)
  | failAssertion (hasMessage : Bool)
  -- contexts
  | enter
  | exit
  | exitFault
  -- imports
  | importModule (name : String) (members : List String) (level : Int)
  | importMember (name : String)
  | importAll
  | importDeep (names : List String)
  -- patterns
  | matchSequence
  | matchLength (count : Nat) (isLeast : Bool)
  | matchMapping
  /-- Whether the value below so many keys has them all; if so their values are put under the
  answer, the first one on top. -/
  | matchKeys (count : Nat)
  /-- What is left of a value without so many keys. -/
  | matchRest (count : Nat)
  /-- Whether a value is of a class and has the attributes; if so these are put under the answer, the
  first one on top. -/
  | matchClass (placed : Nat) (names : List String)
  | declareTypes
  | nothing
deriving Inhabited

/-- The code of a function, of a class or of the whole script. -/
structure Code where
  name : String
  fullName : String
  posOnly : Nat
  positional : Nat
  keywordOnly : Nat
  hasRest : Bool
  hasKeywordRest : Bool
  /-- The names of the slots, parameters first. -/
  slots : Array String
  /-- The names that functions further in share. -/
  shared : Array String
  /-- The names that live further out. -/
  outer : Array String
  ops : Array (Op × Nat)
  isGenerator : Bool
  isCoroutine : Bool
  /-- The names are kept in slots, not in a table. -/
  isFunction : Bool
  doc : Option String
  file : String
deriving Inhabited

namespace Code

def parameterCount (c : Code) : Nat :=
  c.positional + c.keywordOnly + (if c.hasRest then 1 else 0) + (if c.hasKeywordRest then 1 else 0)

def lineAt (c : Code) (place : Nat) : Nat := ((c.ops[place]?).map Prod.snd).getD 0

end Code

end LiveSketch.Script

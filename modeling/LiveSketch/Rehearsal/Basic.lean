import LiveSketch.Compile.Program
import LiveSketch.Entry.Engine
import LiveSketch.Diagnostic.Basic

/-!
# Rehearsals

A rehearsal stands in for a script: it says what the body defines and raises, and what each function
does on each of its calls, without any code. It is the engine with which a host is tried out.
-/

namespace LiveSketch

namespace Rehearsal

/-- What a function does in one call: draw on the canvas, then raise. With `widthOver` it raises only
for a greater width. -/
structure Move where
  draws : List CanvasCall
  raises : Option Fault
  widthOver : Option Int
deriving Inhabited

/-- How a class hands out a member function. -/
inductive Wrap where
  | plain | free | ofClass
deriving DecidableEq, Repr, Inhabited

/-- A value that the body defines. The moves of a function belong to its calls in order, the last
one to all further calls. -/
inductive Piece where
  | value (datum : Datum)
  | function (frames : List Frame) (moves : List Move) (wrap : Wrap)
  | cls (members : List (String × Piece))
deriving Inhabited

/-- The rehearsed script. -/
structure Part where
  line : Int
  defines : List (String × Piece)
  raises : Option Fault
  frames : List Frame
deriving Inhabited

/-- One thing a rehearsal did: its body ran, or a function was called with so many arguments, of
which the whole numbers are kept. -/
inductive Entry where
  | body
  | call (name : String) (count : Nat) (numbers : List Int)
deriving DecidableEq, Repr, Inhabited

/-- The state of a rehearsal: what it did, and how often each function was called. -/
structure State where
  part : Part
  log : List Entry
  calls : List (String × Nat)
deriving Inhabited

/-- A value of a rehearsal: a piece under its dotted name, the same with a first argument filled in,
an object of a class, or nothing. -/
inductive Value where
  | piece (name : String) (piece : Piece)
  | bound (name : String) (piece : Piece)
  | object (name : String) (members : List (String × Piece))
  | nothing
deriving Inhabited

/-- The state before the body runs. -/
def start (part : Part) : State := ⟨part, [], []⟩

/-- Ends with a fault that came through these frames. -/
def raise {α : Type} (frames : List Frame) (fault : Fault) : Act State α :=
  throw (fault.through frames)

def find? (entries : List (String × Piece)) (name : String) : Option Piece :=
  (entries.find? (·.1 == name)).map Prod.snd

/-- Notes a call and gives the move that it is to make. -/
def nextMove (name : String) (count : Nat) (numbers : List Int) (moves : List Move) :
    StateM State Move := do
  let s ← get
  let k := ((s.calls.find? (·.1 == name)).map Prod.snd).getD 0
  let calls := (name, k + 1) :: s.calls.filter (·.1 != name)
  set { s with log := s.log ++ [Entry.call name count numbers], calls := calls }
  pure (moves.getD (min k (moves.length - 1)) default)

/-- The fault of asking for an argument that was not passed. -/
def noArgument : Fault := .plain "IndexError" "tuple index out of range"

/-- The fault of asking for what a live fault answers: a rehearsal raises none. -/
def noFault : Fault := .plain "LookupError" "no such fault"

/-- What a call does after its move is known. The canvas is the third argument from the end and the
width the second, so with fewer arguments a move that needs them fails. -/
def perform (frames : List Frame) (move : Move) (count : Nat) (width : Option Int)
    (accepts : CanvasCall → Except Fault Unit) : List CanvasCall × Except Fault Unit :=
  let fail (fault : Fault) : Except Fault Unit := .error (fault.through frames)
  if !move.draws.isEmpty && count < 3 then ([], fail noArgument)
  else
    let drawn := move.draws.takeWhile fun c => (accepts c).isOk
    match (move.draws.drop drawn.length).head? with
    | some refused => match accepts refused with
      | .error fault => (drawn, fail fault)
      | .ok () => (drawn, .ok ())
    | none => match move.raises, move.widthOver with
      | none, _ => (drawn, .ok ())
      | some fault, none => (drawn, fail fault)
      | some fault, some limit => match width with
        | none => (drawn, fail noArgument)
        | some w => (drawn, if limit < w then fail fault else .ok ())

/-- Calls a function without canvas and sizes, with `count` arguments in all. -/
def callBare (name : String) (frames : List Frame) (moves : List Move) (count : Nat) :
    Act State Unit := do
  let move ← nextMove name count [] moves
  ExceptT.mk (pure (perform frames move count none fun _ => .ok ()).2)

/-- The fault of calling what cannot be called. -/
def notCallable (type : String) : Fault :=
  .plain "TypeError" ("'" ++ type ++ "' object is not callable")

/-- The number of arguments that a class puts in front for a member function, reached through an
instance or through the class itself. -/
def Wrap.filledIn (viaInstance : Bool) : Wrap → Nat
  | .plain => if viaInstance then 1 else 0
  | .free => 0
  | .ofClass => 1

def memberValue (viaInstance : Bool) (owner name : String) (piece : Piece) : Value :=
  let full := owner ++ "." ++ name
  match piece with
  | .function _ _ wrap => if wrap.filledIn viaInstance == 1 then .bound full piece else .piece full piece
  | _ => .piece full piece

/-- The body notes that it ran, then raises what it raises. -/
def runBody : Act State Unit := do
  let s ← get
  set { s with log := s.log ++ [Entry.body] }
  match s.part.raises with
  | some fault => raise (⟨unitFile, s.part.line⟩ :: s.part.frames) fault
  | none => pure ()

/-- Calls a value without arguments. -/
def construct : Value → Act State Value
  | .piece name (.cls members) => do
    match find? members "__init__" with
    | some (.function frames moves wrap) =>
      callBare (name ++ ".__init__") frames moves (wrap.filledIn true)
    | some (.value datum) => throw (notCallable datum.typeName)
    | _ => pure ()
    pure (.object name members)
  | .piece name (.function frames moves _) => do
    callBare name frames moves 0
    pure .nothing
  | .bound name (.function frames moves _) => do
    callBare name frames moves 1
    pure .nothing
  | .piece _ (.value datum) => throw (notCallable datum.typeName)
  | .object name _ => throw (notCallable name)
  | _ => throw (notCallable "NoneType")

def member? (v : Value) (name : String) : Option Value :=
  match v with
  | .piece owner (.cls members) => (find? members name).map (memberValue false owner name)
  | .object owner members => (find? members name).map (memberValue true owner name)
  | _ => none

def isCallable : Value → Bool
  | .piece _ (.value _) | .nothing => false
  | .object _ members => (find? members "__call__").isSome
  | _ => true

def call (accepts : Canvas → CanvasCall → Except Fault Unit) (v : Value) (canvas : Canvas)
    (width height : Int) : StateM State (List CanvasCall × Except Fault Unit) := do
  let act (name : String) (frames : List Frame) (moves : List Move) (count : Nat) := do
    let move ← nextMove name count [width, height] moves
    pure (perform frames move count (some width) (accepts canvas))
  match v with
  | .piece name (.function frames moves _) => act name frames moves 3
  | .bound name (.function frames moves _) => act name frames moves 4
  | .piece name (.cls members) => match find? members "__init__" with
    | some (.function frames moves wrap) =>
      act (name ++ ".__init__") frames moves (3 + wrap.filledIn true)
    | some (.value datum) => pure ([], .error (notCallable datum.typeName))
    | _ => pure ([], .error (.plain "TypeError" (name ++ "() takes no arguments")))
  | .piece _ (.value datum) => pure ([], .error (notCallable datum.typeName))
  | .object name _ => pure ([], .error (notCallable name))
  | _ => pure ([], .error (notCallable "NoneType"))

end Rehearsal

/-- The engine of rehearsals, on canvases that answer calls by `accepts`. -/
def rehearsalEngine (accepts : Canvas → CanvasCall → Except Fault Unit) :
    Engine Rehearsal.State Rehearsal.Value where
  runBody := Rehearsal.runBody
  global? name := do
    let s ← get
    pure ((Rehearsal.find? s.part.defines name).map (Rehearsal.Value.piece name))
  member? v name := pure (Rehearsal.member? v name)
  construct := Rehearsal.construct
  isCallable v := pure (Rehearsal.isCallable v)
  call := Rehearsal.call accepts
  inquire _ _ := throw Rehearsal.noFault

end LiveSketch

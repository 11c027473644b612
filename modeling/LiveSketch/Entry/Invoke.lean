import LiveSketch.Entry.Engine
import LiveSketch.Entry.Shape

/-!
# Guarded drawing

An artifact is a compiled script with what its draws have found out so far. The first draw binds:
it runs the body and, for a function of an instance, constructs the class. The outcome is kept and
every later draw starts from it. Ordinary faults and requests to exit become one diagnostic; any
other fault goes through the host and leaves the artifact without a target.
-/

namespace LiveSketch

variable {σ ν : Type}

/-- What binding an entry point came to. `lost` is a fault that went through the host. -/
inductive Binding (ν : Type) where
  | unbound
  | bound (target : ν)
  | failed (fault : Fault)
  | lost
deriving Inhabited

/-- What looking for an entry point came to. -/
inductive Resolution where
  | unresolved
  | found (entry : EntryPoint)
  | missing
deriving DecidableEq, Repr, Inhabited

namespace Resolution

def entry? : Resolution → Option EntryPoint
  | found entry => some entry
  | _ => none

def isResolved : Resolution → Bool
  | unresolved => false
  | _ => true

/-- Makes the search unless it has been made. -/
def settle (tree : Node) : Resolution → Resolution
  | unresolved => match entryPoint? tree with
    | some entry => found entry
    | none => missing
  | settled => settled

end Resolution

/-- A compiled script: its tree, what its draws have found out, and the state of its engine. -/
structure Artifact (σ ν : Type) where
  tree : Node
  resolution : Resolution
  binding : Binding ν
  state : σ

/-- What a draw came to: the calls on its canvas, and either diagnostics or a fault that went
through the host. -/
structure DrawOutcome where
  calls : List CanvasCall
  answer : Except Fault (List Diagnostic)

/-! ## Binding -/

/-- Raises the fault of calling a value that cannot be called. -/
def notCallable (name : String) : Fault := .plain "TypeError" ("'" ++ name ++ "' is not callable")

/-- Runs the body and finds the value to call. -/
def createTarget (engine : Engine σ ν) (entry : EntryPoint) : Act σ ν := do
  engine.runBody
  let found ← if entry.inOwner then do
      match ← engine.global? ownerName with
      | none => throw (.plain "AttributeError"
          ("module 'drawing' has no attribute '" ++ ownerName ++ "'"))
      | some owner =>
        if entry.isStatic then engine.member? owner entryName
        else engine.member? (← engine.construct owner) entryName
    else engine.global? entryName
  match found with
  | none => throw (notCallable entry.qualifiedName)
  | some target =>
    if ← engine.isCallable target then pure target else throw (notCallable entry.qualifiedName)

/-- Binds once: a fault that the host stops is kept, one that it does not stop goes on. -/
def Binding.settle (engine : Engine σ ν) (entry : EntryPoint) :
    Binding ν → StateM σ (Binding ν × Except Fault Unit)
  | .unbound => do
    match ← (createTarget engine entry).run with
    | .ok target => pure (.bound target, .ok ())
    | .error fault =>
      if fault.isStopped then pure (.failed fault, .ok ()) else pure (.lost, .error fault)
  | settled => pure (settled, .ok ())

/-- Raises again a fault of binding that was kept: in a wrapper with its words, unless asking for them
fails. -/
def replay (engine : Engine σ ν) (fault : Fault) : Act σ Unit := do
  throw (.wrapping (← engine.ask fault .words) fault)

/-! ## Reporting -/

/-- What a fault stands for: a wrapper for its cause, any other fault for itself. -/
def Fault.unwrap (engine : Engine σ ν) : Fault → Act σ Fault
  | .mk name reach isWrapper words (some cause) frames => do
    let fault : Fault := .mk name reach isWrapper words (some cause) frames
    if ← engine.ask fault .isWrapper then cause.unwrap engine else pure fault
  | .live name reach (some cause) handle => do
    let fault : Fault := .live name reach (some cause) handle
    if ← engine.ask fault .isWrapper then cause.unwrap engine else pure fault
  | fault => do
    discard (engine.ask fault .isWrapper)
    pure fault

/-- The line of the innermost frame in the script's own code, if there is one. -/
def scriptLine? (frames : List Frame) : Option Int :=
  (frames.reverse.find? (·.file == unitFile)).map Frame.line

/-- The one diagnostic of a fault: its words, or its class when they count as none, at the innermost
line of the script or else at `line`. -/
def Fault.report (engine : Engine σ ν) (fault : Fault) (line : Int) : Act σ Diagnostic := do
  let frames ← engine.ask fault .frames
  let words ← engine.ask fault .words
  let label ← if ← engine.ask fault (.counts words) then pure words
    else engine.ask fault .className
  pure (.fault label ((scriptLine? frames).getD line))

/-- What a raised fault becomes: a report of what it stands for, or itself when it goes on. The host
also asks for a line of its log. A fault raised by any answer goes on as well. -/
def handled (engine : Engine σ ν) (entry : EntryPoint) (fault : Fault) : Act σ (List Diagnostic) :=
  if fault.isStopped then do
    let inner ← fault.unwrap engine
    discard (engine.ask inner .className)
    discard (engine.ask inner .line)
    pure [← inner.report engine entry.line]
  else throw fault

/-! ## Drawing -/

def callBound (engine : Engine σ ν) (canvas : Canvas) (width height : Int) :
    Binding ν → StateM σ (List CanvasCall × Except Fault Unit)
  | .bound target => engine.call target canvas width height
  | .failed fault => do pure ([], ← (replay engine fault).run)
  | .unbound | .lost =>
    pure ([], .error (.plain "TypeError" "'NoneType' object is not callable"))

/-- The answer of a draw whose script ended so. -/
def answerOf (engine : Engine σ ν) (entry : EntryPoint) :
    Except Fault Unit → StateM σ (Except Fault (List Diagnostic))
  | .ok () => pure (.ok [])
  | .error fault => (handled engine entry fault).run

/-- Binds where that is still to be done, then calls the target. -/
def invoke (engine : Engine σ ν) (entry : EntryPoint) (binding : Binding ν) (canvas : Canvas)
    (width height : Int) : StateM σ (Binding ν × DrawOutcome) := do
  let (binding, bindingEnd) ← binding.settle engine entry
  let (calls, ended) ← match bindingEnd with
    | .error fault => pure ([], .error fault)
    | .ok () => callBound engine canvas width height binding
  pure (binding, ⟨calls, ← answerOf engine entry ended⟩)

/-- A fault that went through a draw, as a log line tells it: asked for its frames, if the host stops
it there, and for how it reads. -/
def Fault.settled (engine : Engine σ ν) : Fault → StateM σ Fault
  | .live name reach _ handle => do
    let words ← (do
      if reach = .ordinary then discard (engine.inquire handle .frames)
      engine.inquire handle .line : Act σ String).run
    pure (.mk name reach false words none [])
  | known => pure known

namespace Artifact

/-- Draws once: the artifact after it, and what came of it. -/
def draw (engine : Engine σ ν) (a : Artifact σ ν) (canvas : Canvas) (width height : Int) :
    Artifact σ ν × DrawOutcome :=
  let resolution := a.resolution.settle a.tree
  match resolution.entry? with
  | none => ({ a with resolution := resolution }, ⟨[], .ok [entryMissing]⟩)
  | some entry =>
    let ((binding, outcome), state) :=
      (invoke engine entry a.binding canvas width height).run a.state
    ({ a with resolution := resolution, binding := binding, state := state }, outcome)

end Artifact

end LiveSketch

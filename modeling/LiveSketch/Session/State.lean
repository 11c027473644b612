import LiveSketch.Compile.Flow

/-!
# The state of an edit session

A session follows one document: its edits, the compiles they lead to and the pictures drawn. All that
happens between two waits is one turn; turns that can go on stand in a queue, jobs for the one worker
in another, and both are served in order. The session keeps a transcript of all it announced.
-/

namespace LiveSketch

variable {σ ν : Type}

/-- What the session is up to. -/
inductive Mode where
  | ready | working | error
deriving DecidableEq, Repr, Inhabited

namespace Mode

def name : Mode → String
  | ready => "Ready"
  | working => "Working"
  | error => "Error"

/-- What a status line says in a mode. -/
def statusText : Mode → String
  | ready => "Ready."
  | working => "Compiling drawing code..."
  | error => "Some errors were found."

end Mode

/-- How a session makes surfaces: sheets, of which one width may be unavailable, or pixels. -/
inductive SurfacePlan where
  | sheets (unavailable : Option Int)
  | pixels (mode : ColorMode)
deriving DecidableEq, Repr, Inhabited

/-- A surface of a size, or the fault of making it. -/
def SurfacePlan.make (plan : SurfacePlan) (width height : Int) : Except Fault Canvas :=
  match plan with
  | sheets unavailable =>
    if unavailable = some width then
      .error (.plain "ValueError" ("no surface of width " ++ toString width))
    else .ok .sheet
  | pixels mode =>
    if width < 0 ∨ height < 0 then .error (.plain "ValueError" "Width and height must be >= 0")
    else .ok (.pixels mode width height)

/-- A submitted text. Requests are known by the order in which they were made. -/
structure Request where
  source : Source
  cancelled : Bool
deriving DecidableEq, Repr, Inhabited

/-- The result of the request that the session shows. -/
structure Result where
  request : Nat
  source : Source
  diagnostics : List Diagnostic
deriving DecidableEq, Repr, Inhabited

def Result.hasErrors (r : Result) : Bool := r.diagnostics.any Diagnostic.isError

/-- An edit that waits for the text to rest. -/
structure Timer where
  serial : Nat
  deadline : Int
  text : String
deriving DecidableEq, Repr, Inhabited

/-- Who waits for a picture: the compile that leads to it, or a caller's request. -/
inductive Origin where
  | run (request : Nat)
  | command (id : Nat)
deriving DecidableEq, Repr, Inhabited

/-- A picture being made: for whom, under which request, beside which result, of which artifact. -/
structure Rendering where
  origin : Origin
  request : Option Nat
  result : Result
  artifact : Nat
deriving DecidableEq, Repr, Inhabited

/-- Work for the one worker. -/
inductive Job where
  | compile (request : Nat)
  | draw (rendering : Rendering) (width height : Int)
deriving DecidableEq, Repr, Inhabited

/-- A finished picture: its surface, the calls made on it, and the messages of the draw. -/
structure Picture where
  width : Int
  height : Int
  canvas : Canvas
  calls : List CanvasCall
  messages : List Diagnostic
deriving Inhabited

/-- What a session is given for its lifetime: the language, the engine of its scripts and what they
share, what they may import, how long the text has to rest before it is compiled, and the fault, if
any, that presenting a picture raises. -/
structure Workshop (σ ν : Type) where
  programOf : Source → Program σ
  engine : Engine σ ν
  /-- The state of a script that is to draw, with all that scripts share as the last draw left it, or
  as it was before any draw. -/
  enter : Option σ → σ → σ
  references : References
  loaded : Loaded
  delay : Int
  presenting : Picture → Option Fault

/-- What a caller can ask for: the picture again, another size, or to wait until all is done. -/
inductive Command where
  | render
  | resize (width height : Int)
  | flush
deriving DecidableEq, Repr, Inhabited

/-- A stretch of a task that can go on. A finished job or an expired wait is noticed in one turn and
acted on in a `later` one, so turns that are lined up in between come first. -/
inductive Turn (σ ν : Type) where
  | begin (request : Nat)
  | adopt (request : Nat) (outcome : Except Halt (Compiled σ ν))
  | present (rendering : Rendering) (outcome : Except Fault Picture)
  | wake (serial : Nat)
  | command (id : Nat) (command : Command)
  | recheck (id : Nat)
  | later (next : Turn σ ν)

/-- What the session announces. -/
inductive Notice where
  | mode (mode : Mode)
  | diagnostics (ds : List Diagnostic) (source : Source)
  | picture (picture : Picture)
  | failure (line : String)
  | ended (id : Nat) (outcome : Except Fault Unit)

/-- The state of a session. -/
structure Session (σ ν : Type) where
  mode : Mode
  diagnostics : List Diagnostic
  result : Option Result
  /-- The request whose artifact is shown. -/
  artifact : Option Nat
  artifacts : List (Nat × Artifact σ ν)
  /-- The state in which the last draw left the engine. -/
  shared : Option σ
  width : Int
  height : Int
  surface : Option SurfacePlan
  requests : List Request
  lastText : Option String
  timer : Option Timer
  timerCount : Nat
  now : Int
  jobs : List Job
  ready : List (Turn σ ν)
  /-- The requests whose task has not ended. -/
  running : List Nat
  /-- The callers who wait until all is done. -/
  waiting : List Nat
  closed : Bool
  transcript : List Notice

namespace Session

def new (surface : Option SurfacePlan) (width height now : Int) : Session σ ν :=
  { mode := .ready, diagnostics := [], result := none, artifact := none, artifacts := []
    shared := none, width := width, height := height, surface := surface, requests := []
    lastText := none, timer := none, timerCount := 0, now := now, jobs := [], ready := [], running := []
    waiting := [], closed := false, transcript := [] }

def current? (s : Session σ ν) : Option Nat :=
  if s.requests.isEmpty then none else some (s.requests.length - 1)

def shown? (s : Session σ ν) : Option Nat := s.result.map Result.request

/-- The request was superseded or its session closed. -/
def isCancelled (s : Session σ ν) (request : Nat) : Bool :=
  (s.requests[request]?.map Request.cancelled).getD true

/-- The artifact of a request, as the draws so far left it. -/
def artifactOf? (s : Session σ ν) (request : Nat) : Option (Artifact σ ν) :=
  (s.artifacts.find? (·.1 == request)).map Prod.snd

/-- No edit waits and no compile is under way. -/
def isIdle (s : Session σ ν) : Bool := s.timer.isNone && s.running.isEmpty

end Session

end LiveSketch

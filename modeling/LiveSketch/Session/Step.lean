import LiveSketch.Session.State

/-!
# The steps of an edit session

Edits wait until the text has rested; a text equal to the last one submitted is dropped; a new
request cancels the one before it, and what a cancelled request still brings is thrown away. Each
function below is one step that nothing interrupts.
-/

namespace LiveSketch

variable {σ ν : Type}

namespace Session

/-! ## Small changes -/

def announce (s : Session σ ν) (n : Notice) : Session σ ν :=
  { s with transcript := s.transcript ++ [n] }

def lineUp (s : Session σ ν) (t : Turn σ ν) : Session σ ν := { s with ready := s.ready ++ [t] }

/-- Gives the worker a job. -/
def hire (s : Session σ ν) (j : Job) : Session σ ν := { s with jobs := s.jobs ++ [j] }

/-- Changes the mode and says so. -/
def setMode (s : Session σ ν) (m : Mode) : Session σ ν := { s with mode := m }.announce (.mode m)

/-- Changes the diagnostics and says so. -/
def publish (s : Session σ ν) (ds : List Diagnostic) (source : Source) : Session σ ν :=
  { s with diagnostics := ds }.announce (.diagnostics ds source)

def cancelCurrent (s : Session σ ν) : Session σ ν :=
  match s.current? with
  | none => s
  | some k => { s with requests := s.requests.modify k fun r => { r with cancelled := true } }

def store (s : Session σ ν) (request : Nat) (a : Artifact σ ν) : Session σ ν :=
  { s with artifacts := (request, a) :: s.artifacts.filter (·.1 != request) }

/-- Lines up a turn that takes two rounds. -/
def lineUpLater (s : Session σ ν) (t : Turn σ ν) : Session σ ν := s.lineUp (.later t)

/-- Has the callers look again who wait until all is done, if it seems so. -/
def release (s : Session σ ν) : Session σ ν :=
  if s.isIdle then
    { s with ready := s.ready ++ s.waiting.map fun id => .later (.recheck id), waiting := [] }
  else s

/-- A caller finds all done, or waits. -/
def recheck (s : Session σ ν) (id : Nat) : Session σ ν :=
  if s.isIdle then s.announce (.ended id (.ok ())) else { s with waiting := s.waiting ++ [id] }

/-- Ends what waited for a picture. -/
def finish (s : Session σ ν) (origin : Origin) (outcome : Except Fault Unit) : Session σ ν :=
  match origin with
  | .run request => { s with running := s.running.filter (· != request) }.release
  | .command id => s.announce (.ended id outcome)

/-! ## Submitting -/

/-- Submits a text: the session works on it unless it is closed or the text is the last one
submitted. -/
def submit (s : Session σ ν) (text : String) : Session σ ν :=
  if s.closed || s.lastText = some text then s
  else
    let request := s.requests.length
    let s := s.cancelCurrent
    let s := { s with
      requests := s.requests ++ [Request.mk (.ofString text) false]
      lastText := some text
      running := s.running ++ [request] }
    (s.setMode .working).lineUp (.begin request)

/-- Submitting this text makes a request. -/
def accepts (s : Session σ ν) (text : String) : Bool := !(s.closed || s.lastText = some text)

/-- An edit: its text waits, in place of one that waits already. -/
def edit (w : Workshop σ ν) (s : Session σ ν) (text : String) : Session σ ν :=
  if s.closed then s
  else
    let timer : Timer := ⟨s.timerCount, s.now + max w.delay 0, text⟩
    let s := { s with timer := some timer, timerCount := s.timerCount + 1 }
    if w.delay ≤ 0 then s.lineUpLater (.wake timer.serial) else s

/-- Time goes on; an edit whose text comes to have rested wakes. -/
def advance (s : Session σ ν) (span : Int) : Session σ ν :=
  let later := { s with now := s.now + span }
  match s.timer with
  | some timer =>
    if s.now < timer.deadline ∧ timer.deadline ≤ later.now then later.lineUpLater (.wake timer.serial)
    else later
  | none => later

/-- Closes the session: nothing waits any more, and the newest request is cancelled. -/
def close (s : Session σ ν) : Session σ ν :=
  ({ s with closed := true, timer := none }.cancelCurrent).release

/-! ## Pictures -/

/-- What is noted when a picture could not be made, for a fault with these words. -/
def failureLine (fault : Fault) (words : String) : String :=
  "Failed to render drawing: <class '" ++ fault.name ++ "'> " ++ (words.splitOn "\n").headD ""

/-- Has the shown artifact drawn, if there is one and a way to make surfaces. -/
def startRender (s : Session σ ν) (origin : Origin) (request : Option Nat) (result : Result) :
    Session σ ν :=
  match s.artifact, s.surface with
  | some artifact, some _ =>
    if s.closed then
      let words := "cannot schedule new futures after shutdown"
      (s.announce (.failure (failureLine (.plain "RuntimeError" words) words))).finish origin (.ok ())
    else s.hire (.draw ⟨origin, request, result, artifact⟩ s.width s.height)
  | _, _ => s.finish origin (.ok ())

/-- Draws the shown artifact again, unless a newer request is under way and will draw. -/
def render (s : Session σ ν) (origin : Origin) : Session σ ν :=
  match s.result with
  | none => s.finish origin (.ok ())
  | some result =>
    if s.current? = s.shown? then s.startRender origin s.current? result
    else s.finish origin (.ok ())

/-- Starts what a caller asked for. -/
def startCommand (s : Session σ ν) (id : Nat) : Command → Session σ ν
  | .render => s.render (.command id)
  | .resize width height =>
    if width ≤ 0 ∨ height ≤ 0 then
      s.announce (.ended id (.error (.plain "ValueError"
        ("Invalid drawing size " ++ toString width ++ "x" ++ toString height))))
    else { s with width := width, height := height }.render (.command id)
  | .flush => s.recheck id

/-- Shows a finished picture unless its request was superseded. Messages of an artifact older than
the result lose their lines. -/
def present (w : Workshop σ ν) (s : Session σ ν) (r : Rendering) :
    Except Fault Picture → Session σ ν
  | .error fault =>
    if fault.reach = .ordinary then match fault.words with
      | .ok words => (s.announce (.failure (failureLine fault words))).finish r.origin (.ok ())
      | .error other => s.finish r.origin (.error other)
    else s.finish r.origin (.error fault)
  | .ok picture =>
    if r.request.any s.isCancelled then s.finish r.origin (.ok ())
    else
      let messages := if r.artifact = r.result.request then picture.messages
        else picture.messages.map fun d => { d with line := 0 }
      let ds := sortDiagnostics (r.result.diagnostics ++ messages)
      let s := if ds = s.diagnostics then s else s.publish ds r.result.source
      let s := s.announce (.picture picture)
      s.finish r.origin (match w.presenting picture with
        | some fault => .error fault
        | none => .ok ())

/-! ## Compiles -/

/-- Starts the compile of a request, unless it was superseded meanwhile. -/
def begin (s : Session σ ν) (request : Nat) : Session σ ν :=
  if s.isCancelled request || s.closed then s.finish (.run request) (.ok ())
  else s.hire (.compile request)

/-- Takes over the result of a compile, unless the request was superseded meanwhile. -/
def adopt (s : Session σ ν) (request : Nat) : Except Halt (Compiled σ ν) → Session σ ν
  | .error _ => s.finish (.run request) (.ok ())
  | .ok compiled =>
    if s.isCancelled request then s.finish (.run request) (.ok ())
    else
      let result : Result := ⟨request, compiled.source, compiled.diagnostics⟩
      let s := { s with result := some result }
      let s := match compiled.artifact with
        | some a => { s.store request a with artifact := some request }
        | none => s
      let s := s.publish compiled.diagnostics compiled.source
      let s := s.setMode (if result.hasErrors then .error else .ready)
      s.startRender (.run request) (some request) result

/-! ## Turns -/

def take (w : Workshop σ ν) (s : Session σ ν) : Turn σ ν → Session σ ν
  | .begin request => s.begin request
  | .adopt request outcome => s.adopt request outcome
  | .present rendering outcome => s.present w rendering outcome
  | .wake serial => match s.timer with
    | some timer =>
      if timer.serial = serial then ({ s with timer := none }.submit timer.text).release else s
    | none => s
  | .command id command => s.startCommand id command
  | .recheck id => s.recheck id
  | .later next => s.lineUp next

/-- Takes the first turn that is ready. -/
def turn (w : Workshop σ ν) (s : Session σ ν) : Session σ ν :=
  match s.ready with
  | [] => s
  | t :: rest => { s with ready := rest }.take w t

/-! ## Jobs -/

/-- The places in a job at which another text may be submitted. -/
inductive Moment where
  | parse | emit | draw
deriving DecidableEq, Repr, Inhabited

/-- What a job was. -/
inductive Done where
  | compile | draw
deriving DecidableEq, Repr, Inhabited

/-- The job comes to this place. A compile that finds itself cancelled at once comes to none. -/
def reaches (w : Workshop σ ν) (s : Session σ ν) (job : Job) (moment : Moment) : Bool :=
  match job, moment with
  | .compile request, .parse => !s.isCancelled request
  | .compile request, .emit =>
    !s.isCancelled request && match s.requests[request]? with
      | some r => reachesEmit r.source (w.programOf r.source) w.references w.loaded
      | none => false
  | .draw _ _ _, .draw => true
  | _, _ => false

/-- The checkpoint of a compile that first finds a cancellation made at this place. -/
def checkpointAfter : Moment → Nat
  | .parse => 2
  | .emit | .draw => 4

/-- Compiles the text of a request; a cancellation during the job is found from its place on. -/
def runCompile (w : Workshop σ ν) (before after : Session σ ν) (request : Nat)
    (moment : Option Moment) : Except Halt (Compiled σ ν) :=
  let source := (after.requests[request]?.map Request.source).getD ⟨[]⟩
  let cancelAt := if before.isCancelled request then some 1
    else if after.isCancelled request then moment.map checkpointAfter
    else none
  ((compile source (w.programOf source) w.references w.loaded).runFrom cancelAt).1

/-- Has an artifact draw, with all that scripts share as the last draw left it. -/
def drawShared (w : Workshop σ ν) (shared : Option σ) (a : Artifact σ ν) (canvas : Canvas)
    (width height : Int) : Artifact σ ν × DrawOutcome :=
  let a := { a with state := w.enter shared a.state }
  let (a, outcome) := a.draw w.engine canvas width height
  match outcome.answer with
  | .ok _ => (a, outcome)
  | .error fault =>
    let (fault, state) := (fault.settled w.engine).run a.state
    ({ a with state := state }, ⟨outcome.calls, .error fault⟩)

/-- Draws an artifact on a new surface; the artifact is kept as the draw leaves it. -/
def runDraw (w : Workshop σ ν) (s : Session σ ν) (r : Rendering) (width height : Int) :
    Session σ ν × Except Fault Picture :=
  match s.surface, s.artifactOf? r.artifact with
  | some plan, some artifact => match plan.make width height with
    | .error fault => (s, .error fault)
    | .ok canvas =>
      let (artifact, outcome) := drawShared w s.shared artifact canvas width height
      ({ s.store r.artifact artifact with shared := some artifact.state },
        outcome.answer.map fun messages => ⟨width, height, canvas, outcome.calls, messages⟩)
  | _, _ => (s, .error (.plain "TypeError" "'NoneType' object is not callable"))

/-- Does a job and lines up the turn that waits for it. At one place of it another text may be
submitted. -/
def perform (w : Workshop σ ν) (s : Session σ ν) (job : Job) (aside : Option (Moment × String)) :
    Session σ ν :=
  let aside := aside.filter fun a => s.reaches w job a.1
  let after := match aside with
    | some (_, text) => s.submit text
    | none => s
  match job with
  | .compile request =>
    after.lineUpLater (.adopt request (runCompile w s after request (aside.map Prod.fst)))
  | .draw r width height =>
    let (after, outcome) := after.runDraw w r width height
    after.lineUpLater (.present r outcome)

/-- The worker does its next job. -/
def work (w : Workshop σ ν) (s : Session σ ν) (aside : Option (Moment × String)) : Session σ ν :=
  match s.jobs with
  | [] => s
  | job :: rest => { s with jobs := rest }.perform w job aside

/-- What the worker's next job is. -/
def nextDone? (s : Session σ ν) : Option Done :=
  s.jobs.head?.map fun
    | .compile _ => .compile
    | .draw _ _ _ => .draw

end Session

end LiveSketch

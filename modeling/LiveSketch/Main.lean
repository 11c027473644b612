import LiveSketch.CommandLine.Options
import LiveSketch.Preview.Image
import LiveSketch.Rehearsal.Stage
import LiveSketch.Studio.Command
import LiveSketch.Wire.Envelope

/-!
# The program

Reads the command line and serves an editor over the standard streams. What is answered to what the
editor asks for is decided by the studio; here messages are read, passed on and written.
-/

namespace LiveSketch.Serve

/-- The commands that an editor can give. -/
def commandNames : List String :=
  ["fiddle.setDrawingSize", "fiddle.setColorMode", "fiddle.render", "fiddle.listReferences",
    "fiddle.starterSource"]

def planOf (s : CommandLine.Settings) : StudioPlan Stage.Player Stage.Piece :=
  let references := studioReferences s.allow Script.installed
  { programOf := fun _ => Stage.programOf [] references Stage.defaultLoaded.modules
    engine := Stage.engine Canvas.accepts
    enter := Stage.enter
    references := references
    loaded := fun _ => Stage.defaultLoaded
    delay := s.delay
    width := s.width
    height := s.height
    colorMode := s.colorMode.name
    previewsBlocked := false }

/-- What is being served. -/
structure Service where
  plan : StudioPlan Stage.Player Stage.Piece
  studio : Studio Stage.Player Stage.Piece
  previews : FilePath
  /-- The time up to which the studio has come, in milliseconds. -/
  clock : Nat
  /-- The editor asked to shut down. -/
  ending : Bool

def Service.picture? (s : Service) (address : String) : Option Picture :=
  (s.studio.shownDocument? address).bind fun d => d.session.transcript.reverse.findSome? fun
    | .picture p => some p
    | _ => none

/-- What a command without a document answers. -/
def outcomeOf? (plan : StudioPlan Stage.Player Stage.Piece) : String → Option Datum
  | "fiddle.listReferences" => some (.list (plan.references.names.map .text))
  | "fiddle.starterSource" => some (.text starterText)
  | _ => none

/-- Does what an editor asks for: the service after it, and the answers. -/
def Service.handle (s : Service) : Wire.Incoming → Service × List Datum
  | .hello mark => (s, [Wire.answer mark (Wire.abilities commandNames)])
  | .ready => ({ s with studio := s.studio.greet s.plan }, [])
  | .edited address text => match s.studio.edit s.plan address text with
    | .ok studio => ({ s with studio := studio }, [])
    | .error _ => (s, [])
  | .closed address => ({ s with studio := s.studio.close s.plan address }, [])
  | .command mark name arguments => match outcomeOf? s.plan name with
    | some outcome => (s, [Wire.answer mark outcome])
    | none =>
      if commandNames.contains name then
        -- the arguments stand in one list
        let arguments := match arguments with
          | [.list items] => items
          | items => items
        ({ s with studio := s.studio.command s.plan name arguments }, [Wire.answer mark .none])
      else (s, [Wire.failure mark (-32601) ("Command '" ++ name ++ "' is not defined")])
  | .shutdown mark =>
    ({ s with studio := s.studio.closeAll s.plan, ending := true }, [Wire.answer mark .none])
  | .exit => ({ s with ending := true }, [])
  | .unknown none => (s, [])
  | .unknown (some mark) => (s, [Wire.failure mark (-32601) "Method Not Found"])

/-! ## Streams -/

partial def readBytes (input : IO.FS.Stream) (count : Nat) (sofar : ByteArray) : IO ByteArray := do
  if count ≤ sofar.size then return sofar
  let more ← input.read (count - sofar.size).toUSize
  if more.isEmpty then return sofar
  readBytes input count (sofar ++ more)

/-- Reads the lines in front of a message, and the length that one of them says. -/
partial def readLength (input : IO.FS.Stream) (length : Option Nat) : IO (Option Nat) := do
  let line ← input.getLine
  if line.isEmpty then return none
  if line == "\r\n" || line == "\n" then return length
  readLength input (Wire.lengthIn? line <|> length)

/-- Reads a message; there is none at the end of the input. -/
def readMessage (input : IO.FS.Stream) : IO (Option Wire.Incoming) := do
  match ← readLength input none with
  | none => return none
  | some length =>
    let bytes ← readBytes input length .empty
    return some (match (String.fromUTF8? bytes).bind Wire.readAll with
      | some d => .ofDatum d
      | none => .unknown none)

def send (output : IO.FS.Stream) (messages : List Datum) : IO Unit := do
  for d in messages do
    output.putStr (Wire.framed d)
  output.flush

/-! ## Serving -/

/-- Writes the picture that a message announces. -/
def store (s : Service) : Message → IO Unit
  | .preview address name _ _ _ => do
    match (s.picture? address).bind fun p => Image.rasterOf? p.canvas p.calls with
    | some raster =>
      IO.FS.createDirAll s.previews.text
      IO.FS.writeBinFile (s.previews.child name).text (ByteArray.mk (Image.bytesOf raster).toArray)
    | none => pure ()
  | _ => pure ()

/-- Lets time go on, has the studio do its work, and sends what it tells. -/
def settle (output : IO.FS.Stream) (s : Service) : IO Service := do
  let now ← IO.monoMsNow
  let studio := (s.studio.advance s.plan (now - s.clock : Nat)).settle s.plan
  let s := { s with studio := studio, clock := now }
  for m in studio.messages do
    store s m
    send output (Wire.outgoing s.previews m)
  return { s with studio := { studio with messages := [] } }

/-- Serves until the editor leaves. -/
partial def serve (input output : IO.FS.Stream) (s : Service)
    (waiting : Task (Except IO.Error (Option Wire.Incoming))) : IO Unit := do
  if ← IO.hasFinished waiting then
    match waiting.get with
    | .error _ | .ok none => return
    | .ok (some .exit) => return
    | .ok (some message) =>
      let (s, answers) := s.handle message
      send output answers
      let s ← settle output s
      serve input output s (← IO.asTask (readMessage input))
  else
    IO.sleep 10
    serve input output (← settle output s) waiting

def usage : String :=
  let one (f : CommandLine.Flag) : String :=
    let name := f.names.headD ""
    match f.arity with
    | .zero => "[" ++ name ++ "]"
    | .one => "[" ++ name ++ " VALUE]"
    | .many => "[" ++ name ++ " [VALUE ...]]"
  "usage: fiddle-server " ++ String.intercalate " " (CommandLine.Flag.all.map one)

end LiveSketch.Serve

/-- Serves an editor as the command line says. -/
def main (words : List String) : IO UInt32 := do
  match LiveSketch.CommandLine.read words with
  | .error .helpAsked =>
    IO.println LiveSketch.Serve.usage
    return 0
  | .error refusal =>
    IO.eprintln LiveSketch.Serve.usage
    IO.eprintln ("fiddle-server: error: " ++ refusal.message)
    return UInt32.ofNat refusal.code
  | .ok settings =>
    match settings.transport with
    | .streams =>
      let input ← IO.getStdin
      let output ← IO.getStdout
      let service : LiveSketch.Serve.Service :=
        ⟨LiveSketch.Serve.planOf settings, .empty, settings.previewDir, ← IO.monoMsNow, false⟩
      LiveSketch.Serve.serve input output service (← IO.asTask (LiveSketch.Serve.readMessage input))
      return 0
    | _ =>
      IO.eprintln "fiddle-server: error: only the standard streams are served"
      return 1

import LiveSketch.Editor.Report
import LiveSketch.Preview.Write
import LiveSketch.Session.Run
import LiveSketch.Surface.Mode

/-!
# The state of a studio

A studio keeps one session for each open document and tells the editor what they announce. Turns
and jobs of all sessions are served in the order in which they came up.
-/

namespace LiveSketch

variable {σ ν : Type}

/-- How serious a note to the editor is. -/
inductive NoteLevel where
  | warning | info
deriving DecidableEq, Repr, Inhabited

/-- What the editor is told. -/
inductive Message where
  | status (address : String) (mode : Mode)
  | reports (address : String) (reports : List EditorReport)
  | preview (address name : String) (mode : ColorMode) (width height : Int)
  | alert (text : String)
  | note (level : NoteLevel) (text : String)
  | log (line : String)
  | ended (command : String) (outcome : Except Fault Unit)

/-- What a studio is given for its lifetime. -/
structure StudioPlan (σ ν : Type) where
  /-- What the language makes of a text, after the last draw left its engine in a state. -/
  programOf : Option σ → Source → Program σ
  engine : Engine σ ν
  /-- The state of a script that is to draw, with all that scripts share as the last draw left it, or
  as it was before any draw. -/
  enter : Option σ → σ → σ
  references : References
  /-- What is loaded, after the last draw left its engine in a state. -/
  loaded : Option σ → Loaded
  delay : Int
  width : Int
  height : Int
  colorMode : String
  previewsBlocked : Bool

namespace StudioPlan

/-- What the session of a document is given, after the last draw left its engine in a state. -/
def workshop (p : StudioPlan σ ν) (shared : Option σ) (address : String) : Workshop σ ν where
  programOf := p.programOf shared
  engine := p.engine
  enter := p.enter
  references := p.references
  loaded := p.loaded shared
  delay := p.delay
  presenting picture :=
    (writePreview p.previewsBlocked address picture.width picture.height).fault?

end StudioPlan

/-- A document and its session. A document that is opened again gets a new session under a new
key. -/
structure Document (σ ν : Type) where
  key : Nat
  address : String
  session : Session σ ν

/-- A command that a session is busy with: its name, and whether a refused value is shown to the
user instead of failing the command. -/
structure Pledge where
  name : String
  showsRefusal : Bool
deriving DecidableEq, Repr, Inhabited

/-- The state of a studio. Documents stand in the order of their last edits; closed ones stay until
their sessions have nothing left to do. -/
structure Studio (σ ν : Type) where
  documents : List (Document σ ν)
  /-- The state in which the last draw of any document left its engine. -/
  shared : Option σ
  /-- The keys of the open documents by address. -/
  shown : List (String × Nat)
  /-- The keys of the sessions with ready turns, one entry for each. -/
  turns : List Nat
  /-- The keys of the sessions with jobs, one entry for each. -/
  jobs : List Nat
  /-- The commands given so far; a command is known to its session by its place. -/
  pledges : List Pledge
  messages : List Message
  keyCount : Nat
  now : Int

namespace Studio

def empty : Studio σ ν :=
  { documents := [], shared := none, shown := [], turns := [], jobs := [], pledges := []
    messages := [], keyCount := 0, now := 0 }

def document? (s : Studio σ ν) (key : Nat) : Option (Document σ ν) :=
  s.documents.find? (·.key == key)

def shownDocument? (s : Studio σ ν) (address : String) : Option (Document σ ν) :=
  ((s.shown.find? (·.1 == address)).map Prod.snd).bind s.document?

/-- The open documents with their modes. -/
def modes (s : Studio σ ν) : List (String × Mode) :=
  s.shown.filterMap fun e => (s.document? e.2).map fun d => (e.1, d.session.mode)

def tell (s : Studio σ ν) (m : Message) : Studio σ ν := { s with messages := s.messages ++ [m] }

end Studio

end LiveSketch

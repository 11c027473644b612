import LiveSketch.Studio.State

/-!
# The steps of a studio

A step of one session is a step of the studio: the other sessions stay as they are, what the session
announces goes to the editor, and its new turns and jobs line up behind those of all sessions.
-/

namespace LiveSketch

variable {σ ν : Type}

/-- The line that reports a preview that could not be written. -/
def unwritableLine (address : String) : String := "Failed to write preview for " ++ address

/-- What the editor is told of a finished picture. -/
def pictureMessages (blocked : Bool) (address : String) (p : Picture) : List Message :=
  match writePreview blocked address p.width p.height, p.canvas with
  | .stored name, .pixels mode width height => [.preview address name mode width height]
  | .unwritable, _ => [.log (unwritableLine address), .note .warning (unwritableLine address)]
  | _, _ => []

/-- What the editor is told when a command ends. -/
def endMessages (pledge : Pledge) : Except Fault Unit → List Message
  | .ok () => [.ended pledge.name (.ok ())]
  | .error fault =>
    if pledge.showsRefusal && fault.name == "ValueError" then
      [.alert (fault.words.toOption.getD ""), .ended pledge.name (.ok ())]
    else [.ended pledge.name (.error fault)]

namespace Studio

/-- What the editor is told of an announcement. -/
def messagesOf (p : StudioPlan σ ν) (s : Studio σ ν) (address : String) : Notice → List Message
  | .mode mode => [.status address mode]
  | .diagnostics ds source => [.reports address (editorReports ds source)]
  | .picture picture => pictureMessages p.previewsBlocked address picture
  | .failure line => [.log line]
  | .ended id outcome => match s.pledges[id]? with
    | some pledge => endMessages pledge outcome
    | none => []

/-- Puts a changed session back: its announcements are passed on, its new turns and jobs line up, and
what its scripts did is there for those of all documents. -/
def putBack (p : StudioPlan σ ν) (s : Studio σ ν) (d : Document σ ν) (after : Session σ ν) :
    Studio σ ν :=
  let fresh := after.transcript.drop d.session.transcript.length
  { s with
    documents := s.documents.map fun e => if e.key = d.key then { e with session := after } else e
    shared := after.shared
    turns := s.turns ++ List.replicate (after.ready.length - s.turns.count d.key) d.key
    jobs := s.jobs ++ List.replicate (after.jobs.length - s.jobs.count d.key) d.key
    messages := s.messages ++ fresh.flatMap (s.messagesOf p d.address) }

/-- Takes a step of one session. -/
def within (p : StudioPlan σ ν) (s : Studio σ ν) (key : Nat)
    (f : Workshop σ ν → Session σ ν → Session σ ν) : Studio σ ν :=
  match s.document? key with
  | some d =>
    s.putBack p d (f (p.workshop s.shared d.address) { d.session with shared := s.shared })
  | none => s

/-- Takes the first turn that is ready. -/
def turn (p : StudioPlan σ ν) (s : Studio σ ν) : Studio σ ν :=
  match s.turns with
  | [] => s
  | key :: rest => { s with turns := rest }.within p key Session.turn

def work (p : StudioPlan σ ν) (s : Studio σ ν) : Studio σ ν :=
  match s.jobs with
  | [] => s
  | key :: rest => { s with jobs := rest }.within p key fun w session => session.work w none

/-- Takes turns until none is ready. -/
def drain (p : StudioPlan σ ν) (s : Studio σ ν) : Studio σ ν :=
  Nat.repeat (turn p) (s.documents.map fun d => d.session.effort).sum s

/-- Takes turns and works until no job is left. -/
def settle (p : StudioPlan σ ν) (s : Studio σ ν) : Studio σ ν :=
  (Nat.repeat (fun s => (s.drain p).work p) (s.documents.map fun d => d.session.rounds).sum s).drain p

/-! ## Documents -/

/-- The open document of an address; it is opened where it is not. -/
def opened (p : StudioPlan σ ν) (s : Studio σ ν) (address : String) :
    Except Fault (Studio σ ν × Nat) :=
  match s.shownDocument? address with
  | some d => .ok (s, d.key)
  | none => match ColorMode.ofName? p.colorMode with
    | none => .error (.plain "ValueError" (ColorMode.unsupported p.colorMode))
    | some mode =>
      let key := s.keyCount
      let session := Session.new (some (.pixels mode)) p.width p.height s.now
      .ok ({ s with
        documents := s.documents ++ [⟨key, address, session⟩]
        shown := s.shown ++ [(address, key)]
        keyCount := key + 1 }, key)

/-- Moves a document behind all others. -/
def moveLast (s : Studio σ ν) (key : Nat) : Studio σ ν :=
  { s with documents :=
      s.documents.filter (·.key != key) ++ s.documents.filter (·.key == key) }

/-- A document is opened with a text or has a new one. -/
def edit (p : StudioPlan σ ν) (s : Studio σ ν) (address text : String) :
    Except Fault (Studio σ ν) := do
  let (s, key) ← s.opened p address
  pure ((s.moveLast key).within p key fun w session => session.edit w text)

/-- Closes one document and clears its reports. -/
def close (p : StudioPlan σ ν) (s : Studio σ ν) (address : String) : Studio σ ν :=
  let s := match s.shownDocument? address with
    | some d => { s.within p d.key fun _ session => session.close with
        shown := s.shown.filter (·.1 != address) }
    | none => s
  s.tell (.reports address [])

def closeAll (p : StudioPlan σ ν) (s : Studio σ ν) : Studio σ ν :=
  let s := s.shown.foldl (fun s e => s.within p e.2 fun _ session => session.close) s
  { s with shown := [] }

/-- Time goes on for all documents; of two edits that have rested the one that was due first wakes
first. -/
def advance (p : StudioPlan σ ν) (s : Studio σ ν) (span : Int) : Studio σ ν :=
  let due (d : Document σ ν) : Int := (d.session.timer.map Timer.deadline).getD 0
  let order := s.documents.mergeSort fun a b => decide (due a ≤ due b)
  let s := order.foldl (fun s d => s.within p d.key fun _ session => session.advance span) s
  { s with now := s.now + span }

end Studio

end LiveSketch

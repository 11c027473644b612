import LiveSketch.Entry.Either
import LiveSketch.Rehearsal.Basic
import LiveSketch.Reference.Resolver
import LiveSketch.Script.Engine
import LiveSketch.Script.Installed

/-!
# Rehearsed and running scripts

A stage plays texts: those that were rehearsed as rehearsals, all others by running them.
-/

namespace LiveSketch.Stage

/-- What is played: a rehearsal, or a running script. -/
abbrev Player := Rehearsal.State ⊕ Script.Player

abbrev Piece := Rehearsal.Value ⊕ Script.Value

def engine (accepts : Canvas → CanvasCall → Except Fault Unit) : Engine Player Piece :=
  (rehearsalEngine accepts).either Script.scriptEngine

/-- Running scripts share a world, in which none has drawn as they start; rehearsals share
nothing. -/
def enter : Option Player → Player → Player
  | some (.inr last), .inr s => .inr (Script.enter last s)
  | _, s => s

/-- The program of a text: its rehearsal if there is one. -/
def programOf (known : List (String × Program Rehearsal.State)) (references : References)
    (loaded : List String) (s : Source) : Program Player :=
  match known.lookup s.text with
  | some p => p.first
  | none => (Script.scriptProgram references loaded s.text).second

/-- What a rehearsal noted; a running script notes nothing. -/
def log : Player → List Rehearsal.Entry
  | .inl s => s.log
  | .inr _ => []

/-- The modules that scripts may import unless a host says otherwise. -/
def defaultReferences : References := .ofNames (defaultAllowed ++ defaultExtensions)

/-- All that is loaded along with those. -/
def defaultLoaded : Loaded where
  modules := (defaultReferences.names ++ Script.Library.pictureModules.map ("PIL." ++ ·) ++
    ["typing.io", "typing.re"]).eraseDups
  builtins := Script.builtinNames

end LiveSketch.Stage

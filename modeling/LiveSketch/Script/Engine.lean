import LiveSketch.Compile.Program
import LiveSketch.Script.Library.All
import LiveSketch.Surface.Mode

/-!
# Scripts that run

The program of a text, and the engine that runs it: the host's requests carried out by the machine.
All scripts run in one world, so what one does to a module the others find; a script owns nothing
but the names of its body. A fault that reaches the host stays an object of that world, and answers
from there.
-/

namespace LiveSketch.Script

/-- A script as its host keeps it: its tree, and the table of its names once the body has begun. -/
structure Own where
  tree : Node
  globals : Option Nat
deriving Inhabited

/-- A script in the world of all scripts. -/
abbrev Player := Own × World

/-! ## Faults at the border -/

/-- The fault of a script that makes too many steps. -/
def spentFault : Fault := .plain "MemoryError" ""

/-- A raised value as the host knows it. -/
def faultOf (v : Value) : Run Fault := do
  match v with
  | .ref handle => do
    let reach ← if ← Run.isOfType v "SystemExit" then pure Reach.exit
      else if ← Run.isOfType v "Exception" then pure Reach.ordinary else pure Reach.beyond
    pure (.live (lastPart (← Run.typeName v)) reach none handle)
  | _ => pure default

/-- Carries out a request of the host in the world, with the names of the script that it is for. -/
def atBorder {α : Type} (x : Run α) : Act Player α :=
  ExceptT.mk fun (own, w) =>
    match (x machine).run { w with globals := own.globals.getD w.globals } with
    | .ok a w => (.ok a, own, w)
    | .error (.raised v) w => match (faultOf v machine).run w with
      | .ok fault w => (.error fault, own, w)
      | .error _ w => (.error default, own, w)
    | .error .spent w => (.error spentFault, own, w)

def answer (handle : Nat) : (q : Inquiry) → Run q.Answer
  | .isWrapper => pure false
  | .className => do return lastPart (← Run.typeName (.ref handle))
  | .line => Run.formatted (.ref handle) ""
  | .frames => do
    match ← Run.dataOf (.ref handle) with
    | .fault f => pure (f.frames.map fun (file, line) => ⟨file, line⟩)
    | _ => pure []
  | .words => Run.plainText (.ref handle)
  | .counts words => pure (!words.isEmpty)

/-! ## The engine -/

def beginNames : Run Nat := do
  let builtins := Library.commonMembers.foldl (fun (t : Table) (n, m) => match m with
    | .value v => t.putName n v
    | _ => t) Table.empty
  let builtins ← Run.newDict builtins
  let names : List (String × Value) :=
    [("__name__", .text "drawing"), ("__doc__", .none), ("__package__", .none),
      ("__loader__", .none), ("__spec__", .none), ("__builtins__", builtins)]
  match ← Run.newDict (names.foldl (fun t (n, v) => t.putName n v) .empty) with
  | .ref address => pure address
  | _ => pure 0

def takeNames : Act Player Unit := do
  let address ← atBorder beginNames
  modifyThe Player fun (own, w) => ({ own with globals := some address }, w)

def runScript : Act Player Unit := do
  takeNames
  let (own, _) ← getThe Player
  atBorder do
    let address := (← getThe World).globals
    Library.carryOut unitFile own.tree address address

/-- The members of a new canvas besides its calls. -/
def membersOf : Canvas → Table
  | .sheet => .empty
  | .pixels mode _ _ =>
    [("palette", Value.none), ("mode", .text mode.name), ("fontmode", .text "L"),
      ("fill", .bool false), ("font", .none)].foldl (fun t (n, v) => t.putName n v) .empty

/-- Calls a value for a drawing, and lists the calls on the canvas. -/
def drawOnce (v : Value) (canvas : Canvas) (width height : Int) :
    StateM Player (List CanvasCall × Except Fault Unit) := do
  modify fun (own, w) =>
    (own, { w with canvas := canvas, canvasMembers := membersOf canvas, drawn := #[] })
  let ended ← (atBorder (discard (Run.apply v [.canvas, .int width, .int height]))).run
  pure ((← get).2.drawn.toList, ended)

def scriptEngine : Engine Player Value where
  runBody := runScript
  global? name := atBorder do
    return (← Run.tableAt (← getThe World).globals).name? name
  member? v name := atBorder do
    Run.orElse (do return some (← Run.getMember v name)) fun fault => do
      if ← Run.isOfType fault "AttributeError" then pure none else Run.raiseFault fault
  construct v := atBorder (Run.apply v [])
  isCallable v := atBorder (Run.isCallable v)
  call := drawOnce
  inquire handle q := atBorder (answer handle q)

/-- A script with the world as another one left it. -/
def enter (last s : Player) : Player := (s.1, last.2)

/-! ## The program of a text -/

/-- The world before any script has run. -/
def newWorld (references : References) (loaded : List String) : World :=
  { heap := #[], codes := #[], globals := 0, handled := none, printed := "", canvas := .sheet
    canvasMembers := .empty, drawn := #[]
    depth := 0, references := withMembers references, loaded := loaded, modules := [], showing := [] }

/-- The phase of reading a text. A text with a character of number zero is refused as a value. -/
def parsePhase (text : String) : Phase Node :=
  if text.toList.contains '\x00' then
    ⟨[], .error (.badValue (.plain "ValueError" "source code string cannot contain null bytes"))⟩
  else
    let r := readScript text
    ⟨r.warnings, r.ended.mapError .malformed⟩

/-- What the language makes of a text, for scripts that may import from some references. -/
def scriptProgram (references : References) (loaded : List String) (text : String) :
    Program Player :=
  let parse := parsePhase text
  let (emit, tree) : Phase Unit × Node := match parse.ended with
    | .error _ => (⟨[], .ok ()⟩, default)
    | .ok tree => (checkTree tree, tree)
  ⟨parse, emit, ⟨tree, none⟩, newWorld references loaded⟩

end LiveSketch.Script

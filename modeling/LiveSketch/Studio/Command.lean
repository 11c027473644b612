import LiveSketch.Fault.Datum
import LiveSketch.Reference.Resolver
import LiveSketch.Studio.Step
import LiveSketch.Text.Whole

/-!
# The commands of a studio

An editor commands with loose arguments: they are taken from the front, numbers may be written as
text, and what cannot be read fails the command before anything has changed. An address that is not
open, a size that is not positive and an unknown pixel format are shown to the user instead.
-/

namespace LiveSketch

variable {σ ν : Type}

/-! ## Arguments -/

/-- The whole number that a value stands for; fractions are cut off. -/
def wholeNumber : Datum → Except Fault Int
  | .int n => .ok n
  | .bool b => .ok (if b then 1 else 0)
  | .float x => match floatParts x with
    | .nan => .error (.plain "ValueError" "cannot convert float NaN to integer")
    | .infinite _ => .error (.plain "OverflowError" "cannot convert float infinity to integer")
    | .finite negative mantissa exponent =>
      let size : Int := if 0 ≤ exponent then mantissa * 2 ^ exponent.toNat
        else mantissa / 2 ^ (-exponent).toNat
      .ok (if negative then -size else size)
  | .text s => match wholeIn s with
    | some n => .ok n
    | none => .error (.plain "ValueError" ("invalid literal for int() with base 10: " ++ quoted s))
  | other => .error (.plain "TypeError" ("int() argument must be a string, a bytes-like object or " ++
      "a real number, not '" ++ other.typeName ++ "'"))

def argumentAt (arguments : List Datum) (place : Nat) : Except Fault Datum :=
  match arguments[place]? with
  | some a => .ok a
  | none => .error (.plain "IndexError" "list index out of range")

/-- What a value is looked up as: the address it is, or nothing that could be open. -/
def addressOf : Datum → Except Fault (Option String)
  | .text s => .ok (some s)
  | .list _ => .error (.plain "TypeError" "unhashable type: 'list'")
  | .dict _ => .error (.plain "TypeError" "unhashable type: 'dict'")
  | _ => .ok none

/-! ## Commands -/

/-- A command with its arguments read. -/
inductive Order where
  | resize (address : Datum) (width height : Int)
  | recolor (address : Datum) (mode : String)
  | redraw (address : Datum)
deriving Inhabited

namespace Order

def address : Order → Datum
  | resize address _ _ | recolor address _ | redraw address => address

def read? (name : String) (arguments : List Datum) : Option (Except Fault Order) :=
  if name == "fiddle.setDrawingSize" then
    some do
      let address ← argumentAt arguments 0
      let width ← wholeNumber (← argumentAt arguments 1)
      let height ← wholeNumber (← argumentAt arguments 2)
      pure (resize address width height)
  else if name == "fiddle.setColorMode" then
    some do pure (recolor (← argumentAt arguments 0) (← argumentAt arguments 1).plain)
  else if name == "fiddle.render" then some do pure (redraw (← argumentAt arguments 0))
  else none

end Order

namespace Studio

def endNow (s : Studio σ ν) (name : String) (outcome : Except Fault Unit) : Studio σ ν :=
  s.tell (.ended name outcome)

/-- Has a session carry out a command. -/
def pledge (p : StudioPlan σ ν) (s : Studio σ ν) (key : Nat) (pledge : Pledge) (command : Command) :
    Studio σ ν :=
  let id := s.pledges.length
  { s with pledges := s.pledges ++ [pledge] }.within p key fun _ session =>
    session.startCommand id command

/-- Carries out an order for an open document. -/
def obey (p : StudioPlan σ ν) (s : Studio σ ν) (name : String) (key : Nat) : Order → Studio σ ν
  | .resize _ width height => s.pledge p key ⟨name, true⟩ (.resize width height)
  | .recolor _ mode => match ColorMode.ofName? mode with
    | none => (s.tell (.alert (ColorMode.unsupported mode))).endNow name (.ok ())
    | some mode =>
      let s := s.within p key fun _ session => { session with surface := some (.pixels mode) }
      s.pledge p key ⟨name, false⟩ .render
  | .redraw _ => s.pledge p key ⟨name, false⟩ .render

/-- Finds the document of an order and carries it out. -/
def follow (p : StudioPlan σ ν) (s : Studio σ ν) (name : String) (order : Order) : Studio σ ν :=
  match addressOf order.address with
  | .error fault => s.endNow name (.error fault)
  | .ok address => match address.bind s.shownDocument? with
    | none => (s.tell (.alert (order.address.plain ++ " is not open"))).endNow name (.ok ())
    | some d => s.obey p name d.key order

/-- Gives a command; an unknown one changes nothing. -/
def command (p : StudioPlan σ ν) (s : Studio σ ν) (name : String) (arguments : List Datum) :
    Studio σ ν :=
  match Order.read? name arguments with
  | some (.ok order) => s.follow p name order
  | some (.error fault) => s.endNow name (.error fault)
  | none => s

/-- Tells the editor what scripts may import. -/
def greet (p : StudioPlan σ ν) (s : Studio σ ν) : Studio σ ν :=
  s.tell (.note .info ("Libraries available to drawing scripts: " ++
    String.intercalate ", " p.references.names))

end Studio

/-- The text of a new drawing. -/
def starterText : String :=
  "from PIL import ImageColor\n\n\ndef Draw(canvas, width: int, height: int):\n" ++
  "    red = ImageColor.getrgb(\"red\")\n" ++
  "    canvas.line((20, 20, 100, 100), fill=red, width=10)\n"

/-! ## What a studio lets scripts import -/

/-- The references of a studio: the default ones, then what its host allows of what is loaded. -/
def studioReferences (allowed : List String) (loaded : LoadedTable) : References :=
  references (allowAll [] (defaultAllowed ++ defaultExtensions ++ allowed)) loaded

end LiveSketch

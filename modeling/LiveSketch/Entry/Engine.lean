import LiveSketch.Fault.Basic
import LiveSketch.Fault.Datum

/-!
# What a host can ask of a script

A script runs in an engine with a state of its own. The host knows the script only through the few
requests below, each of which may change the state and may raise a fault, so what the host promises
holds for every engine.
-/

namespace LiveSketch

/-- A call that a script made on its canvas. -/
structure CanvasCall where
  method : String
  arguments : List Datum
  named : List (String × Datum)
deriving Inhabited

/-- The pixel format of a surface. -/
inductive ColorMode where
  | rgba | rgb | gray
deriving DecidableEq, Repr, Inhabited

/-- What a script draws on: a sheet that notes every call, or a surface of pixels. -/
inductive Canvas where
  | sheet
  | pixels (mode : ColorMode) (width height : Int)
deriving DecidableEq, Repr, Inhabited

/-- A request to a script with state `σ`: it may change the state and may raise a fault. -/
abbrev Act (σ α : Type) := ExceptT Fault (StateM σ) α

/-- A script as its host knows it: `σ` is its state, `ν` are its values. -/
structure Engine (σ ν : Type) where
  /-- Runs the script's body. -/
  runBody : Act σ Unit
  /-- The value the script gave to a name. -/
  global? : String → Act σ (Option ν)
  /-- A member of a value. -/
  member? : ν → String → Act σ (Option ν)
  /-- Calls a value without arguments. -/
  construct : ν → Act σ ν
  /-- The value can be called. -/
  isCallable : ν → Act σ Bool
  /-- Calls a value with a canvas, a width and a height, and lists the calls made on the canvas. -/
  call : ν → Canvas → Int → Int → StateM σ (List CanvasCall × Except Fault Unit)
  /-- Asks a live fault. -/
  inquire : (handle : Nat) → (q : Inquiry) → Act σ q.Answer

/-- Asks a fault: a live one by the engine, any other by what is known of it. -/
def Engine.ask {σ ν : Type} (engine : Engine σ ν) (fault : Fault) (q : Inquiry) : Act σ q.Answer :=
  match fault with
  | .live _ _ _ handle => engine.inquire handle q
  | known => ExceptT.mk (pure (known.known q))

end LiveSketch

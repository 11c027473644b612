import LiveSketch.Compile.Program
import LiveSketch.Entry.Engine

/-!
# One of two engines

A host that has scripts of two kinds uses one engine for both. A value of one kind means nothing to
the other.
-/

namespace LiveSketch

namespace Engine

variable {α σ τ ν μ : Type}

/-- The fault of a value that belongs to an engine of the other kind. -/
def stranger : Fault := .plain "TypeError" "value of another script"

/-- A request of the first kind as one of either kind. -/
def onFirst (x : Act σ α) : Act (σ ⊕ τ) α :=
  ExceptT.mk fun s => match s with
    | .inl s => let (r, s) := x.run.run s; (r, .inl s)
    | .inr s => (.error stranger, .inr s)

/-- A request of the second kind as one of either kind. -/
def onSecond (x : Act τ α) : Act (σ ⊕ τ) α :=
  ExceptT.mk fun s => match s with
    | .inl s => (.error stranger, .inl s)
    | .inr s => let (r, s) := x.run.run s; (r, .inr s)

/-- A request by the kind of the state. -/
def byState (x : Act σ α) (y : Act τ α) : Act (σ ⊕ τ) α := do
  match ← get with
  | .inl _ => onFirst x
  | .inr _ => onSecond y

/-- The engine that carries out scripts of both kinds. -/
def either (a : Engine σ ν) (b : Engine τ μ) : Engine (σ ⊕ τ) (ν ⊕ μ) where
  runBody := byState a.runBody b.runBody
  global? name := byState (do return (← a.global? name).map .inl) (do return (← b.global? name).map .inr)
  member? v name := match v with
    | .inl v => onFirst do return (← a.member? v name).map .inl
    | .inr v => onSecond do return (← b.member? v name).map .inr
  construct v := match v with
    | .inl v => onFirst do return .inl (← a.construct v)
    | .inr v => onSecond do return .inr (← b.construct v)
  isCallable v := match v with
    | .inl v => onFirst (a.isCallable v)
    | .inr v => onSecond (b.isCallable v)
  call v canvas width height := fun s => match v, s with
    | .inl v, .inl s => let (r, s) := (a.call v canvas width height).run s; (r, .inl s)
    | .inr v, .inr s => let (r, s) := (b.call v canvas width height).run s; (r, .inr s)
    | _, s => (([], .error stranger), s)
  inquire handle q := byState (a.inquire handle q) (b.inquire handle q)

end Engine

/-- A program of the first kind as one of either kind. -/
def Program.first {σ τ : Type} (p : Program σ) : Program (σ ⊕ τ) := ⟨p.parse, p.emit, .inl p.start⟩

/-- A program of the second kind as one of either kind. -/
def Program.second {σ τ : Type} (p : Program τ) : Program (σ ⊕ τ) := ⟨p.parse, p.emit, .inr p.start⟩

end LiveSketch

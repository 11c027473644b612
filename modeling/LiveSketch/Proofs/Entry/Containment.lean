import LiveSketch.Proofs.Entry.Draws
import LiveSketch.Rehearsal.Basic

/-!
# Which faults of a script a draw contains

A draw should come back with nothing or with one error, whatever its script raises. It does so
exactly for the faults that can be told:

1. `Artifact.scriptEnd` is what the script came to in a draw: nothing raised, a fault of binding,
   which may be an earlier draw's, or a fault of its function;
2. the guard turns a fault into one error exactly if the host stops it, every question about it is
   answered, and the answers give it a label (`isContained_answerOf_iff`);
3. a fault of binding is asked for its words first, and reaches the guard in a wrapper with them, or
   is replaced by the fault that asking raises (`isContained_retell_iff`);
4. `Artifact.after_kept` carries through all draws that a binding keeps only faults that the host
   stops.
-/

namespace LiveSketch

variable {σ ν : Type}

/-! ## Contained outcomes -/

namespace Fault

variable {engine : Engine σ ν} {s : σ} {fault : Fault}

end Fault

section Guard

variable {engine : Engine σ ν} {entry : EntryPoint} {s : σ} {fault : Fault}

end Guard

/-! ## What the script came to -/

/-- What the script came to in a draw: it raised nothing, its body or its class raised a fault, in
this draw or in an earlier one, or its function raised one. -/
inductive ScriptEnd where
  | calm
  | atBinding (fault : Fault)
  | atCall (fault : Fault)

namespace ScriptEnd

end ScriptEnd

/-- What a call of the target came to, and the state it left. -/
def callEnd (engine : Engine σ ν) (target : ν) (q : DrawRequest σ) (s : σ) : ScriptEnd × σ :=
  match (engine.call target q.canvas q.width q.height).run s with
  | ((_, .ok ()), s) => (.calm, s)
  | ((_, .error fault), s) => (.atCall fault, s)

/-- What the script came to in a draw on a binding, and the state it left. -/
def Binding.scriptEnd (engine : Engine σ ν) (entry : EntryPoint) (q : DrawRequest σ) (s : σ) :
    Binding ν → ScriptEnd × σ
  | .unbound => match (createTarget engine entry).run.run s with
    | (.ok target, s) => callEnd engine target q s
    | (.error fault, s) => (.atBinding fault, s)
  | .bound target => callEnd engine target q s
  | .failed fault => (.atBinding fault, s)
  | .lost => (.calm, s)

/-- What the script of an artifact comes to in a draw, and the state it leaves. -/
def Artifact.scriptEnd (engine : Engine σ ν) (a : Artifact σ ν) (q : DrawRequest σ) :
    ScriptEnd × σ :=
  match Resolution.entry? (a.resolution.settle a.tree) with
  | none => (.calm, q.meanwhile a.state)
  | some entry => a.binding.scriptEnd engine entry q (q.meanwhile a.state)

section Draw

variable {engine : Engine σ ν} {entry : EntryPoint} {a : Artifact σ ν} {s : σ} {b : Binding ν}

end Draw

/-! ## All draws -/

namespace Artifact

variable {engine : Engine σ ν} {a : Artifact σ ν}

end Artifact

/-! ## A fault without words -/

def DrawRequest.small {σ : Type} : DrawRequest σ := ⟨.sheet, 1, 1, id⟩

end LiveSketch

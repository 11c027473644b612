import LiveSketch.Analysis.Basic
import LiveSketch.Compile.Checkpoint
import LiveSketch.Compile.Findings
import LiveSketch.Entry.Invoke

/-!
# Compiling a script

A text is parsed, analysed and, when nothing so far is an error, turned into code; what was found on
the way becomes sorted diagnostics. A script without an entry point gets one more error, and a
result with errors has no artifact.
-/

namespace LiveSketch

variable {σ ν : Type}

/-- What a compile gives: the snapshot it read, its diagnostics in reading order, and an artifact
when nothing was wrong. -/
structure Compiled (σ ν : Type) where
  source : Source
  diagnostics : List Diagnostic
  artifact : Option (Artifact σ ν)

namespace Compiled

def hasErrors (c : Compiled σ ν) : Bool := c.diagnostics.any Diagnostic.isError

end Compiled

def anyError (findings : List Finding) : Bool := findings.any fun f => f.level == .error

/-- The findings of parsing, and the tree if there is one. Text and values can be refused; any other
breakdown halts the compile. -/
def parseFindings (s : Source) (phase : Phase Node) : Except Fault (List Finding × Option Node) :=
  let warnings := warningFindings phase.warnings s
  match phase.ended with
  | .ok tree => .ok (warnings, some tree)
  | .error (.malformed e) => .ok (e.finding s .characters :: warnings, none)
  | .error (.badValue fault) =>
    fault.words.map fun words => (.ofSpan "E0001" .error words (0, 0) :: warnings, none)
  | .error (.other fault) => .error fault

/-- The findings of code generation, and whether there is code. Only the text can be refused. -/
def emitFindings (s : Source) (phase : Phase Unit) : Except Fault (List Finding × Bool) :=
  let warnings := warningFindings phase.warnings s
  match phase.ended with
  | .ok () => .ok (warnings, true)
  | .error (.malformed e) => .ok (e.finding s .bytes :: warnings, false)
  | .error (.badValue fault) | .error (.other fault) => .error fault

def orHalt {α : Type} (x : Except Fault α) : Checked α :=
  match x with
  | .ok a => pure a
  | .error fault => throw (.fault fault)

/-- The diagnostics of findings with a place in the text and a severity; one checkpoint each. -/
def locateAll (s : Source) : List Finding → Checked (List Diagnostic)
  | [] => pure []
  | f :: rest => do
    checkpoint
    let later ← locateAll s rest
    let d := f.locate s
    pure (if f.inSource && d.severity != .silent then d :: later else later)

/-- All findings of a text in production order, and its tree when there is code for it. -/
def collectFindings (s : Source) (program : Program σ) (r : References) (loaded : Loaded) :
    Checked (List Finding × Option Node) := do
  let (parsed, tree?) ← orHalt (parseFindings s program.parse)
  match tree? with
  | none => pure (parsed, none)
  | some tree =>
    checkpoint
    let analysed := parsed ++ tree.analyze s r loaded
    if anyError analysed then pure (analysed, none)
    else do
      checkpoint
      let (emitted, hasCode) ← orHalt (emitFindings s program.emit)
      pure (analysed ++ emitted, if hasCode then some tree else none)

/-- The artifact of a tree with an entry point, its search already made. -/
def Artifact.ofTree? (tree : Node) (start : σ) : Option (Artifact σ ν) :=
  (entryPoint? tree).map fun entry =>
    { tree := tree, resolution := .found entry, binding := .unbound, state := start }

def compile (s : Source) (program : Program σ) (r : References) (loaded : Loaded) :
    Checked (Compiled σ ν) := do
  checkpoint
  let (findings, tree?) ← collectFindings s program r loaded
  let located ← locateAll s findings
  match tree? with
  | none => pure ⟨s, sortDiagnostics located, none⟩
  | some tree =>
    match Artifact.ofTree? tree program.start with
    | some artifact => pure ⟨s, sortDiagnostics located, some artifact⟩
    | none => pure ⟨s, sortDiagnostics (located ++ [entryMissing]), none⟩

/-- Draws the sizes one after the other, as far as there is something to draw: what is left of the
script, and what came of each draw. -/
def Compiled.drawEach (engine : Engine σ ν) (c : Compiled σ ν) (canvas : Canvas)
    (sizes : List (Int × Int)) : Option (Artifact σ ν) × List DrawOutcome :=
  match c.artifact with
  | none => (none, sizes.map fun _ => ⟨[], .ok []⟩)
  | some a =>
    let (a, outcomes) := sizes.foldl (fun (a, outcomes) (w, h) =>
      let (a, outcome) := a.draw engine canvas w h
      (a, outcomes ++ [outcome])) (a, [])
    (some a, outcomes)

/-- Compiles a text on behalf of a waiting caller, who passes one checkpoint first. -/
def compileAwaited (s : Source) (program : Program σ) (r : References) (loaded : Loaded) :
    Checked (Compiled σ ν) := do
  checkpoint
  compile s program r loaded

/-- Compiling gets as far as generating code. -/
def reachesEmit (s : Source) (program : Program σ) (r : References) (loaded : Loaded) : Bool :=
  match parseFindings s program.parse with
  | .ok (parsed, some tree) => !anyError (parsed ++ tree.analyze s r loaded)
  | _ => false

end LiveSketch

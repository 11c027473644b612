import LiveSketch.Diagnostic.Basic
import LiveSketch.Tree.Place
import LiveSketch.Tree.Walk
import LiveSketch.Reference.Basic

/-!
# Imports in a script

Checks before a script runs that its imports will be served: every imported module is a reference,
no import is relative, and no name taken from a module is a loaded submodule that is no reference.
A second pass lists imports whose name is never read.
-/

namespace LiveSketch

/-- The name an import binds: its own name for it, else the part before the first dot. -/
def importedAs (name : String) (asName : Option String) : String :=
  match asName with
  | some own => if own.isEmpty then topName name else own
  | none => topName name

def findingAt (s : Source) (span : Span) (code : String) (level : Level) (text : String) : Finding :=
  .ofSpan code level text (span.offsets s)

/-- An import of a module that scripts may not see. -/
def unavailableImport (s : Source) (span : Span) (name : String) : Finding :=
  findingAt s span "E0401" .error
    ("Unable to import '" ++ name ++
      "', it is not one of the libraries available to drawing scripts")

namespace Span

/-- A part's span where it has one, else that of the whole. -/
def orElse (part whole : Span) : Span := if part.line.isSome then part else whole

end Span

namespace Node

/-- The names of an import statement with their spans. -/
def aliases (names : List Node) : List (Span × String × Option String) :=
  names.filterMap fun n => match n.form with
    | .importedName name asName => some (n.span, name, asName)
    | _ => none

/-- What is wrong with the imports of this one node. -/
def importFindings (s : Source) (r : References) (loaded : List String) (n : Node) : List Finding :=
  match n.form with
  | .importModules names =>
    (aliases names).filterMap fun (span, name, _) =>
      if r.contains name then none else some (unavailableImport s (span.orElse n.span) name)
  | .importFrom module names level =>
    if level.getD 0 ≠ 0 then
      [findingAt s n.span "E0402" .error "Relative imports are not supported in drawing scripts"]
    else
      let module := module.getD ""
      if !r.contains module then [unavailableImport s n.span module]
      else (aliases names).filterMap fun (span, name, _) =>
        let qualified := module ++ "." ++ name
        if loaded.contains qualified && !r.contains qualified then
          some (unavailableImport s (span.orElse n.span) qualified)
        else none
  | _ => []

def readName? (n : Node) : Option String :=
  match n.form with
  | .name id .load => some id
  | _ => none

/-- The imports of this one node whose name is not among `used`. -/
def unusedImports (s : Source) (used : List String) (n : Node) : List Finding :=
  match n.form with
  | .importModules names | .importFrom _ names _ =>
    (aliases names).filterMap fun (span, name, asName) =>
      let bound := importedAs name asName
      if bound == "*" || used.contains bound then none
      else some (findingAt s (span.orElse n.span) "W0611" .hidden
        ("'" ++ name ++ "' imported but unused"))
  | _ => []

end Node

end LiveSketch

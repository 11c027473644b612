import LiveSketch.Analysis.Imports

/-!
# Names in a script

A name is known when the interpreter provides it, when every module has it, or when the script binds
it anywhere, in whatever scope and order. Reading any other name is an error, unless a star import
may bring it in.
-/

namespace LiveSketch

def moduleNames : List String :=
  ["__name__", "__doc__", "__builtins__", "__spec__", "__loader__", "__package__",
    "__annotations__", "__class__", "__module__", "__qualname__"]

namespace Node

def boundNames (n : Node) : List String :=
  match n.form with
  | .name id .store | .name id .remove => [id]
  | .functionDef _ name .. | .classDef name .. => [name]
  | .argument name _ => [name]
  | .importedName name asName => if name == "*" then [] else [importedAs name asName]
  | .handler _ (some name) _ => if name.isEmpty then [] else [name]
  | .globals names | .nonlocals names => names
  | .matchAs _ (some name) | .matchStar (some name) => if name.isEmpty then [] else [name]
  | .matchMapping _ _ (some name) => if name.isEmpty then [] else [name]
  | .typeVar name _ _ | .paramSpec name _ | .typeVarTuple name _ => [name]
  | _ => []

/-- This one node imports everything a module has. -/
def isStarImport (n : Node) : Bool :=
  match n.form with
  | .importedName "*" _ => true
  | _ => false

/-- A finding for each name that this one node reads and that is not among `known`. -/
def unknownNames (s : Source) (known : List String) (n : Node) : List Finding :=
  match n.readName? with
  | some id =>
    if known.contains id then []
    else [findingAt s n.span "E0602" .error ("The name '" ++ id ++ "' is not defined")]
  | none => []

end Node

end LiveSketch

import LiveSketch.Analysis.Names

/-!
# Analysis of a parsed script

Everything the analysis finds in a tree, in reporting order: imports that will be refused, names
that nothing defines, imports that nothing reads.
-/

namespace LiveSketch

namespace Node

/-- The names the script binds anywhere, in the order of their bindings. -/
def bindings (tree : Node) : List String := tree.all.flatMap boundNames

/-- The names the script binds, each once, in the order of their characters. -/
def bindingSet (tree : Node) : List String :=
  tree.bindings.eraseDups.mergeSort fun a b => decide (a ≤ b)

/-- The script imports everything some module has. -/
def hasStarImport (tree : Node) : Bool := tree.all.any isStarImport

def refusedImports (s : Source) (r : References) (loaded : List String) (tree : Node) :
    List Finding :=
  tree.all.flatMap (importFindings s r loaded)

/-- The names the script reads though nothing defines them. -/
def undefinedNames (s : Source) (builtins : List String) (tree : Node) : List Finding :=
  if tree.hasStarImport then []
  else
    let known := tree.bindings ++ builtins ++ moduleNames
    tree.all.flatMap (unknownNames s known)

/-- The imports whose name the script never reads. -/
def idleImports (s : Source) (tree : Node) : List Finding :=
  let used := tree.levels.filterMap readName?
  tree.levels.flatMap (unusedImports s used)

/-- Everything the analysis finds, in reporting order. -/
def analyze (s : Source) (r : References) (loaded : Loaded) (tree : Node) : List Finding :=
  refusedImports s r loaded.modules tree ++ undefinedNames s loaded.builtins tree ++
    idleImports s tree

end Node

end LiveSketch

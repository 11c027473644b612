/-!
# References

The modules a drawing script may import. Two modules can carry one name; the later one answers for
it.
-/

namespace LiveSketch

/-- A loaded module: its own name, a tag that tells two of one name apart, and what can be imported
from it. -/
structure Module where
  name : String
  tag : String
  members : List String
deriving DecidableEq, Repr, Inhabited

/-- The modules a script may import, in order. -/
structure References where
  modules : List Module
deriving DecidableEq, Repr, Inhabited

/-- What the interpreter has loaded: modules by their names, and names known in every script. -/
structure Loaded where
  modules : List String
  builtins : List String
deriving DecidableEq, Repr, Inhabited

namespace References

/-- The modules of these names, without members. -/
def ofNames (names : List String) : References := ⟨names.map fun n => ⟨n, n, []⟩⟩

/-- The names in order, repeated ones included. -/
def names (r : References) : List String := r.modules.map Module.name

/-- The module that answers for a name: the last one of that name. -/
def get? (r : References) (name : String) : Option Module :=
  r.modules.reverse.find? (·.name == name)

def contains (r : References) (name : String) : Bool := r.modules.any (·.name == name)

end References

/-- The part of a dotted name before its first dot. -/
def topName (name : String) : String := String.ofList (name.toList.takeWhile (· != '.'))

end LiveSketch

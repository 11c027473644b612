import LiveSketch.Reference.Basic

/-!
# Importing at run time

What a script gets when it runs an import: one of the modules it may see, or a refusal.
-/

namespace LiveSketch

/-- One import as the running script asks for it: the dotted name, the names taken from it, and how
many packages it goes up. -/
structure ImportRequest where
  name : String
  members : List String
  level : Int
deriving DecidableEq, Repr, Inhabited

/-- Why an import is refused. -/
inductive ImportRefusal where
  /-- The request goes up from the script, which is in no package. -/
  | relative
  /-- No reference has this name. -/
  | unavailable (name : String)
  /-- The module has no such member. -/
  | noMember (member module : String)
deriving DecidableEq, Repr, Inhabited

namespace ImportRefusal

def message : ImportRefusal → String
  | relative => "Relative imports are not supported in drawing scripts"
  | unavailable name => "No module named '" ++ name ++ "' is available to drawing scripts"
  | noMember member module => "cannot import name '" ++ member ++ "' from '" ++ module ++ "'"

def about : ImportRefusal → Option String
  | relative => none
  | unavailable name => some name
  | noMember _ module => some module

end ImportRefusal

/-- What every module has, whatever it holds. -/
def moduleMembers : List String :=
  ["__annotations__", "__class__", "__delattr__", "__dict__", "__dir__", "__doc__", "__eq__",
    "__format__", "__ge__", "__getattribute__", "__getstate__", "__gt__", "__hash__", "__init__",
    "__init_subclass__", "__le__", "__loader__", "__lt__", "__name__", "__ne__", "__new__",
    "__package__", "__reduce__", "__reduce_ex__", "__repr__", "__setattr__", "__sizeof__",
    "__spec__", "__str__", "__subclasshook__"]

namespace Module

def hasMember (m : Module) (name : String) : Bool :=
  m.members.contains name || moduleMembers.contains name

end Module

/-- Answers an import. Without members it binds the top package, when that is loaded; a star asks
for no member. -/
def References.serve (r : References) (loaded : List String) (q : ImportRequest) :
    Except ImportRefusal String :=
  if q.level ≠ 0 then .error .relative
  else match r.get? q.name with
    | none => .error (.unavailable q.name)
    | some m =>
      if q.members.isEmpty then
        .ok (if loaded.contains (topName q.name) then topName q.name else m.name)
      else match q.members.find? fun item => item != "*" && !m.hasMember item with
        | some item => .error (.noMember item q.name)
        | none => .ok m.name

end LiveSketch

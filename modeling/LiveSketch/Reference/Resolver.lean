import LiveSketch.Reference.Basic
import LiveSketch.Text.Lowercase

/-!
# From loaded modules to references

The modules that scripts may see are those that are loaded and named, in whatever case, on the
allow-list. The list keeps the first spelling of each name and the order in which names came.
-/

namespace LiveSketch

/-- The modules that scripts may see unless a host says otherwise. -/
def defaultAllowed : List String :=
  ["builtins", "math", "cmath", "random", "colorsys", "itertools", "functools", "operator",
    "statistics", "dataclasses", "enum", "typing", "PIL", "PIL.Image", "PIL.ImageDraw",
    "PIL.ImageColor"]

/-- Further modules of the drawing library. -/
def defaultExtensions : List String :=
  ["PIL.ImageFont", "PIL.ImageFilter", "PIL.ImageOps", "PIL.ImageChops", "PIL.ImagePath"]

/-! ## The allow-list -/

/-- Adds one name unless it is there already in some case. -/
def allow (list : List String) (name : String) : List String :=
  if list.any fun known => lowerCase known == lowerCase name then list else list ++ [name]

/-- Adds names in order. -/
def allowAll (list names : List String) : List String := names.foldl allow list

/-! ## The loaded modules -/

/-- The table of loaded modules in the order of their first loading. A key can stand for something
that is no module. -/
abbrev LoadedTable := List (String × Option Module)

namespace LoadedTable

/-- Puts something under a key; a key that is there keeps its place. -/
def load (t : LoadedTable) (key : String) (value : Option Module) : LoadedTable :=
  if t.any (·.1 == key) then t.map fun e => if e.1 == key then (key, value) else e
  else t ++ [(key, value)]

def unload (t : LoadedTable) (key : String) : LoadedTable := t.filter (·.1 != key)

/-- Something stands under the key. -/
def hasKey (t : LoadedTable) (key : String) : Bool := t.any (·.1 == key)

/-- The first module whose key is this name in some case. -/
def moduleNamed? (t : LoadedTable) (name : String) : Option Module :=
  t.findSome? fun e => if lowerCase e.1 == lowerCase name then e.2 else none

end LoadedTable

/-- Loads every allowed module whose name is no key yet, as far as it is installed: the names tried,
and the table after it. `install` gives what importing a name adds. -/
def preload (install : String → List (String × Option Module)) :
    List String → LoadedTable → List String × LoadedTable
  | [], t => ([], t)
  | name :: rest, t =>
    if t.hasKey name then preload install rest t
    else
      let (tried, last) := preload install rest
        ((install name).foldl (fun t e => LoadedTable.load t e.1 e.2) t)
      (name :: tried, last)

/-- Takes a module unless one of its name was taken. -/
def takeModule (taken : List Module) (m : Module) : List Module :=
  if taken.any (·.name == m.name) then taken else taken ++ [m]

/-- The references: for each allowed name the loaded module of that name, each module name once. -/
def references (allowed : List String) (t : LoadedTable) : References :=
  ⟨(allowed.filterMap fun name => LoadedTable.moduleNamed? t name).foldl takeModule []⟩

end LiveSketch

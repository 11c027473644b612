import LiveSketch.Script.Scope.Collect

/-!
# Where names live

A name that a scope binds is its own. Any other is looked for in the functions around, and is one of
the script's own names when none of them binds it. Classes are passed over, but for the name of the
class itself.
-/

namespace LiveSketch.Script

/-- The name by which a function asks for the class around it. -/
def className : String := "__class__"

/-- What is known further out: the names of the functions around, if there are any, and those that a
function around declares global. -/
structure Surroundings where
  bound : Option (List String)
  globals : List String

/-- The names of a scope so far: their places, what is known further out, and what lives there. -/
structure Resolving where
  places : List (String × NamePlace)
  own : List String
  around : Surroundings
  outer : List String

def directiveSpan (directives : List (String × Span)) (name : String) : Span :=
  (directives.lookup name).getD .unknown

/-- Finds the place of one name. -/
def resolveName (directives : List (String × Span)) (r : Resolving) (name : String) (u : NameUse) :
    Except Malformed Resolving :=
  let put (place : NamePlace) (r : Resolving) : Resolving :=
    { r with places := r.places ++ [(name, place)] }
  let fault (message : String) : Except Malformed Resolving :=
    .error (faultAt (directiveSpan directives name) message)
  if u.isGlobal then
    if u.isNonlocal then fault ("name '" ++ name ++ "' is nonlocal and global")
    else .ok (put .declaredGlobal { r with around :=
      ⟨r.around.bound.map (·.filter (· != name)), name :: r.around.globals⟩ })
  else if u.isNonlocal then
    match r.around.bound with
    | none => fault "nonlocal declaration not allowed at module level"
    | some bound =>
      if bound.contains name then .ok (put .outer { r with outer := r.outer ++ [name] })
      else fault ("no binding for nonlocal '" ++ name ++ "' found")
  else if u.isOwn then
    .ok (put .own { r with
      own := r.own ++ [name], around := { r.around with
        globals := r.around.globals.filter (· != name) } })
  else if (r.around.bound.getD []).contains name then
    .ok (put .outer { r with outer := r.outer ++ [name] })
  else .ok (put .global r)

/-- Finds the places of names in turn. -/
def resolveNames (directives : List (String × Span)) :
    Resolving → List (String × NameUse) → Except Malformed Resolving
  | r, [] => .ok r
  | r, (name, u) :: rest => do resolveNames directives (← resolveName directives r name u) rest

mutual

/-- Finds the places of a scope's names; gives the names that live further out as well. -/
def resolveScope (around : Surroundings) : NamedScope → Except Malformed (Scope × List String)
  | .mk kind span names directives isGenerator isCoroutine inner => do
    let r ← resolveNames directives ⟨[], [], around, []⟩ names
    let isClass := kind = .cls
    let further : Surroundings :=
      if isClass then ⟨some (className :: around.bound.getD []), around.globals⟩
      else ⟨some ((if kind = .function then r.own else []) ++ r.around.bound.getD []),
        r.around.globals⟩
    let (scopes, asked) ← resolveScopes further inner
    let isShared (name : String) : Bool := kind = .function && asked.contains name
    let places := r.places.map fun (name, place) =>
      if place = .own && isShared name then (name, .shared) else (name, place)
    let isAskedFor := isClass && asked.contains className
    let passing := asked.filter fun name =>
      !(isShared name && r.own.contains name) && !(isClass && name == className)
    let isKnown (name : String) : Bool := r.places.any fun p => p.1 == name
    let through := passing.filter fun name => !isKnown name && (around.bound.getD []).contains name
    let places := places ++ through.eraseDups.map fun name => (name, .outer)
    let outer := (r.outer ++ passing).eraseDups
    pure (.mk ⟨kind, span, places, outer, isGenerator, isCoroutine, isAskedFor⟩ scopes, outer)

/-- Finds the places of the names of scopes in a row. -/
def resolveScopes (around : Surroundings) :
    List NamedScope → Except Malformed (List Scope × List String)
  | [] => .ok ([], [])
  | s :: rest => do
    let (scope, asked) ← resolveScope around s
    let (scopes, more) ← resolveScopes around rest
    pure (scope :: scopes, asked ++ more)

end

/-- The scopes of a script with the places of their names. -/
def scopesOf (tree : Node) : Except Malformed Scope := do
  let named ← collectScopes tree
  let (scope, _) ← resolveScope ⟨none, []⟩ named
  pure scope

end LiveSketch.Script

import LiveSketch.Compile.Program
import LiveSketch.Tree.Place
import LiveSketch.Tree.Walk

/-!
# Scopes

A scope is a stretch of a script with names of its own: the script itself, a class, a function or a
comprehension. What a scope does with a name is noted first; from that follows where the name lives.
-/

namespace LiveSketch.Script

/-- What kind of stretch a scope is. -/
inductive ScopeKind where
  | module | function | cls
deriving DecidableEq, Repr, Inhabited

/-- The comprehensions. -/
inductive ComprehensionKind where
  | list | set | dict | generator
deriving DecidableEq, Repr, Inhabited

/-- What a scope does with a name. -/
structure NameUse where
  isGlobal : Bool := false
  isNonlocal : Bool := false
  isParameter : Bool := false
  isBound : Bool := false
  isImported : Bool := false
  isRead : Bool := false
  isTyped : Bool := false
  isLoopTarget : Bool := false
deriving DecidableEq, Repr, Inhabited

namespace NameUse

def or (a b : NameUse) : NameUse where
  isGlobal := a.isGlobal || b.isGlobal
  isNonlocal := a.isNonlocal || b.isNonlocal
  isParameter := a.isParameter || b.isParameter
  isBound := a.isBound || b.isBound
  isImported := a.isImported || b.isImported
  isRead := a.isRead || b.isRead
  isTyped := a.isTyped || b.isTyped
  isLoopTarget := a.isLoopTarget || b.isLoopTarget

/-- The name belongs to the scope unless it says otherwise. -/
def isOwn (u : NameUse) : Bool := u.isBound || u.isParameter || u.isImported

end NameUse

/-- Where a name lives: with the scope; with the scope and in use further in; further out; or among
the script's own names, as declared or for want of anything else. -/
inductive NamePlace where
  | own | shared | outer | declaredGlobal | global
deriving DecidableEq, Repr, Inhabited

/-- What a scope does with its names, and the scopes in it. -/
inductive NamedScope where
  | mk (kind : ScopeKind) (span : Span) (names : List (String × NameUse))
      (directives : List (String × Span)) (isGenerator isCoroutine : Bool)
      (inner : List NamedScope)
deriving Inhabited

/-- A scope with the place of each of its names. -/
structure ScopeInfo where
  kind : ScopeKind
  span : Span
  places : List (String × NamePlace)
  /-- The names that live further out, also those that only scopes inside ask for. -/
  outer : List String
  isGenerator : Bool
  isCoroutine : Bool
  /-- A class whose functions ask for it. -/
  isAskedFor : Bool
deriving Inhabited

/-- A scope and the scopes in it. -/
inductive Scope where
  | mk (info : ScopeInfo) (inner : List Scope)
deriving Inhabited

namespace Scope

def info : Scope → ScopeInfo
  | mk info _ => info

/-- The scopes directly inside. -/
def inner : Scope → List Scope
  | mk _ inner => inner

def placeOf (s : Scope) (name : String) : NamePlace := (s.info.places.lookup name).getD .global

/-- The scope inside that was written at a span. -/
def innerAt (s : Scope) (span : Span) : Scope :=
  (s.inner.find? fun c => c.info.span = span).getD default

/-- The names that are in use further in. -/
def sharedNames (s : Scope) : List String :=
  s.info.places.filterMap fun (name, place) => if place = .shared then some name else none

end Scope

/-! ## Faults -/

/-- A fault at a span of the tree. Its columns count bytes from 1. -/
def faultAt (span : Span) (message : String) : Malformed :=
  ⟨message, span.line, span.column.map (· + 1), span.endLine, span.endColumn.map (· + 1), none⟩

/-! ## Private names -/

/-- A name inside a class: one with two underscores in front and not behind belongs to the class. -/
def privateName (owner : Option String) (name : String) : String :=
  match owner with
  | none => name
  | some owner =>
    let bare := owner.toList.dropWhile (· == '_')
    if name.startsWith "__" && !name.endsWith "__" && !name.toList.contains '.' && !bare.isEmpty then
      "_" ++ String.ofList bare ++ name
    else name

/-! ## Parameters -/

/-- The parameters of a function. -/
structure ParameterList where
  posOnly : List Node
  positional : List Node
  rest : Option Node
  keywordOnly : List Node
  keywordDefaults : List (Option Node)
  keywordRest : Option Node
  defaults : List Node
deriving Inhabited

def parameterList (n : Node) : ParameterList :=
  match n.form with
  | .arguments posOnly positional rest keywordOnly keywordDefaults keywordRest defaults =>
    ⟨posOnly, positional, rest, keywordOnly, keywordDefaults, keywordRest, defaults⟩
  | _ => default

def parameterName (n : Node) : String :=
  match n.form with
  | .argument name _ => name
  | _ => ""

def declaredType? (n : Node) : Option Node :=
  match n.form with
  | .argument _ declared => declared
  | _ => none

namespace ParameterList

/-- The parameters in the order of their places in a frame. -/
def all (p : ParameterList) : List Node :=
  p.posOnly ++ p.positional ++ p.keywordOnly ++ p.rest.toList ++ p.keywordRest.toList

end ParameterList

end LiveSketch.Script

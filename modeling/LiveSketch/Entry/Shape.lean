import LiveSketch.Diagnostic.Basic
import LiveSketch.Tree.Node

/-!
# The entry point of a script

The host draws by calling `Draw(canvas, width, height)`: the last definition of that name at the top
of the script, else the last one in its last class `Script`. Either must take the three values that
the host passes, and nothing that it does not pass.
-/

namespace LiveSketch

def entryName : String := "Draw"

/-- The name of the class that may hold it. -/
def ownerName : String := "Script"

/-- The definition a script is expected to have. -/
def entrySignature : String := "def Draw(canvas, width: int, height: int)"

/-- The words for a script without an entry point. -/
def entryMissingWords : String := "Unable to find entry method '" ++ entrySignature ++ "'."

/-- The error for a script without an entry point; it has no place in the text. -/
def entryMissing : Diagnostic := .fault entryMissingWords 0

/-- Where the drawing function was found. Without an owner it stands at the top of the script; a
static one is called on the class itself. -/
structure EntryPoint where
  inOwner : Bool
  isStatic : Bool
  line : Int
deriving DecidableEq, Repr, Inhabited

namespace EntryPoint

/-- The class that holds the function, if one does. -/
def owner (e : EntryPoint) : Option String := if e.inOwner then some ownerName else none

def qualifiedName (e : EntryPoint) : String :=
  if e.inOwner then ownerName ++ "." ++ entryName else entryName

end EntryPoint

/-! ## Shape of a definition -/

/-- A size may be declared as `int`, by name or as text, or not at all. -/
def declaresInt : Option Node → Bool
  | none => true
  | some n => match n.form with
    | .name id _ => id == "int"
    | .constant (.text word) => word == "int"
    | _ => false

def declaredType (parameter : Node) : Option Node :=
  match parameter.form with
  | .argument _ declared => declared
  | _ => none

/-- The parameters take a canvas, a width and a height by position, after a first one that
`skipFirst` leaves out: no more, no fewer, no open-ended ones, and every keyword has a default. -/
def hasEntryParameters (parameters : Node) (skipFirst : Bool) : Bool :=
  match parameters.form with
  | .arguments posOnly positional rest _ keywordDefaults keywordRest _ =>
    let all := posOnly ++ positional
    let taken := if skipFirst then all.drop 1 else all
    !(skipFirst && all.isEmpty) && rest.isNone && keywordRest.isNone &&
      keywordDefaults.all Option.isSome &&
      match taken with
      | [_, width, height] => declaresInt (declaredType width) && declaresInt (declaredType height)
      | _ => false
  | _ => false

/-- A plain function definition with the parameters of an entry point. -/
def hasEntryShape (definition : Node) (skipFirst : Bool) : Bool :=
  match definition.form with
  | .functionDef false _ parameters _ _ _ _ => hasEntryParameters parameters skipFirst
  | _ => false

/-! ## Finding it -/

/-- The node defines a function, asynchronous or not, of that name. -/
def definesFunction (name : String) (n : Node) : Bool :=
  match n.form with
  | .functionDef _ own .. => own == name
  | _ => false

def definesClass (name : String) (n : Node) : Bool :=
  match n.form with
  | .classDef own .. => own == name
  | _ => false

/-- The last statement of a block that satisfies `p`. -/
def lastStatement (p : Node → Bool) (block : List Node) : Option Node := block.reverse.find? p

/-- The statements of a module or a class. -/
def blockOf (n : Node) : List Node :=
  match n.form with
  | .module body => body
  | .classDef _ _ _ body _ _ => body
  | _ => []

def decoratorNames (definition : Node) : List String :=
  match definition.form with
  | .functionDef _ _ _ _ decorators _ _ =>
    decorators.filterMap fun d => match d.form with
      | .name id _ => some id
      | _ => none
  | _ => []

def lineOfNode (n : Node) : Int := n.span.line.getD 1

def topEntryPoint? (tree : Node) : Option EntryPoint := do
  let definition ← lastStatement (definesFunction entryName) (blockOf tree)
  if hasEntryShape definition false then some ⟨false, true, lineOfNode definition⟩ else none

/-- The entry point in the script's class. -/
def ownedEntryPoint? (tree : Node) : Option EntryPoint := do
  let owner ← lastStatement (definesClass ownerName) (blockOf tree)
  let method ← lastStatement (definesFunction entryName) (blockOf owner)
  let decorators := decoratorNames method
  let isFree := decorators.contains "staticmethod"
  if hasEntryShape method (!isFree) then
    some ⟨true, isFree || decorators.contains "classmethod", lineOfNode method⟩
  else none

/-- The entry point of a script: the one at its top before the one in its class. -/
def entryPoint? (tree : Node) : Option EntryPoint := (topEntryPoint? tree).or (ownedEntryPoint? tree)

end LiveSketch

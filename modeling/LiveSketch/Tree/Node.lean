/-!
# Script trees

A script as a tree of nodes. A `Node` is a `Form` over nodes with the span it was written at; a
`Form α` is one construct of the language with its parts of type `α`, so that the generic walk is
one function, `Form.parts`, which lists the parts in the order they are visited.
-/

namespace LiveSketch

/-- Where a node was written: 1-based lines and 0-based UTF-8 columns, each absent where unknown. -/
structure Span where
  line : Option Int
  column : Option Int
  endLine : Option Int
  endColumn : Option Int
deriving DecidableEq, Repr, Inhabited

/-- Whether a name, member or element is read, bound or removed. -/
inductive Access where
  | load | store | remove
deriving DecidableEq, Repr, Inhabited

/-- An operator between two values. -/
inductive BinaryOperator where
  | add | sub | mult | matMult | div | mod | pow | leftShift | rightShift | bitOr | bitXor | bitAnd
  | floorDiv
deriving DecidableEq, Repr, Inhabited

/-- An operator in front of a value. -/
inductive UnaryOperator where
  | invert | not | plus | minus
deriving DecidableEq, Repr, Inhabited

/-- One step of a comparison chain. -/
inductive Comparison where
  | eq | notEq | lt | ltE | gt | gtE | is | isNot | in | notIn
deriving DecidableEq, Repr, Inhabited

/-- A connective that may skip its later operands. -/
inductive Connective where
  | and | or
deriving DecidableEq, Repr, Inhabited

/-- The value written in a constant. `other` is a value known by its printed form alone. -/
inductive Literal where
  | none
  | ellipsis
  | bool (value : Bool)
  | int (value : Int)
  | float (value : Float)
  | imaginary (value : Float)
  | text (value : String)
  | bytes (value : List UInt8)
  | other (shown : String)
deriving Inhabited

/-- One construct of the script language over parts of type `α`. -/
inductive Form (α : Type) where
  | module (body : List α)
  | functionDef (isAsync : Bool) (name : String) (arguments : α) (body decorators : List α)
      (returns : Option α) (typeParams : List α)
  | classDef (name : String) (bases keywords body decorators typeParams : List α)
  | ret (value : Option α)
  | delete (targets : List α)
  | assign (targets : List α) (value : α)
  | augAssign (target : α) (op : BinaryOperator) (value : α)
  | annAssign (target declared : α) (value : Option α) (simple : Bool)
  | forLoop (isAsync : Bool) (target iter : α) (body orelse : List α)
  | whileLoop (test : α) (body orelse : List α)
  | branch (test : α) (body orelse : List α)
  | withBlock (isAsync : Bool) (items body : List α)
  | matchOn (subject : α) (cases : List α)
  | raise (exc cause : Option α)
  | tryBlock (star : Bool) (body handlers orelse finalbody : List α)
  | assert (test : α) (message : Option α)
  | importModules (names : List α)
  | importFrom (module : Option String) (names : List α) (level : Option Int)
  | typeAlias (target : α) (typeParams : List α) (value : α)
  | globals (names : List String)
  | nonlocals (names : List String)
  | expression (value : α)
  | pass
  | leaveLoop
  | nextRound
  | connect (op : Connective) (values : List α)
  | namedExpr (target value : α)
  | binary (left : α) (op : BinaryOperator) (right : α)
  | unary (op : UnaryOperator) (operand : α)
  | lambda (arguments body : α)
  | ifExp (test body orelse : α)
  | dict (keys : List (Option α)) (values : List α)
  | set (elements : List α)
  | listComp (element : α) (generators : List α)
  | setComp (element : α) (generators : List α)
  | dictComp (key value : α) (generators : List α)
  | generatorExp (element : α) (generators : List α)
  | await (value : α)
  | yield (value : Option α)
  | yieldFrom (value : α)
  | compare (left : α) (ops : List Comparison) (comparators : List α)
  | call (func : α) (arguments keywords : List α)
  | formattedValue (value : α) (conversion : Int) (spec : Option α)
  | joinedText (values : List α)
  | interpolation (value : α) (written : Literal) (conversion : Int) (spec : Option α)
  | templateText (values : List α)
  | constant (value : Literal)
  | member (value : α) (name : String) (access : Access)
  | subscript (value index : α) (access : Access)
  | starred (value : α) (access : Access)
  | name (id : String) (access : Access)
  | list (elements : List α) (access : Access)
  | tuple (elements : List α) (access : Access)
  | slice (lower upper step : Option α)
  | comprehension (target iter : α) (conditions : List α) (isAsync : Bool)
  | handler (type : Option α) (name : Option String) (body : List α)
  | arguments (posOnly positional : List α) (rest : Option α) (keywordOnly : List α)
      (keywordDefaults : List (Option α)) (keywordRest : Option α) (defaults : List α)
  | argument (name : String) (declared : Option α)
  | keyword (name : Option String) (value : α)
  | importedName (name : String) (asName : Option String)
  | withItem (context : α) (vars : Option α)
  | matchCase (pattern : α) (guard : Option α) (body : List α)
  | matchValue (value : α)
  | matchSingleton (value : Literal)
  | matchSequence (patterns : List α)
  | matchMapping (keys patterns : List α) (rest : Option String)
  | matchClass (cls : α) (patterns : List α) (attributes : List String) (attributePatterns : List α)
  | matchStar (name : Option String)
  | matchAs (pattern : Option α) (name : Option String)
  | matchOr (patterns : List α)
  | typeVar (name : String) (bound fallback : Option α)
  | paramSpec (name : String) (fallback : Option α)
  | typeVarTuple (name : String) (fallback : Option α)
deriving Inhabited

namespace Form

/-- The parts of a construct in the order they are visited. -/
@[noinline] def parts {α : Type} : Form α → List α
  | module body => body
  | functionDef _ _ args body decorators returns typeParams =>
    args :: (body ++ decorators ++ returns.toList ++ typeParams)
  | classDef _ bases keywords body decorators typeParams =>
    bases ++ keywords ++ body ++ decorators ++ typeParams
  | ret value => value.toList
  | delete targets => targets
  | assign targets value => targets ++ [value]
  | augAssign target _ value => [target, value]
  | annAssign target declared value _ => target :: declared :: value.toList
  | forLoop _ target iter body orelse => target :: iter :: (body ++ orelse)
  | whileLoop test body orelse => test :: (body ++ orelse)
  | branch test body orelse => test :: (body ++ orelse)
  | withBlock _ items body => items ++ body
  | matchOn subject cases => subject :: cases
  | raise exc cause => exc.toList ++ cause.toList
  | tryBlock _ body handlers orelse finalbody => body ++ handlers ++ orelse ++ finalbody
  | assert test message => test :: message.toList
  | importModules names => names
  | importFrom _ names _ => names
  | typeAlias target typeParams value => target :: (typeParams ++ [value])
  | globals _ | nonlocals _ | pass | leaveLoop | nextRound => []
  | expression value => [value]
  | connect _ values => values
  | namedExpr target value => [target, value]
  | binary left _ right => [left, right]
  | unary _ operand => [operand]
  | lambda args body => [args, body]
  | ifExp test body orelse => [test, body, orelse]
  | dict keys values => keys.filterMap id ++ values
  | set elements => elements
  | listComp element generators | setComp element generators | generatorExp element generators =>
    element :: generators
  | dictComp key value generators => key :: value :: generators
  | await value => [value]
  | yield value => value.toList
  | yieldFrom value => [value]
  | compare left _ comparators => left :: comparators
  | call func args keywords => func :: (args ++ keywords)
  | formattedValue value _ spec | interpolation value _ _ spec => value :: spec.toList
  | joinedText values | templateText values => values
  | constant _ | name _ _ => []
  | member value _ _ => [value]
  | subscript value index _ => [value, index]
  | starred value _ => [value]
  | list elements _ | tuple elements _ => elements
  | slice lower upper step => lower.toList ++ upper.toList ++ step.toList
  | comprehension target iter conditions _ => target :: iter :: conditions
  | handler type _ body => type.toList ++ body
  | arguments posOnly positional rest keywordOnly keywordDefaults keywordRest defaults =>
    posOnly ++ positional ++ rest.toList ++ keywordOnly ++ keywordDefaults.filterMap id ++
      keywordRest.toList ++ defaults
  | argument _ declared => declared.toList
  | keyword _ value => [value]
  | importedName _ _ => []
  | withItem context vars => context :: vars.toList
  | matchCase pattern guard body => pattern :: (guard.toList ++ body)
  | matchValue value => [value]
  | matchSingleton _ => []
  | matchSequence patterns | matchOr patterns => patterns
  | matchMapping keys patterns _ => keys ++ patterns
  | matchClass cls patterns _ attributePatterns => cls :: (patterns ++ attributePatterns)
  | matchStar _ => []
  | matchAs pattern _ => pattern.toList
  | typeVar _ bound fallback => bound.toList ++ fallback.toList
  | paramSpec _ fallback | typeVarTuple _ fallback => fallback.toList

end Form

/-- A construct of the script with the span it was written at. -/
inductive Node where
  | mk (span : Span) (form : Form Node)
deriving Inhabited

namespace Node

def span : Node → Span
  | mk span _ => span

def form : Node → Form Node
  | mk _ form => form

/-- The nodes directly below, in the order they are visited. -/
def children (n : Node) : List Node := n.form.parts

end Node

end LiveSketch

import LiveSketch.Script.Peg
import LiveSketch.Tree.Place

/-!
# The rules of the grammar

The names of all rules, and the few ways in which an alternative makes something of its parts. The
rules themselves are in the modules beside this one, by what they describe.
-/

namespace LiveSketch.Script

/-! ## Names of rules -/

/-- Rules for what stands on lines of its own. -/
inductive StatementRule where
  | file | statements | statement | compound | simpleLine | simple
  | assignment | assignable | augmenting | return | raise | globals | nonlocals | delete | assert
  | importAny | importModules | importFrom | importedNames | importedNameRow | importedName
  | dottedNames | dottedAlias | dottedName
  | block | decorators | classAny | classPlain | functionAny | functionPlain
  | branch | branchElse | otherwise | whileLoop | forLoop | withBlock | withItem
  | tryBlock | handler | groupHandler | finally
  | matchOn | subject | case | guard
  | invalidAssignment | invalidAnnotated | invalidDelete | invalidImportedNames | invalidBlock
  | invalidClass | invalidFunction | invalidBranch | invalidBranchElse | invalidOtherwise
  | invalidWhile | invalidFor | invalidForTarget | invalidWith | invalidWithBlock | invalidWithItem
  | invalidTry | invalidHandler | invalidHandlerBlock | invalidGroupHandlerBlock | invalidFinally
  | invalidMatch | invalidCase
deriving DecidableEq, Hashable, Repr, Inhabited

/-- Rules for the parameters of a function or, with `isLambda`, of an anonymous one. -/
inductive ParameterRule where
  | start | all | slashPlain | slashDefaulted | star | keywordRest | plain | starAnnotated
  | defaulted | maybeDefaulted | one | oneStarAnnotated
  | invalid | invalidHelper | invalidStar | invalidKeywordRest
deriving DecidableEq, Hashable, Repr, Inhabited

/-- Rules for expressions. -/
inductive ExpressionRule where
  | row | one | yield | starRow | starOne | starNamedRow | starNamedOne | assigning | named
  | disjunction | conjunction | inversion | comparison | comparisonStep
  | bitOr | bitXor | bitAnd | shift | sum | term | factor | power | awaited | primary
  | slices | slice | atom | group | lambda | strings | list | tuple | set | dict
  | pairRow | pairOrRest | pair | clauses | clause | listComp | setComp | generator | dictComp
  | arguments | givenRow | namedRow | unpacked | namedOrUnpacked | namedOrRest | defaultValue
  | withoutHunting
  | invalidOne | invalidLegacy | invalidNamed | invalidGroup | invalidComprehension
  | invalidDictComp | invalidPairRow | invalidPair | invalidArguments | invalidNamedArgument
  | invalidDefault
deriving DecidableEq, Hashable, Repr, Inhabited

/-- Rules for what can be bound or removed. -/
inductive TargetRule where
  | starRow | listRow | tupleRow | starOne | withStarAtom | starAtom | single | partOf | primary
  | goesOn | removedRow | removed | removedAtom
deriving DecidableEq, Hashable, Repr, Inhabited

/-- Rules for patterns. -/
inductive PatternRule where
  | top | one | named | alternatives | closed | literal | literalKey | complex | signed | signedReal
  | real | imaginary | capture | captureName | wildcard | value | dotted | nameOrDotted | group
  | sequence | openSequence | row | maybeStar | star | mapping | entries | entry | rest | cls
  | positionalRow | namedRow | namedOne
  | invalidNamed | invalidClass | invalidClassArguments
deriving DecidableEq, Hashable, Repr, Inhabited

/-- The rules of the grammar. -/
inductive Rule where
  | statement (r : StatementRule)
  | parameter (r : ParameterRule) (isLambda : Bool)
  | expression (r : ExpressionRule)
  | target (r : TargetRule)
  | pattern (r : PatternRule)
deriving DecidableEq, Hashable, Repr, Inhabited

instance : Coe StatementRule (Pattern Rule) := ⟨fun r => .rule (.statement r)⟩
instance : Coe ExpressionRule (Pattern Rule) := ⟨fun r => .rule (.expression r)⟩
instance : Coe TargetRule (Pattern Rule) := ⟨fun r => .rule (.target r)⟩
instance : Coe PatternRule (Pattern Rule) := ⟨fun r => .rule (.pattern r)⟩

namespace Pattern

variable {R : Type}

def word (text : String) : Pattern R := .token .keyword (some text)

/-- A word that is a keyword only here. -/
def softWord (text : String) : Pattern R := .token .name (some text)

def mark (text : String) : Pattern R := .token .mark (some text)

def name : Pattern R := .token .name none

def newline : Pattern R := .token .newline none

def indent : Pattern R := .token .indent none

def dedent : Pattern R := .token .dedent none

/-- Once or more, with commas between. -/
def commas (p : Pattern R) : Pattern R := .separated (mark ",") p

end Pattern

/-! ## Parts -/

namespace Part

def asNode : Part → Node
  | .node n => n
  | _ => default

/-- The node of a part that may be missing. -/
def asNode? : Part → Option Node
  | .node n => some n
  | _ => none

def asRow : Part → List Part
  | .row ps => ps
  | _ => []

def asNodes (p : Part) : List Node := p.asRow.filterMap asNode?

def asToken : Part → Token
  | .token t => t
  | _ => default

def isThere : Part → Bool
  | .nothing => false
  | _ => true

/-- The text of a token that may be missing. -/
def text? : Part → Option String
  | .token t => some t.text
  | _ => none

def span : Part → Span
  | .token t => ⟨some t.line, t.column.map Int.ofNat, some t.endLine, t.endColumn.map Int.ofNat⟩
  | .node n => n.span
  | _ => .unknown

end Part

namespace Parts

def part (ps : Parts) (k : Nat) : Part := (ps[k]?).getD .nothing

def node (ps : Parts) (k : Nat) : Node := (ps.part k).asNode

def node? (ps : Parts) (k : Nat) : Option Node := (ps.part k).asNode?

/-- The nodes of the row at a place. -/
def nodes (ps : Parts) (k : Nat) : List Node := (ps.part k).asNodes

def text (ps : Parts) (k : Nat) : String := (ps.part k).asToken.text

/-- The text of the token at a place, if there is one. -/
def text? (ps : Parts) (k : Nat) : Option String := (ps.part k).text?

end Parts

def Site.span (s : Site) : Span :=
  ⟨some s.first.line, s.first.column.map Int.ofNat, some s.last.endLine,
    s.last.endColumn.map Int.ofNat⟩

/-! ## Alternatives -/

/-- An alternative that makes a node over its bounds. -/
def making {R : Type} (ps : List (Pattern R)) (form : Parts → Form Node) : Alternative R :=
  ⟨ps, fun s parts => .part (.node (.mk s.span (form parts))) [], false⟩

def giving {R : Type} (ps : List (Pattern R)) (part : Parts → Part) : Alternative R :=
  ⟨ps, fun _ parts => .part (part parts) [], false⟩

/-- An alternative that is what its part at a place is. -/
def taking {R : Type} (place : Nat) (ps : List (Pattern R)) : Alternative R :=
  giving ps fun parts => parts.part place

def being {R : Type} (p : Pattern R) : Alternative R := taking 0 [p]

/-- An alternative that describes a fault; `none` where after all there is none. -/
def hunting {R : Type} (ps : List (Pattern R)) (blame : Site → Parts → Option Blame) :
    Alternative R :=
  ⟨ps, fun s parts => match blame s parts with
    | some b => .blame b []
    | none => .none, false⟩

/-- A rule without anything special. -/
def rule {R : Type} (alternatives : List (Alternative R)) : RuleBody R :=
  ⟨alternatives, [], false, false⟩

/-- A rule that is remembered across modes of reading. -/
def sharedRule {R : Type} (alternatives : List (Alternative R)) : RuleBody R :=
  ⟨alternatives, [], true, false⟩

/-- A rule that may begin with itself. -/
def leftRule {R : Type} (alternatives tails : List (Alternative R)) : RuleBody R :=
  ⟨alternatives, tails, true, false⟩

/-- A rule that only describes faults, where it is tried in the second reading alone. -/
def invalid {R : Type} (p : Pattern R) : Alternative R := { being p with hunts := true }

/-! ## Blame -/

/-- Blames the stretch from one part to another. -/
def blameRange (first last : Part) (message : String) : Blame :=
  let a := first.span
  let b := last.span
  .stretch message (a.line.getD 1) (a.column.getD (-1)) (b.endLine.getD 1) b.endColumn

def blameAt (p : Part) (message : String) : Blame := blameRange p p message

/-- Blames everything from a part on. -/
def blameFrom (p : Part) (message : String) : Blame :=
  .onward message (p.span.line.getD 1) (p.span.column.getD (-1))

/-- The words for a block that is missing after something on a line. -/
def blockMissing (after : String) (opening : Part) : Blame :=
  .lastRead ("expected an indented block after " ++ after ++ " on line " ++
    toString opening.asToken.line)

/-! ## Kinds of nodes -/

/-- What an expression is called where it cannot be bound. -/
def kindName (n : Node) : String :=
  match n.form with
  | .member .. => "attribute"
  | .subscript .. => "subscript"
  | .starred .. => "starred"
  | .name .. => "name"
  | .list .. => "list"
  | .tuple .. => "tuple"
  | .lambda .. => "lambda"
  | .call .. => "function call"
  | .connect .. | .binary .. | .unary .. => "expression"
  | .generatorExp .. => "generator expression"
  | .yield .. | .yieldFrom .. => "yield expression"
  | .await .. => "await expression"
  | .listComp .. => "list comprehension"
  | .setComp .. => "set comprehension"
  | .dictComp .. => "dict comprehension"
  | .dict .. => "dict literal"
  | .set .. => "set display"
  | .joinedText .. | .formattedValue .. => "f-string expression"
  | .constant .none => "None"
  | .constant (.bool true) => "True"
  | .constant (.bool false) => "False"
  | .constant .ellipsis => "ellipsis"
  | .constant _ => "literal"
  | .compare .. => "comparison"
  | .ifExp .. => "conditional expression"
  | .namedExpr .. => "named expression"
  | _ => "expression"

/-- What a search for a wrong target looks at. -/
inductive TargetUse where
  | assigned | loopVariable | removed
deriving DecidableEq, Repr

mutual

/-- The first part of an expression that cannot be a target. -/
def wrongTarget? (u : TargetUse) : Node → Option Node
  | .mk _ (.list elements _) => wrongTargetIn? u elements
  | .mk _ (.tuple elements _) => wrongTargetIn? u elements
  | .mk span (.starred value access) =>
    if u = .removed then some (.mk span (.starred value access)) else wrongTarget? u value
  | .mk span (.compare left ops rest) =>
    if u = .loopVariable then
      if ops.head? = some .in then wrongTarget? u left else none
    else some (.mk span (.compare left ops rest))
  | .mk _ (.name _ _) | .mk _ (.subscript _ _ _) | .mk _ (.member _ _ _) => none
  | other => some other

/-- The first part of a row of expressions that cannot be a target. -/
def wrongTargetIn? (u : TargetUse) : List Node → Option Node
  | [] => none
  | n :: rest => (wrongTarget? u n).or (wrongTargetIn? u rest)

end

/-- Blames the first part that cannot be a target. -/
def blameTarget (u : TargetUse) (n : Node) : Option Blame :=
  (wrongTarget? u n).map fun wrong =>
    blameAt (.node wrong) ((if u = .removed then "cannot delete " else "cannot assign to ") ++
      kindName wrong)

/-! ## Access -/

mutual

/-- The node as a target: with another access where that is recorded. -/
def withAccess (a : Access) : Node → Node
  | .mk span form => match form with
    | .name id _ => .mk span (.name id a)
    | .member value name _ => .mk span (.member value name a)
    | .subscript value index _ => .mk span (.subscript value index a)
    | .starred value _ => .mk span (.starred (withAccess a value) a)
    | .list elements _ => .mk span (.list (withAccessAll a elements) a)
    | .tuple elements _ => .mk span (.tuple (withAccessAll a elements) a)
    | form => .mk span form

def withAccessAll (a : Access) : List Node → List Node
  | [] => []
  | n :: rest => withAccess a n :: withAccessAll a rest

end

/-- A name to be read, as written by a token. -/
def nameOf (t : Part) (a : Access) : Node := .mk t.span (.name t.asToken.text a)

end LiveSketch.Script

import LiveSketch.Script.Grammar.Expression

/-!
# Statements

What stands on lines of its own. A statement with a block begins with a keyword and ends its first
line with a colon; the block is deeper, or stands on the same line.
-/

namespace LiveSketch.Script

open Pattern

/-! ## Parts of statements -/

/-- The marks that change a target by an operator. -/
def augmentedMarks : List (String × BinaryOperator) :=
  [("+=", .add), ("-=", .sub), ("*=", .mult), ("@=", .matMult), ("/=", .div), ("%=", .mod),
    ("&=", .bitAnd), ("|=", .bitOr), ("^=", .bitXor), ("<<=", .leftShift), (">>=", .rightShift),
    ("**=", .pow), ("//=", .floorDiv)]

/-- The operator of a mark that changes a target. -/
def augmentedOperator (text : String) : BinaryOperator := (augmentedMarks.lookup text).getD .add

def decorated (decorators : List Node) : Node → Node
  | .mk span form => .mk span (match form with
    | .functionDef isAsync name arguments body _ returns typeParams =>
      .functionDef isAsync name arguments body decorators returns typeParams
    | .classDef name bases keywords body _ typeParams =>
      .classDef name bases keywords body decorators typeParams
    | form => form)

/-- The number of packages that marks of points go up. -/
def pointCount (points : List Part) : Int :=
  (points.map fun p => if p.asToken.text == "..." then 3 else 1).sum

def dottedToken (parts : List Part) : Part :=
  match parts with
  | .token t :: rest => .token { t with
      text := ".".intercalate (t.text :: rest.map fun p => p.asToken.text) }
  | _ => .nothing

/-- Blames what was read last for a missing colon. -/
def missingColon (_ : Site) (_ : Parts) : Option Blame := some (.lastRead "expected ':'")

/-- Describes a block that is missing after these patterns; the statement opens at a place. -/
def missingBlock (place : Nat) (ps : List (Pattern Rule)) (what : String) : Alternative Rule :=
  hunting (ps ++ [newline, notAhead indent]) fun _ parts => blockMissing what (parts.part place)

/-! ## Faults -/

/-- Something bound to a name, as a pattern. -/
def bound (p target : Pattern Rule) : Pattern Rule := .all [p, .optional (.all [word "as", target])]

/-- The rules that only describe faults in statements. -/
def wrongStatementRule (r : StatementRule) : RuleBody Rule :=
  let e (r : ExpressionRule) : Pattern Rule := .rule (.expression r)
  let s (r : StatementRule) : Pattern Rule := .rule (.statement r)
  let t (r : TargetRule) : Pattern Rule := .rule (.target r)
  let p (r : PatternRule) : Pattern Rule := .rule (.pattern r)
  let anyAsync : Pattern Rule := .optional (word "async")
  let anyValue : Pattern Rule := .either [e .yield, e .starRow]
  let targets : Pattern Rule := many 0 (.all [t .starRow, mark "="])
  let asName : Pattern Rule := .optional (.all [word "as", name])
  match r with
  | .invalidAssignment => rule
    [hunting [s .invalidAnnotated, mark ":", e .one] fun _ ps =>
      blameAt (ps.part 0) ("only single target (not " ++ kindName (ps.node 0) ++
        ") can be annotated"),
     hunting [e .starNamedOne, mark ",", many 0 (e .starNamedRow), mark ":", e .one] fun _ ps =>
      blameAt (ps.part 0) "only single target (not tuple) can be annotated",
     hunting [e .one, mark ":", e .one] fun _ ps =>
      blameAt (ps.part 0) "illegal target for annotation",
     hunting [targets, e .starRow, mark "="] fun _ ps => blameTarget .assigned (ps.node 1),
     hunting [targets, e .yield, mark "="] fun _ ps =>
      blameAt (ps.part 1) "assignment to yield expression not possible",
     hunting [e .starRow, s .augmenting, anyValue] fun _ ps =>
      blameAt (ps.part 0) ("'" ++ kindName (ps.node 0) ++
        "' is an illegal expression for augmented assignment")]
  | .invalidAnnotated => rule
    [being (e .list), being (e .tuple), taking 1 [mark "(", s .invalidAnnotated, mark ")"]]
  | .invalidDelete => rule
    [hunting [word "del", e .starRow] fun _ ps => blameTarget .removed (ps.node 1)]
  | .invalidImportedNames => rule
    [hunting [s .importedNameRow, mark ",", newline] fun _ _ =>
      some (.lastRead "trailing comma not allowed without surrounding parentheses")]
  | .invalidBlock => rule
    [hunting [newline, notAhead indent] fun _ _ => some (.lastRead "expected an indented block")]
  | .invalidClass =>
    let head : List (Pattern Rule) := [word "class", name,
      .optional (.all [mark "(", .optional (e .arguments), mark ")"])]
    rule [hunting (head ++ [newline]) missingColon,
      missingBlock 0 (head ++ [mark ":"]) "class definition"]
  | .invalidFunction => rule
    [missingBlock 1 [anyAsync, word "def", name, mark "(",
      .optional (.rule (.parameter .start false)), mark ")", .optional (.all [mark "->", e .one]),
      mark ":"] "function definition"]
  | .invalidBranch => rule
    [hunting [word "if", e .named, newline] missingColon,
     missingBlock 0 [word "if", e .named, mark ":"] "'if' statement"]
  | .invalidBranchElse => rule
    [hunting [word "elif", e .named, newline] missingColon,
     missingBlock 0 [word "elif", e .named, mark ":"] "'elif' statement"]
  | .invalidOtherwise => rule [missingBlock 0 [word "else", mark ":"] "'else' statement"]
  | .invalidWhile => rule
    [hunting [word "while", e .named, newline] missingColon,
     missingBlock 0 [word "while", e .named, mark ":"] "'while' statement"]
  | .invalidFor =>
    let head : List (Pattern Rule) := [anyAsync, word "for", t .starRow, word "in", e .starRow]
    rule [hunting (head ++ [newline]) missingColon,
      missingBlock 1 (head ++ [mark ":"]) "'for' statement"]
  | .invalidForTarget => rule
    [hunting [anyAsync, word "for", e .starRow] fun _ ps => blameTarget .loopVariable (ps.node 2)]
  | .invalidWith => rule
    [hunting [anyAsync, word "with", commas (bound (e .one) (t .starOne)), newline] missingColon,
     hunting [anyAsync, word "with", mark "(", commas (bound (e .row) (t .starOne)),
      .optional (mark ","), mark ")", newline] missingColon]
  | .invalidWithBlock => rule
    [missingBlock 1 [anyAsync, word "with", commas (bound (e .one) (t .starOne)), mark ":"]
      "'with' statement",
     missingBlock 1 [anyAsync, word "with", mark "(", commas (bound (e .row) (t .starOne)),
      .optional (mark ","), mark ")", mark ":"] "'with' statement"]
  | .invalidWithItem => rule
    [hunting [e .one, word "as", e .one, ahead (.either [mark ",", mark ")", mark ":"])] fun _ ps =>
      blameTarget .assigned (ps.node 2)]
  | .invalidTry =>
    let both := "cannot have both 'except' and 'except*' on the same 'try'"
    rule
    [missingBlock 0 [word "try", mark ":"] "'try' statement",
     hunting [word "try", mark ":", s .block, notAhead (.either [word "except", word "finally"])]
      fun _ _ => some (.lastRead "expected 'except' or 'finally' block"),
     hunting [word "try", mark ":", many 0 (s .block), many 1 (s .handler), word "except", mark "*",
      e .one, asName, mark ":"] fun _ ps => blameRange (ps.part 4) (ps.part 5) both,
     hunting [word "try", mark ":", many 0 (s .block), many 1 (s .groupHandler), word "except",
      .optional (.all [e .one, asName]), mark ":"] fun _ ps => blameAt (ps.part 4) both]
  | .invalidHandler => rule
    [hunting [word "except", .optional (mark "*"), e .one, mark ",", e .row, asName, mark ":"]
      fun _ ps => blameFrom (ps.part 2) "multiple exception types must be parenthesized",
     hunting [word "except", .optional (mark "*"), e .one, asName, newline] missingColon,
     hunting [word "except", newline] missingColon,
     hunting [word "except", mark "*", .either [newline, mark ":"]] fun _ _ =>
      some (.lastRead "expected one or more exception types")]
  | .invalidHandlerBlock => rule
    [missingBlock 0 [word "except", e .one, asName, mark ":"] "'except' statement",
     missingBlock 0 [word "except", mark ":"] "'except' statement"]
  | .invalidGroupHandlerBlock => rule
    [missingBlock 0 [word "except", mark "*", e .one, asName, mark ":"] "'except*' statement"]
  | .invalidFinally => rule [missingBlock 0 [word "finally", mark ":"] "'finally' statement"]
  | .invalidMatch => rule
    [hunting [softWord "match", s .subject, newline] missingColon,
     missingBlock 0 [softWord "match", s .subject, mark ":"] "'match' statement"]
  | _ =>
    let head : List (Pattern Rule) := [softWord "case", p .top, .optional (s .guard)]
    rule [hunting (head ++ [newline]) missingColon,
      missingBlock 0 (head ++ [mark ":"]) "'case' statement"]

/-! ## The rules -/

/-- Rules for definitions, imports and other statements on one line. -/
def simpleStatementRule (r : StatementRule) : RuleBody Rule :=
  let e (r : ExpressionRule) : Pattern Rule := .rule (.expression r)
  let s (r : StatementRule) : Pattern Rule := .rule (.statement r)
  let t (r : TargetRule) : Pattern Rule := .rule (.target r)
  let anyValue : Pattern Rule := s .assignable
  let names : Pattern Rule := commas name
  let texts (p : Part) : List String := p.asRow.map fun n => n.asToken.text
  let point : Pattern Rule := .either [mark ".", mark "..."]
  let led (words : List String) (by_ : StatementRule) : Alternative Rule :=
    taking 1 [ahead (.either (words.map word)), s by_]
  match r with
  | .simpleLine => rule
    [giving [s .simple, notAhead (mark ";"), newline] fun ps => .row [ps.part 0],
     taking 0 [.separated (mark ";") (s .simple), .optional (mark ";"), newline]]
  | .simple => sharedRule
    [being (s .assignment), making [e .starRow] fun ps => .expression (ps.node 0),
     led ["return"] .return, led ["import", "from"] .importAny, led ["raise"] .raise,
     making [word "pass"] fun _ => .pass,
     led ["del"] .delete,
     making [ahead (word "yield"), e .yield] fun ps => .expression (ps.node 1),
     led ["assert"] .assert,
     making [word "break"] fun _ => .leaveLoop,
     making [word "continue"] fun _ => .nextRound,
     led ["global"] .globals, led ["nonlocal"] .nonlocals]
  | .assignment =>
    let value : Pattern Rule := .optional (pick 1 [mark "=", anyValue])
    rule
    [making [name, mark ":", e .one, value] fun ps =>
      .annAssign (nameOf (ps.part 0) .store) (ps.node 2) (ps.node? 3) true,
     making [.either [pick 1 [mark "(", t .single, mark ")"], t .partOf], mark ":", e .one, value]
      fun ps => .annAssign (ps.node 0) (ps.node 2) (ps.node? 3) false,
     making [many 1 (pick 0 [t .starRow, mark "="]), anyValue, notAhead (mark "=")] fun ps =>
      .assign (ps.nodes 0) (ps.node 1),
     making [t .single, s .augmenting, .commit, anyValue] fun ps =>
      .augAssign (ps.node 0) (augmentedOperator (ps.text 1)) (ps.node 2),
     invalid (s .invalidAssignment)]
  | .assignable => rule [being (e .yield), being (e .starRow)]
  | .augmenting => rule (augmentedMarks.map fun m => being (mark m.1))
  | .return => rule [making [word "return", .optional (e .starRow)] fun ps => .ret (ps.node? 1)]
  | .raise => rule
    [making [word "raise", e .one, .optional (pick 1 [word "from", e .one])] fun ps =>
      .raise (ps.node? 1) (ps.node? 2),
     making [word "raise"] fun _ => .raise none none]
  | .globals => rule [making [word "global", names] fun ps => .globals (texts (ps.part 1))]
  | .nonlocals => rule [making [word "nonlocal", names] fun ps => .nonlocals (texts (ps.part 1))]
  | .delete => rule
    [making [word "del", t .removedRow, ahead (.either [mark ";", newline])] fun ps =>
      .delete (ps.nodes 1),
     invalid (s .invalidDelete)]
  | .assert => rule
    [making [word "assert", e .one, .optional (pick 1 [mark ",", e .one])] fun ps =>
      .assert (ps.node 1) (ps.node? 2)]
  | .importAny => rule [being (s .importModules), being (s .importFrom)]
  | .importModules => rule
    [making [word "import", s .dottedNames] fun ps => .importModules (ps.nodes 1)]
  | .importFrom => rule
    [making [word "from", many 0 point, s .dottedName, word "import", s .importedNames] fun ps =>
      .importFrom (ps.text? 2) (ps.nodes 4) (some (pointCount (ps.part 1).asRow)),
     making [word "from", many 1 point, word "import", s .importedNames] fun ps =>
      .importFrom none (ps.nodes 3) (some (pointCount (ps.part 1).asRow))]
  | .importedNames => rule
    [taking 1 [mark "(", s .importedNameRow, .optional (mark ","), mark ")"],
     taking 0 [s .importedNameRow, notAhead (mark ",")],
     giving [mark "*"] fun ps => .row [.node (.mk (ps.part 0).span (.importedName "*" none))],
     invalid (s .invalidImportedNames)]
  | .importedNameRow => rule [being (commas (s .importedName))]
  | .importedName => rule
    [making [name, .optional (pick 1 [word "as", name])] fun ps =>
      .importedName (ps.text 0) (ps.text? 1)]
  | .dottedNames => rule [being (commas (s .dottedAlias))]
  | .dottedAlias => rule
    [making [s .dottedName, .optional (pick 1 [word "as", name])] fun ps =>
      .importedName (ps.text 0) (ps.text? 1)]
  | .dottedName => rule
    [giving [.separated (mark ".") name] fun ps => dottedToken (ps.part 0).asRow]
  | wrong => wrongStatementRule wrong

def statementRule (r : StatementRule) : RuleBody Rule :=
  let e (r : ExpressionRule) : Pattern Rule := .rule (.expression r)
  let s (r : StatementRule) : Pattern Rule := .rule (.statement r)
  let t (r : TargetRule) : Pattern Rule := .rule (.target r)
  let body (p : Part) : List Node := p.asNodes
  let colon : Pattern Rule := mark ":"
  let orelse : Pattern Rule := .optional (s .otherwise)
  let led (words : List String) (by_ : StatementRule) : Alternative Rule :=
    taking 1 [ahead (.either (words.map fun w => if w == "@" then mark w else word w)), s by_]
  /- With and without a word in front that makes the statement wait. -/
  let both (alternative : Bool → List (Pattern Rule) → Alternative Rule) :
      List (Alternative Rule) := [alternative false [], alternative true [word "async"]]
  match r with
  | .file => rule
    [making [.optional (s .statements), .token .finish none] fun ps => .module (ps.nodes 0)]
  | .statements => rule
    [giving [many 1 (s .statement)] fun ps => .row ((ps.part 0).asRow.flatMap Part.asRow)]
  | .statement => rule
    [giving [s .compound] fun ps => .row [ps.part 0], being (s .simpleLine)]
  | .compound => rule
    [led ["def", "@", "async"] .functionAny, led ["if"] .branch, led ["class", "@"] .classAny,
     led ["with", "async"] .withBlock, led ["for", "async"] .forLoop, led ["try"] .tryBlock,
     led ["while"] .whileLoop, being (s .matchOn)]
  | .block => sharedRule
    [taking 2 [newline, indent, s .statements, dedent], being (s .simpleLine),
     invalid (s .invalidBlock)]
  | .decorators => rule [being (many 1 (pick 1 [mark "@", e .named, newline]))]
  | .classAny => rule
    [giving [s .decorators, s .classPlain] fun ps => .node (decorated (ps.nodes 0) (ps.node 1)),
     being (s .classPlain)]
  | .classPlain => rule
    [invalid (s .invalidClass),
     making [word "class", name,
        .optional (pick 1 [mark "(", .optional (e .arguments), mark ")"]), colon, s .block] fun ps =>
      let (bases, keywords) := givenTo (ps.node 2)
      .classDef (ps.text 1) bases keywords (body (ps.part 4)) [] []]
  | .functionAny => rule
    [giving [s .decorators, s .functionPlain] fun ps =>
      .node (decorated (ps.nodes 0) (ps.node 1)),
     being (s .functionPlain)]
  | .functionPlain => rule (invalid (s .invalidFunction) :: both fun isAsync front =>
      making (front ++ [word "def", name, .forced "(", .optional (.rule (.parameter .start false)),
        mark ")", .optional (pick 1 [mark "->", e .one]), .forced ":", s .block]) fun ps =>
      let ps : Parts := ps.drop front.length
      .functionDef isAsync (ps.text 1) ((ps.node? 3).getD noArguments) (body (ps.part 7)) []
        (ps.node? 5) [])
  | .branch => rule
    [invalid (s .invalidBranch),
     making [word "if", e .named, colon, s .block, s .branchElse] fun ps =>
      .branch (ps.node 1) (body (ps.part 3)) [ps.node 4],
     making [word "if", e .named, colon, s .block, orelse] fun ps =>
      .branch (ps.node 1) (body (ps.part 3)) (body (ps.part 4))]
  | .branchElse => rule
    [invalid (s .invalidBranchElse),
     making [word "elif", e .named, colon, s .block, s .branchElse] fun ps =>
      .branch (ps.node 1) (body (ps.part 3)) [ps.node 4],
     making [word "elif", e .named, colon, s .block, orelse] fun ps =>
      .branch (ps.node 1) (body (ps.part 3)) (body (ps.part 4))]
  | .otherwise => rule
    [invalid (s .invalidOtherwise), taking 2 [word "else", .forced ":", s .block]]
  | .whileLoop => rule
    [invalid (s .invalidWhile),
     making [word "while", e .named, colon, s .block, orelse] fun ps =>
      .whileLoop (ps.node 1) (body (ps.part 3)) (body (ps.part 4))]
  | .forLoop => rule (invalid (s .invalidFor) :: (both fun isAsync front =>
      making (front ++ [word "for", t .starRow, word "in", .commit, e .starRow, colon, s .block,
        orelse]) fun ps =>
      let ps : Parts := ps.drop front.length
      .forLoop isAsync (ps.node 1) (ps.node 3) (body (ps.part 5)) (body (ps.part 6))) ++
      [invalid (s .invalidForTarget)])
  | .withBlock => rule (invalid (s .invalidWithBlock) ::
      ((both fun isAsync front => making (front ++ [word "with", mark "(", commas (s .withItem),
          .optional (mark ","), mark ")", colon, s .block]) fun ps =>
        let ps : Parts := ps.drop front.length
        .withBlock isAsync (ps.nodes 2) (body (ps.part 6))) ++
      (both fun isAsync front => making (front ++ [word "with", commas (s .withItem), colon,
          s .block]) fun ps =>
        let ps : Parts := ps.drop front.length
        .withBlock isAsync (ps.nodes 1) (body (ps.part 3))) ++
      [invalid (s .invalidWith)]))
  | .withItem => rule
    [giving [e .one, word "as", t .starOne, ahead (.either [mark ",", mark ")", mark ":"])] fun ps =>
      .node (.mk .unknown (.withItem (ps.node 0) (ps.node? 2))),
     invalid (s .invalidWithItem),
     giving [e .one] fun ps => .node (.mk .unknown (.withItem (ps.node 0) none))]
  | .tryBlock =>
    let handled (star : Bool) (by_ : StatementRule) : Alternative Rule :=
      making [word "try", .forced ":", s .block, many 1 (s by_), orelse,
          .optional (s .finally)] fun ps =>
        .tryBlock star (body (ps.part 2)) (ps.nodes 3) (body (ps.part 4)) (body (ps.part 5))
    rule
    [invalid (s .invalidTry),
     making [word "try", .forced ":", s .block, s .finally] fun ps =>
      .tryBlock false (body (ps.part 2)) [] [] (body (ps.part 3)),
     handled false .handler, handled true .groupHandler]
  | .handler => rule
    [invalid (s .invalidHandlerBlock),
     making [word "except", e .one, .optional (pick 1 [word "as", name]), colon, s .block] fun ps =>
      .handler (ps.node? 1) (ps.text? 2) (body (ps.part 4)),
     making [word "except", colon, s .block] fun ps => .handler none none (body (ps.part 2)),
     invalid (s .invalidHandler)]
  | .groupHandler => rule
    [invalid (s .invalidGroupHandlerBlock),
     making [word "except", mark "*", e .one, .optional (pick 1 [word "as", name]), colon, s .block]
      fun ps => .handler (ps.node? 2) (ps.text? 3) (body (ps.part 5)),
     invalid (s .invalidHandler)]
  | .finally => rule
    [invalid (s .invalidFinally), taking 2 [word "finally", .forced ":", s .block]]
  | .matchOn => rule
    [making [softWord "match", s .subject, colon, newline, indent, many 1 (s .case), dedent]
      fun ps => .matchOn (ps.node 1) (ps.nodes 5),
     invalid (s .invalidMatch)]
  | .subject => rule
    [making [e .starNamedOne, mark ",", .optional (e .starNamedRow)] fun ps =>
      .tuple (ps.node 0 :: ps.nodes 2) .load,
     being (e .named)]
  | .case => rule
    [invalid (s .invalidCase),
     giving [softWord "case", PatternRule.top, .optional (s .guard), colon, s .block] fun ps =>
      .node (.mk .unknown (.matchCase (ps.node 1) (ps.node? 2) (body (ps.part 4))))]
  | .guard => rule [taking 1 [word "if", e .named]]
  | other => simpleStatementRule other

end LiveSketch.Script

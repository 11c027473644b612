import LiveSketch.Script.Grammar.Parameter
import LiveSketch.Text.Whole

/-!
# Expressions

From the weakest binding to the strongest, and then what stands in brackets.
-/

namespace LiveSketch.Script

open Pattern

/-! ## Parts of expressions -/

/-- The operator of one step of a comparison, by its first word and the one that may follow. -/
def comparisonOf (first : String) (second : Option String) : Comparison :=
  match first, second with
  | "==", _ => .eq
  | "!=", _ => .notEq
  | "<=", _ => .ltE
  | "<", _ => .lt
  | ">=", _ => .gtE
  | ">", _ => .gt
  | "in", _ => .in
  | "not", _ => .notIn
  | "is", some _ => .isNot
  | _, _ => .is

def comparisonForm (left : Node) (steps : List Part) : Form Node :=
  let parts : List Parts := steps.map Part.asRow
  .compare left (parts.map fun ps => comparisonOf (ps.text 0) (ps.text? 1))
    (parts.map fun ps => ps.node 2)

/-- A rule for operators of one strength, applied from left to right. -/
def operatorRule (stronger : ExpressionRule) (operators : List (String × BinaryOperator)) :
    RuleBody Rule :=
  leftRule [being stronger] (operators.map fun (text, op) =>
    making [mark text, stronger] fun ps => .binary (ps.node 0) op (ps.node 2))

def connectiveRule (text : String) (op : Connective) (stronger : ExpressionRule) : RuleBody Rule :=
  sharedRule
    [making [stronger, many 1 (pick 1 [word text, stronger])] fun ps =>
      .connect op (ps.node 0 :: ps.nodes 1),
     being stronger]

/-- A rule for elements in a row: more than one, or one with a comma, make a tuple. -/
def tupleRowRule (element : ExpressionRule) : RuleBody Rule :=
  rule
    [making [element, many 1 (pick 1 [mark ",", element]), .optional (mark ",")] fun ps =>
      .tuple (ps.node 0 :: ps.nodes 1) .load,
     making [element, mark ","] fun ps => .tuple [ps.node 0] .load,
     being element]

/-- A step of a comparison with these words. -/
def stepOf (words : List (Pattern Rule)) : Alternative Rule :=
  giving (words ++ [.rule (.expression .bitOr)]) fun ps =>
    .row [ps.part 0, if words.length = 1 then .nothing else ps.part 1, ps.part words.length]

def numberForm (t : String) : Form Node :=
  .constant (match numberValue t with
    | .whole n => .int n
    | .real x => .float x
    | .imaginary x => .imaginary x)

/-- A number as a node, unless it is a whole one of too many decimal digits. -/
def numberBuilt (s : Site) (t : String) : Built :=
  let digits := t.toList.filter (· != '_')
  if maxWholeDigits < digits.length && digits.all Char.isDigit then
    .fault ⟨tooManyDigits digits.length ++ " - Consider hexadecimal for huge integer literals to " ++
      "avoid decimal conversion limits.", some s.first.line, some 0, some s.first.endLine, some 0,
      none⟩ []
  else .part (.node (.mk s.span (numberForm t))) []

/-- The arguments of a call that were given by place. -/
def isPlaced (n : Node) : Bool :=
  match n.form with
  | .keyword .. => false
  | _ => true

/-- The last part of a row of comprehension clauses. -/
def lastOfClauses (clauses : List Node) : Part :=
  match clauses.getLast?.map Node.form with
  | some (.comprehension _ iter conditions _) => .node (conditions.getLast?.getD iter)
  | _ => .nothing

/-- The target of the last of a row of comprehension clauses. -/
def lastTarget (clauses : List Node) : Part :=
  match clauses.getLast?.map Node.form with
  | some (.comprehension target _ _ _) => .node target
  | _ => .nothing

/-- The arguments and the named arguments of a call. -/
def givenTo (call : Node) : List Node × List Node :=
  match call.form with
  | .call _ arguments keywords => (arguments, keywords)
  | _ => ([], [])

/-- The call of nothing yet with some arguments. -/
def callForm (given : List Node) : Form Node :=
  .call (.mk .unknown (.name "" .load)) (given.filter isPlaced) (given.filter (!isPlaced ·))

/-- The words of a statement of old that look like a call without brackets. -/
def isLegacy (n : Node) : Bool :=
  match n.form with
  | .name id _ => id == "print" || id == "exec"
  | _ => false

/-- The words for a comparison or a named expression that was written like an assignment. -/
def meantEqual : String := "invalid syntax. Maybe you meant '==' or ':=' instead of '='?"

/-- The words for a generator without brackets among other arguments. -/
def bareGenerator : String := "Generator expression must be parenthesized"

/-- The words for a row without brackets in front of a comprehension. -/
def bareTarget : String := "did you forget parentheses around the comprehension target?"

/-! ## The rules -/

/-- The rules that only describe faults in expressions. -/
def wrongExpressionRule (r : ExpressionRule) : RuleBody Rule :=
  let e (r : ExpressionRule) : Pattern Rule := .rule (.expression r)
  let opening (marks : List String) : Pattern Rule := .either (marks.map mark)
  let endsValue : Pattern Rule := ahead (opening ["\x7d", ","])
  let noEqual : Pattern Rule := notAhead (opening ["=", ":="])
  let constants : List (Pattern Rule) := [word "True", word "None", word "False"]
  match r with
  | .invalidOne => rule
    [hunting [notAhead (.either ([.all [name, .token .string none]] ++ softKeywords.map softWord)),
        e .disjunction, e .withoutHunting] fun s ps =>
      if isLegacy (ps.node 1) || s.last.depth == 0 then none
      else some (blameRange (ps.part 1) (ps.part 2) "invalid syntax. Perhaps you forgot a comma?"),
     hunting [e .disjunction, word "if", e .disjunction,
        notAhead (.either [word "else", mark ":"])] fun _ ps =>
      blameRange (ps.part 0) (ps.part 2) "expected 'else' after 'if' expression"]
  | .invalidLegacy => rule
    [hunting [name, notAhead (mark "("), e .starRow] fun _ ps =>
      let text := ps.text 0
      if text == "print" || text == "exec" then
        some (blameRange (ps.part 0) (ps.part 2) ("Missing parentheses in call to '" ++ text ++
          "'. Did you mean " ++ text ++ "(...)?"))
      else none]
  | .invalidNamed => sharedRule
    [hunting [e .one, mark ":=", e .one] fun _ ps =>
      blameAt (ps.part 0) ("cannot use assignment expressions with " ++ kindName (ps.node 0)),
     hunting [name, mark "=", e .bitOr, noEqual] fun _ ps =>
      blameRange (ps.part 0) (ps.part 2) meantEqual,
     hunting [notAhead (.either ([e .list, e .tuple, e .generator] ++ constants)), e .bitOr,
        mark "=", e .bitOr, noEqual] fun _ ps =>
      blameAt (ps.part 1) ("cannot assign to " ++ kindName (ps.node 1) ++
        " here. Maybe you meant '==' instead of '='?")]
  | .invalidGroup => rule
    [hunting [mark "(", e .unpacked, mark ")"] fun _ ps =>
      blameAt (ps.part 1) "cannot use starred expression here",
     hunting [mark "(", mark "**", e .one, mark ")"] fun _ ps =>
      blameAt (ps.part 1) "cannot use double starred expression here"]
  | .invalidComprehension => rule
    [hunting [opening ["[", "(", "\x7b"], e .unpacked, e .clauses] fun _ ps =>
      blameAt (ps.part 1) "iterable unpacking cannot be used in comprehension",
     hunting [opening ["[", "\x7b"], e .starNamedOne, mark ",", e .starNamedRow, e .clauses]
      fun _ ps => blameRange (ps.part 1) (.node ((ps.nodes 3).getLast?.getD default)) bareTarget,
     hunting [opening ["[", "\x7b"], e .starNamedOne, mark ",", e .clauses] fun _ ps =>
      blameRange (ps.part 1) (ps.part 2) bareTarget]
  | .invalidDictComp => rule
    [hunting [mark "\x7b", mark "**", e .bitOr, e .clauses, mark "\x7d"] fun _ ps =>
      blameAt (ps.part 1) "dict unpacking cannot be used in dict comprehension"]
  | .invalidPairRow => rule
    [being (.all [commas (e .pairOrRest), mark ",", e .invalidPair]),
     hunting [e .one, mark ":", mark "*", e .bitOr] fun _ ps =>
      blameFrom (ps.part 2) "cannot use a starred expression in a dictionary value",
     hunting [e .one, mark ":", endsValue] fun _ ps =>
      blameAt (ps.part 1) "expression expected after dictionary key and ':'"]
  | .invalidPair => rule
    [hunting [e .one, notAhead (mark ":")] fun _ ps =>
      let span := (ps.part 0).span
      some (.stretch "':' expected after dictionary key" (span.line.getD 1)
        (span.endColumn.getD 0 - 1) (span.endLine.getD 1) (some (-1))),
     hunting [e .one, mark ":", mark "*", e .bitOr] fun _ ps =>
      blameFrom (ps.part 2) "cannot use a starred expression in a dictionary value",
     hunting [e .one, mark ":", endsValue] fun _ ps =>
      blameAt (ps.part 1) "expression expected after dictionary key and ':'"]
  | .invalidArguments => rule
    [hunting [e .givenRow, mark ",", mark "*"] fun _ ps =>
      blameAt (ps.part 0) "iterable argument unpacking follows keyword argument unpacking",
     hunting [e .one, e .clauses, mark ",",
        .optional (.either [e .givenRow, .all [e .one, e .clauses]])] fun _ ps =>
      blameRange (ps.part 0) (lastOfClauses (ps.nodes 1)) bareGenerator,
     hunting [name, mark "=", e .one, e .clauses] fun _ ps =>
      blameRange (ps.part 0) (ps.part 1) meantEqual,
     hunting [e .givenRow, e .clauses] fun _ ps =>
      let placed := (givenTo (ps.node 0)).1
      if placed.length ≤ 1 then none
      else some (blameRange (.node (placed.getLast?.getD default)) (lastOfClauses (ps.nodes 1))
        bareGenerator),
     hunting [e .givenRow, mark ",", e .one, e .clauses] fun _ ps =>
      blameRange (ps.part 2) (lastTarget (ps.nodes 3)) bareGenerator,
     hunting [e .givenRow, mark ",", e .givenRow] fun _ ps =>
      let unpacks := (givenTo (ps.node 0)).2.any fun n => match n.form with
        | .keyword none _ => true
        | _ => false
      some (.lastRead ("positional argument follows keyword argument" ++
        (if unpacks then " unpacking" else "")))]
  | .invalidNamedArgument => rule
    [hunting [.either [word "True", word "False", word "None"], mark "="] fun _ ps =>
      blameRange (ps.part 0) (ps.part 1) ("cannot assign to " ++ ps.text 0),
     hunting [name, mark "=", e .one, e .clauses] fun _ ps =>
      blameRange (ps.part 0) (ps.part 1) meantEqual,
     hunting [notAhead (.all [name, mark "="]), e .one, mark "="] fun _ ps =>
      blameRange (ps.part 1) (ps.part 2)
        "expression cannot contain assignment, perhaps you meant \"==\"?"]
  | _ => rule
    [hunting [mark "=", ahead (opening [")", ","])] fun _ ps =>
      blameAt (ps.part 0) "expected default value expression"]

/-- The rules for expressions. `strings` makes one text of string tokens in a row. -/
def expressionRule (strings : List Token → Built) (r : ExpressionRule) : RuleBody Rule :=
  let e (r : ExpressionRule) : Pattern Rule := .rule (.expression r)
  let ternary := making [e .disjunction, word "if", e .disjunction, word "else", e .one] fun ps =>
    .ifExp (ps.node 2) (ps.node 0) (ps.node 4)
  let unassigned : Pattern Rule := .either [e .assigning, pick 0 [e .one, notAhead (mark ":=")]]
  let enclosed (opening : String) (element : Pattern Rule) (closing : String)
      (form : Node → List Node → Form Node) : Alternative Rule :=
    making [mark opening, element, e .clauses, mark closing] fun ps => form (ps.node 1) (ps.nodes 2)
  match r with
  | .row => tupleRowRule .one
  | .one => sharedRule
    [invalid (e .invalidOne), invalid (e .invalidLegacy), ternary, being (e .disjunction),
     being (e .lambda)]
  | .withoutHunting => { rule [ternary, being (e .disjunction), being (e .lambda)] with plain := true }
  | .yield => rule
    [making [word "yield", word "from", e .one] fun ps => .yieldFrom (ps.node 2),
     making [word "yield", .optional (e .starRow)] fun ps => .yield (ps.node? 1)]
  | .starRow => tupleRowRule .starOne
  | .starOne => sharedRule
    [making [mark "*", e .bitOr] fun ps => .starred (ps.node 1) .load, being (e .one)]
  | .starNamedRow => rule [taking 0 [commas (e .starNamedOne), .optional (mark ",")]]
  | .starNamedOne => rule
    [making [mark "*", e .bitOr] fun ps => .starred (ps.node 1) .load, being (e .named)]
  | .assigning => rule
    [making [name, mark ":=", .commit, e .one] fun ps =>
      .namedExpr (nameOf (ps.part 0) .store) (ps.node 2)]
  | .named => rule
    [being (e .assigning), invalid (e .invalidNamed), taking 0 [e .one, notAhead (mark ":=")]]
  | .disjunction => connectiveRule "or" .or .conjunction
  | .conjunction => connectiveRule "and" .and .inversion
  | .inversion => sharedRule
    [making [word "not", e .inversion] fun ps => .unary .not (ps.node 1), being (e .comparison)]
  | .comparison => rule
    [making [e .bitOr, many 1 (e .comparisonStep)] fun ps =>
      comparisonForm (ps.node 0) (ps.part 1).asRow,
     being (e .bitOr)]
  | .comparisonStep => rule
    ((["==", "!=", "<=", "<", ">=", ">"].map fun text => stepOf [mark text]) ++
      [stepOf [word "not", word "in"], stepOf [word "in"], stepOf [word "is", word "not"],
       stepOf [word "is"]])
  | .bitOr => operatorRule .bitXor [("|", .bitOr)]
  | .bitXor => operatorRule .bitAnd [("^", .bitXor)]
  | .bitAnd => operatorRule .shift [("&", .bitAnd)]
  | .shift => operatorRule .sum [("<<", .leftShift), (">>", .rightShift)]
  | .sum => operatorRule .term [("+", .add), ("-", .sub)]
  | .term => operatorRule .factor
    [("*", .mult), ("/", .div), ("//", .floorDiv), ("%", .mod), ("@", .matMult)]
  | .factor => sharedRule
    [making [mark "+", e .factor] fun ps => .unary .plus (ps.node 1),
     making [mark "-", e .factor] fun ps => .unary .minus (ps.node 1),
     making [mark "~", e .factor] fun ps => .unary .invert (ps.node 1),
     being (e .power)]
  | .power => rule
    [making [e .awaited, mark "**", e .factor] fun ps => .binary (ps.node 0) .pow (ps.node 2),
     being (e .awaited)]
  | .awaited => sharedRule
    [making [word "await", e .primary] fun ps => .await (ps.node 1), being (e .primary)]
  | .primary => leftRule [being (e .atom)]
    [making [mark ".", name] fun ps => .member (ps.node 0) (ps.text 2) .load,
     making [e .generator] fun ps => .call (ps.node 0) [ps.node 1] [],
     making [mark "(", .optional (e .arguments), mark ")"] fun ps =>
      let (placed, named) := givenTo (ps.node 2)
      .call (ps.node 0) placed named,
     making [mark "[", e .slices, mark "]"] fun ps => .subscript (ps.node 0) (ps.node 2) .load]
  | .slices => rule
    [taking 0 [e .slice, notAhead (mark ",")],
     making [commas (.either [e .slice, e .unpacked]), .optional (mark ",")] fun ps =>
      .tuple (ps.nodes 0) .load]
  | .slice => rule
    [making [.optional (e .one), mark ":", .optional (e .one),
        .optional (pick 1 [mark ":", .optional (e .one)])] fun ps =>
      .slice (ps.node? 0) (ps.node? 2) (ps.node? 3),
     being (e .named)]
  | .atom => rule
    [making [name] fun ps => .name (ps.text 0) .load,
     making [word "True"] fun _ => .constant (.bool true),
     making [word "False"] fun _ => .constant (.bool false),
     making [word "None"] fun _ => .constant .none,
     taking 1 [ahead (.token .string none), e .strings],
     ⟨[.token .number none], fun s ps => numberBuilt s (ps.text 0), false⟩,
     taking 1 [ahead (mark "("), .either [e .tuple, e .group, e .generator]],
     taking 1 [ahead (mark "["), .either [e .list, e .listComp]],
     taking 1 [ahead (mark "\x7b"), .either [e .dict, e .set, e .dictComp, e .setComp]],
     making [mark "..."] fun _ => .constant .ellipsis]
  | .group => rule
    [taking 1 [mark "(", .either [e .yield, e .named], mark ")"], invalid (e .invalidGroup)]
  | .lambda => rule
    [making [word "lambda", .optional (.rule (.parameter .start true)), mark ":", e .one] fun ps =>
      .lambda ((ps.node? 1).getD noArguments) (ps.node 3)]
  | .strings => sharedRule
    [⟨[many 1 (.token .string none)], fun _ ps => strings ((ps.part 0).asRow.map Part.asToken),
      false⟩]
  | .list => rule
    [making [mark "[", .optional (e .starNamedRow), mark "]"] fun ps => .list (ps.nodes 1) .load]
  | .tuple => rule
    [making [mark "(", .optional (.all [e .starNamedOne, mark ",", .optional (e .starNamedRow)]),
        mark ")"] fun ps =>
      let inner : Parts := (ps.part 1).asRow
      .tuple ((inner.node? 0).toList ++ inner.nodes 2) .load]
  | .set => rule
    [making [mark "\x7b", e .starNamedRow, mark "\x7d"] fun ps => .set (ps.nodes 1)]
  | .dict => rule
    [making [mark "\x7b", .optional (e .pairRow), mark "\x7d"] fun ps =>
      let pairs : List Parts := (ps.part 1).asRow.map Part.asRow
      .dict (pairs.map fun p => p.node? 0) (pairs.map fun p => p.node 1),
     taking 1 [mark "\x7b", e .invalidPairRow, mark "\x7d"]]
  | .pairRow => rule [taking 0 [commas (e .pairOrRest), .optional (mark ",")]]
  | .pairOrRest => rule
    [giving [mark "**", e .bitOr] fun ps => .row [.nothing, ps.part 1], being (e .pair)]
  | .pair => rule [giving [e .one, mark ":", e .one] fun ps => .row [ps.part 0, ps.part 2]]
  | .clauses => rule [being (many 1 (e .clause))]
  | .clause =>
    let going (isAsync : Bool) : Alternative Rule :=
      giving ((if isAsync then [word "async"] else []) ++
        [word "for", TargetRule.starRow, word "in", .commit, e .disjunction,
          many 0 (pick 1 [word "if", e .disjunction])]) fun ps =>
      let ps : Parts := if isAsync then ps.drop 1 else ps
      .node (.mk .unknown (.comprehension (ps.node 1) (ps.node 3) (ps.nodes 4) isAsync))
    rule [going true, going false, invalid StatementRule.invalidForTarget]
  | .listComp => rule
    [enclosed "[" (e .named) "]" .listComp, invalid (e .invalidComprehension)]
  | .setComp => rule
    [enclosed "\x7b" (e .named) "\x7d" .setComp, invalid (e .invalidComprehension)]
  | .generator => rule
    [enclosed "(" unassigned ")" .generatorExp, invalid (e .invalidComprehension)]
  | .dictComp => rule
    [making [mark "\x7b", e .pair, e .clauses, mark "\x7d"] fun ps =>
      let pair : Parts := (ps.part 1).asRow
      .dictComp (pair.node 0) (pair.node 1) (ps.nodes 2),
     invalid (e .invalidDictComp)]
  | .arguments => sharedRule
    [taking 0 [e .givenRow, .optional (mark ","), ahead (mark ")")], invalid (e .invalidArguments)]
  | .givenRow => rule
    [making [commas (.either [e .unpacked, pick 0 [unassigned, notAhead (mark "=")]]),
        .optional (pick 1 [mark ",", e .namedRow])] fun ps => callForm (ps.nodes 0 ++ ps.nodes 1),
     making [e .namedRow] fun ps => callForm (ps.nodes 0)]
  | .namedRow => rule
    [giving [commas (e .namedOrUnpacked), mark ",", commas (e .namedOrRest)] fun ps =>
      .row ((ps.part 0).asRow ++ (ps.part 2).asRow),
     being (commas (e .namedOrUnpacked)), being (commas (e .namedOrRest))]
  | .unpacked => rule [making [mark "*", e .one] fun ps => .starred (ps.node 1) .load]
  | .namedOrUnpacked => rule
    [invalid (e .invalidNamedArgument),
     making [name, mark "=", e .one] fun ps => .keyword (some (ps.text 0)) (ps.node 2),
     being (e .unpacked)]
  | .namedOrRest => rule
    [invalid (e .invalidNamedArgument),
     making [name, mark "=", e .one] fun ps => .keyword (some (ps.text 0)) (ps.node 2),
     making [mark "**", e .one] fun ps => .keyword none (ps.node 1)]
  | .defaultValue => rule [taking 1 [mark "=", e .one], invalid (e .invalidDefault)]
  | wrong => wrongExpressionRule wrong

end LiveSketch.Script

import LiveSketch.Script.Grammar.Basic

/-!
# Parameters

What a function takes: parameters before a slash are given by place only, those after a star by name
only, and one with a value may be left out.
-/

namespace LiveSketch.Script

open Pattern

/-- The node of parameters in their groups. A parameter with a value is a row of both; `star` is the
row of the rest, of the parameters given by name and of the rest by name. -/
def argumentsOf (slashPlain : List Node) (slashDefaulted : List Part) (plain : List Node)
    (defaulted : List Part) (star : Part) : Node :=
  let first (p : Part) : Node := Parts.node p.asRow 0
  let second (p : Part) : Node := Parts.node p.asRow 1
  let byName := (Parts.part star.asRow 1).asRow
  .mk .unknown (.arguments (slashPlain ++ slashDefaulted.map first) (plain ++ defaulted.map first)
    (Parts.node? star.asRow 0) (byName.map first) (byName.map fun p => Parts.node? p.asRow 1)
    (Parts.node? star.asRow 2) (slashDefaulted.map second ++ defaulted.map second))

def noArguments : Node := argumentsOf [] [] [] [] .nothing

/-- The two ways in which a parameter ends: before a comma, or at the end of all. -/
def endings (isLambda : Bool) (ps : List (Pattern Rule)) (part : Parts → Part) :
    List (Alternative Rule) :=
  [giving (ps ++ [mark ","]) part, giving (ps ++ [ahead (mark (if isLambda then ":" else ")"))]) part]

def parameterRule (isLambda : Bool) (r : ParameterRule) : RuleBody Rule :=
  let p (r : ParameterRule) : Pattern Rule := .rule (.parameter r isLambda)
  let value : Pattern Rule := ExpressionRule.defaultValue
  let closing := if isLambda then ":" else ")"
  match r with
  | .start => rule [invalid (p .invalid), being (p .all)]
  | .all => rule
    [giving [p .slashPlain, many 0 (p .plain), many 0 (p .defaulted), .optional (p .star)]
      fun ps => .node (argumentsOf (ps.nodes 0) [] (ps.nodes 1) (ps.part 2).asRow (ps.part 3)),
     giving [p .slashDefaulted, many 0 (p .defaulted), .optional (p .star)] fun ps =>
      let before := (ps.part 0).asRow
      .node (argumentsOf (Parts.nodes before 0) (Parts.part before 1).asRow [] (ps.part 1).asRow
        (ps.part 2)),
     giving [many 1 (p .plain), many 0 (p .defaulted), .optional (p .star)] fun ps =>
      .node (argumentsOf [] [] (ps.nodes 0) (ps.part 1).asRow (ps.part 2)),
     giving [many 1 (p .defaulted), .optional (p .star)] fun ps =>
      .node (argumentsOf [] [] [] (ps.part 0).asRow (ps.part 1)),
     giving [p .star] fun ps => .node (argumentsOf [] [] [] [] (ps.part 0))]
  | .slashPlain => rule (endings isLambda [many 1 (p .plain), mark "/"] fun ps => ps.part 0)
  | .slashDefaulted => rule (endings isLambda
      [many 0 (p .plain), many 1 (p .defaulted), mark "/"] fun ps => .row (ps.take 2))
  | .star => rule
    ([invalid (p .invalidStar),
      giving [mark "*", p .plain, many 0 (p .maybeDefaulted), .optional (p .keywordRest)] fun ps =>
        .row (ps.drop 1)] ++
     (if isLambda then [] else
      [giving [mark "*", p .starAnnotated, many 0 (p .maybeDefaulted), .optional (p .keywordRest)]
        fun ps => .row (ps.drop 1)]) ++
     [giving [mark "*", mark ",", many 1 (p .maybeDefaulted), .optional (p .keywordRest)] fun ps =>
        .row (.nothing :: ps.drop 2),
      giving [p .keywordRest] fun ps => .row [.nothing, .row [], ps.part 0]])
  | .keywordRest => rule [invalid (p .invalidKeywordRest), taking 1 [mark "**", p .plain]]
  | .plain => rule (endings isLambda [p .one] fun ps => ps.part 0)
  | .starAnnotated => rule (endings isLambda [p .oneStarAnnotated] fun ps => ps.part 0)
  | .defaulted => rule (endings isLambda [p .one, value] fun ps => .row (ps.take 2))
  | .maybeDefaulted => rule (endings isLambda [p .one, .optional value] fun ps => .row (ps.take 2))
  | .one =>
    if isLambda then rule [making [name] fun ps => .argument (ps.text 0) none]
    else rule [making [name, .optional (pick 1 [mark ":", ExpressionRule.one])] fun ps =>
      .argument (ps.text 0) (ps.node? 1)]
  | .oneStarAnnotated => rule
    [making [name, mark ":", ExpressionRule.starOne] fun ps =>
      .argument (ps.text 0) (ps.node? 2)]
  | .invalid =>
    let slash : Pattern Rule := .either [p .slashPlain, p .slashDefaulted]
    let row := if isLambda then commas (p .one) else many 1 (p .plain)
    let kind := if isLambda then "Lambda expression" else "Function"
    rule
      [hunting [many 0 (p .plain), p .invalidHelper, p .plain] fun _ ps =>
        blameAt (ps.part 2) "non-default argument follows default argument",
       hunting [many 0 (p .plain), mark "(", row, .optional (mark ","), mark ")"] fun _ ps =>
        blameRange (ps.part 1) (ps.part 4) (kind ++ " parameters cannot be parenthesized"),
       hunting [mark "/", mark ","] fun _ ps =>
        blameAt (ps.part 0) "at least one argument must precede /",
       hunting [slash, many 0 (p .maybeDefaulted), mark "/"] fun _ ps =>
        blameAt (ps.part 2) "/ may appear only once",
       hunting [.optional slash, many 0 (p .maybeDefaulted), mark "*",
        .either [mark ",", p .plain], many 0 (p .maybeDefaulted), mark "/"] fun _ ps =>
        blameAt (ps.part 5) "/ must be ahead of *",
       hunting [many 1 (p .maybeDefaulted), mark "/", mark "*"] fun _ ps =>
        blameAt (ps.part 2) "expected comma between / and *"]
  | .invalidHelper => rule [being (p .slashDefaulted), being (many 1 (p .defaulted))]
  | .invalidStar => rule
    [hunting [mark "*", .either [mark closing, .all [mark ",", .either [mark closing, mark "**"]]]]
      fun _ ps =>
        let message := "named arguments must follow bare *"
        if isLambda then some (.lastRead message) else blameAt (ps.part 0) message,
     hunting [mark "*", p .one, mark "="] fun _ ps =>
      blameAt (ps.part 2) "var-positional argument cannot have default value",
     hunting [mark "*", .either [p .plain, mark ","], many 0 (p .maybeDefaulted), mark "*",
      .either [p .plain, mark ","]] fun _ ps =>
      blameAt (ps.part 3) "* argument may appear only once"]
  | .invalidKeywordRest => rule
    [hunting [mark "**", p .one, mark "="] fun _ ps =>
      blameAt (ps.part 2) "var-keyword argument cannot have default value",
     hunting [mark "**", p .one, mark ",", p .one] fun _ ps =>
      blameAt (ps.part 3) "arguments cannot follow var-keyword argument",
     hunting [mark "**", p .one, mark ",", .either [mark "*", mark "**", mark "/"]] fun _ ps =>
      blameAt (ps.part 3) "arguments cannot follow var-keyword argument"]

end LiveSketch.Script

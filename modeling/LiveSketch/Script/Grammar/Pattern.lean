import LiveSketch.Script.Grammar.Expression

/-!
# Patterns

What a case can be compared with: constants, names to capture, sequences, mappings and classes.
-/

namespace LiveSketch.Script

open Pattern

/-- An alternative for a number of one kind; another kind is blamed. -/
def numberOfKind (isImaginary : Bool) (kind : String) : Alternative Rule :=
  ⟨[.token .number none], fun s ps =>
    match numberForm (ps.text 0), isImaginary with
    | .constant (.imaginary x), true => .part (.node (.mk s.span (.constant (.imaginary x)))) []
    | .constant (.imaginary _), false | _, true =>
      .blame (blameAt (ps.part 0) (kind ++ " number required in complex literal")) []
    | form, false => .part (.node (.mk s.span form)) [],
   false⟩

/-- A pattern for a class, of its parts by place and by name. -/
def classPattern (cls : Node) (placed : List Node) (named : List Part) : Form Node :=
  .matchClass cls placed (named.map fun p => Parts.text p.asRow 0)
    (named.map fun p => Parts.node p.asRow 1)

def mappingPattern (entries : List Part) (rest : Option String) : Form Node :=
  .matchMapping (entries.map fun p => Parts.node p.asRow 0)
    (entries.map fun p => Parts.node p.asRow 1) rest

/-- A constant that stands for itself alone. -/
def singletons : List (String × Literal) :=
  [("None", .none), ("True", .bool true), ("False", .bool false)]

def patternRule (r : PatternRule) : RuleBody Rule :=
  let p (r : PatternRule) : Pattern Rule := .rule (.pattern r)
  let e (r : ExpressionRule) : Pattern Rule := .rule (.expression r)
  let signs : Pattern Rule := .either [mark "+", mark "-"]
  let noPart : Pattern Rule := notAhead (.either [mark ".", mark "(", mark "="])
  let comma : Pattern Rule := .optional (mark ",")
  match r with
  | .top => rule
    [making [p .openSequence] fun ps => .matchSequence (ps.nodes 0), being (p .one)]
  | .one => rule [being (p .named), being (p .alternatives)]
  | .named => rule
    [making [p .alternatives, word "as", p .captureName] fun ps =>
      .matchAs (ps.node? 0) (some (ps.text 2)),
     invalid (p .invalidNamed)]
  | .alternatives => rule
    [⟨[.separated (mark "|") (p .closed)], fun s ps =>
      match ps.nodes 0 with
      | [n] => .part (.node n) []
      | ns => .part (.node (.mk s.span (.matchOr ns))) [], false⟩]
  | .closed => sharedRule
    [being (p .literal), being (p .capture), being (p .wildcard), being (p .value),
     being (p .group), being (p .sequence), being (p .mapping), being (p .cls)]
  | .literal => rule
    ([making [p .signed, notAhead signs] fun ps => .matchValue (ps.node 0),
      making [p .complex] fun ps => .matchValue (ps.node 0),
      making [e .strings] fun ps => .matchValue (ps.node 0)] ++
     singletons.map fun (text, value) => making [word text] fun _ => .matchSingleton value)
  | .literalKey => rule
    ([taking 0 [p .signed, notAhead signs], being (p .complex), being (e .strings)] ++
     singletons.map fun (text, value) => making [word text] fun _ => .constant value)
  | .complex => rule
    [making [p .signedReal, mark "+", p .imaginary] fun ps => .binary (ps.node 0) .add (ps.node 2),
     making [p .signedReal, mark "-", p .imaginary] fun ps => .binary (ps.node 0) .sub (ps.node 2)]
  | .signed => rule
    [making [.token .number none] fun ps => numberForm (ps.text 0),
     making [mark "-", .token .number none] fun ps =>
      .unary .minus (.mk (ps.part 1).span (numberForm (ps.text 1)))]
  | .signedReal => rule
    [being (p .real), making [mark "-", p .real] fun ps => .unary .minus (ps.node 1)]
  | .real => rule [numberOfKind false "real"]
  | .imaginary => rule [numberOfKind true "imaginary"]
  | .capture => rule [making [p .captureName] fun ps => .matchAs none (some (ps.text 0))]
  | .captureName => rule [taking 1 [notAhead (softWord "_"), name, noPart]]
  | .wildcard => rule [making [softWord "_"] fun _ => .matchAs none none]
  | .value => rule [making [p .dotted, noPart] fun ps => .matchValue (ps.node 0)]
  | .dotted => leftRule
    [making [name, mark ".", name] fun ps => .member (nameOf (ps.part 0) .load) (ps.text 2) .load]
    [making [mark ".", name] fun ps => .member (ps.node 0) (ps.text 2) .load]
  | .nameOrDotted => leftRule
    [being (p .dotted), making [name] fun ps => .name (ps.text 0) .load] []
  | .group => rule [taking 1 [mark "(", p .one, mark ")"]]
  | .sequence => rule
    [making [mark "[", .optional (p .row), mark "]"] fun ps => .matchSequence (ps.nodes 1),
     making [mark "(", .optional (p .openSequence), mark ")"] fun ps =>
      .matchSequence (ps.nodes 1)]
  | .openSequence => rule
    [giving [p .maybeStar, mark ",", .optional (p .row)] fun ps =>
      .row (ps.part 0 :: (ps.part 2).asRow)]
  | .row => rule [taking 0 [commas (p .maybeStar), comma]]
  | .maybeStar => rule [being (p .star), being (p .one)]
  | .star => sharedRule
    [making [mark "*", p .captureName] fun ps => .matchStar (some (ps.text 1)),
     making [mark "*", p .wildcard] fun _ => .matchStar none]
  | .mapping => rule
    [making [mark "\x7b", mark "\x7d"] fun _ => mappingPattern [] none,
     making [mark "\x7b", p .rest, comma, mark "\x7d"] fun ps =>
      mappingPattern [] (ps.text? 1),
     making [mark "\x7b", p .entries, mark ",", p .rest, comma, mark "\x7d"] fun ps =>
      mappingPattern (ps.part 1).asRow (ps.text? 3),
     making [mark "\x7b", p .entries, comma, mark "\x7d"] fun ps =>
      mappingPattern (ps.part 1).asRow none]
  | .entries => rule [being (commas (p .entry))]
  | .entry => rule
    [giving [.either [p .literalKey, p .dotted], mark ":", p .one] fun ps =>
      .row [ps.part 0, ps.part 2]]
  | .rest => rule [taking 1 [mark "**", p .captureName]]
  | .cls => rule
    [making [p .nameOrDotted, mark "(", mark ")"] fun ps => classPattern (ps.node 0) [] [],
     making [p .nameOrDotted, mark "(", p .positionalRow, comma, mark ")"] fun ps =>
      classPattern (ps.node 0) (ps.nodes 2) [],
     making [p .nameOrDotted, mark "(", p .namedRow, comma, mark ")"] fun ps =>
      classPattern (ps.node 0) [] (ps.part 2).asRow,
     making [p .nameOrDotted, mark "(", p .positionalRow, mark ",", p .namedRow, comma, mark ")"]
      fun ps => classPattern (ps.node 0) (ps.nodes 2) (ps.part 4).asRow,
     invalid (p .invalidClass)]
  | .positionalRow => rule [being (commas (p .one))]
  | .namedRow => rule [being (commas (p .namedOne))]
  | .namedOne => rule [giving [name, mark "=", p .one] fun ps => .row [ps.part 0, ps.part 2]]
  | .invalidNamed => rule
    [hunting [p .alternatives, word "as", softWord "_"] fun _ ps =>
      blameAt (ps.part 2) "cannot use '_' as a target",
     hunting [p .alternatives, word "as", notAhead name, e .one] fun _ ps =>
      blameAt (ps.part 3) "invalid pattern target"]
  | .invalidClass => rule
    [hunting [p .nameOrDotted, mark "(", p .invalidClassArguments] fun _ ps =>
      let late := (ps.part 2).asRow
      blameRange (Parts.part late 0) (late.getLast?.getD .nothing)
        "positional patterns follow keyword patterns"]
  | .invalidClassArguments => rule
    [taking 3 [.optional (.all [p .positionalRow, mark ","]), p .namedRow, mark ",",
      p .positionalRow]]

end LiveSketch.Script

import LiveSketch.Script.Grammar.Basic

/-!
# Targets

What can be bound or removed: names, members and elements, and rows of them.
-/

namespace LiveSketch.Script

open Pattern

/-- A member or an element of something, with this access, where nothing goes on after it. -/
def partOfPrimary (a : Access) : List (Alternative Rule) :=
  [making [TargetRule.primary, mark ".", name, notAhead TargetRule.goesOn] fun ps =>
      .member (ps.node 0) (ps.text 2) a,
   making [TargetRule.primary, mark "[", ExpressionRule.slices, mark "]", notAhead TargetRule.goesOn]
      fun ps => .subscript (ps.node 0) (ps.node 2) a]

def targetRule (r : TargetRule) : RuleBody Rule :=
  let t (r : TargetRule) : Pattern Rule := .rule (.target r)
  let further : Pattern Rule := ahead (t .goesOn)
  match r with
  | .starRow => rule
    [taking 0 [t .starOne, notAhead (mark ",")],
     making [t .starOne, many 0 (pick 1 [mark ",", t .starOne]), .optional (mark ",")] fun ps =>
      .tuple (ps.node 0 :: ps.nodes 1) .store]
  | .listRow => rule [taking 0 [commas (t .starOne), .optional (mark ",")]]
  | .tupleRow => rule
    [giving [t .starOne, many 1 (pick 1 [mark ",", t .starOne]), .optional (mark ",")] fun ps =>
      .row (ps.part 0 :: (ps.part 1).asRow),
     giving [t .starOne, mark ","] fun ps => .row [ps.part 0]]
  | .starOne => sharedRule
    [making [mark "*", pick 1 [notAhead (mark "*"), t .starOne]] fun ps =>
      .starred (withAccess .store (ps.node 1)) .store,
     being (t .withStarAtom)]
  | .withStarAtom => sharedRule (partOfPrimary .store ++ [being (t .starAtom)])
  | .starAtom => rule
    [making [name] fun ps => .name (ps.text 0) .store,
     giving [mark "(", t .withStarAtom, mark ")"] fun ps => .node (withAccess .store (ps.node 1)),
     making [mark "(", .optional (t .tupleRow), mark ")"] fun ps => .tuple (ps.nodes 1) .store,
     making [mark "[", .optional (t .listRow), mark "]"] fun ps => .list (ps.nodes 1) .store]
  | .single => rule
    [being (t .partOf), making [name] fun ps => .name (ps.text 0) .store,
     taking 1 [mark "(", t .single, mark ")"]]
  | .partOf => rule (partOfPrimary .store)
  | .primary => leftRule [taking 0 [ExpressionRule.atom, further]]
    [making [mark ".", name, further] fun ps => .member (ps.node 0) (ps.text 2) .load,
     making [mark "[", ExpressionRule.slices, mark "]", further] fun ps =>
      .subscript (ps.node 0) (ps.node 2) .load,
     making [ExpressionRule.generator, further] fun ps => .call (ps.node 0) [ps.node 1] [],
     making [mark "(", .optional ExpressionRule.arguments, mark ")", further] fun ps =>
      match (ps.node 2).form with
      | .call _ placed named => .call (ps.node 0) placed named
      | _ => .call (ps.node 0) [] []]
  | .goesOn => rule [being (mark "("), being (mark "["), being (mark ".")]
  | .removedRow => rule [taking 0 [commas (t .removed), .optional (mark ",")]]
  | .removed => sharedRule (partOfPrimary .remove ++ [being (t .removedAtom)])
  | .removedAtom => rule
    [making [name] fun ps => .name (ps.text 0) .remove,
     giving [mark "(", t .removed, mark ")"] fun ps => .node (withAccess .remove (ps.node 1)),
     making [mark "(", .optional (t .removedRow), mark ")"] fun ps => .tuple (ps.nodes 1) .remove,
     making [mark "[", .optional (t .removedRow), mark "]"] fun ps => .list (ps.nodes 1) .remove]

end LiveSketch.Script

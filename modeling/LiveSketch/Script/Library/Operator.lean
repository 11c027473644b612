import LiveSketch.Script.Library.Core

/-!
# Operators as functions

Each operator of the language as a function, and functions that take items or members.
-/

namespace LiveSketch.Script

namespace Library

open Run

/-- The operators between two values, by the names of their functions. -/
def binaryFunctions : List (String × BinaryOperator) :=
  [("add", .add), ("sub", .sub), ("mul", .mult), ("truediv", .div), ("floordiv", .floorDiv),
    ("mod", .mod), ("pow", .pow), ("lshift", .leftShift), ("rshift", .rightShift),
    ("and_", .bitAnd), ("or_", .bitOr), ("xor", .bitXor), ("matmul", .matMult)]

def comparisonFunctions : List (String × Comparison) :=
  [("eq", .eq), ("ne", .notEq), ("lt", .lt), ("le", .ltE), ("gt", .gt), ("ge", .gtE)]

/-- The operators of one value by the names of their functions. -/
def unaryFunctions : List (String × UnaryOperator) :=
  [("neg", .minus), ("pos", .plus), ("invert", .invert), ("inv", .invert)]

/-- A function of two values under a name of the operator module. -/
def ofTwo (name : String) (f : Value → Value → Run Value) : String × Native :=
  some_ ("operator." ++ name) 2 2 fun args => f (args.getD 0 .none) (args.getD 1 .none)

/-- A function of one value under a name of the operator module. -/
def ofOne (name : String) (f : Value → Run Value) : String × Native :=
  (("operator." ++ name), fun args named => (one name f).2 args named)

def dottedMember (v : Value) (name : String) : Run Value :=
  (name.splitOn ".").foldlM (fun v part => getMember v part) v

/-- What a taker gives: one part, or several as a tuple. -/
def takenAll (parts : List Value) (take : Value → Run Value) : Run Value := do
  match parts with
  | [p] => take p
  | ps => return .tuple (← ps.mapM take)

/-- Functions that take parts of values. -/
def takerShelf : Shelf :=
  [many "operator.itemgetter" fun args => do
      if args.isEmpty then wrongType "itemgetter expected 1 argument, got 0"
      new "operator.itemgetter" (.parts args),
    method1 "operator.itemgetter.__call__" fun self v => do
      match ← dataOf self with
      | .parts ps => takenAll ps (getItem v)
      | _ => nothing,
    many "operator.attrgetter" fun args => do
      if args.isEmpty then wrongType "attrgetter expected 1 argument, got 0"
      for a in args do
        match a with
        | .text _ => pure ()
        | _ => wrongType "attribute name must be a string"
      new "operator.attrgetter" (.parts args),
    method1 "operator.attrgetter.__call__" fun self v => do
      match ← dataOf self with
      | .parts ps => takenAll ps fun p => do
          match p with
          | .text name => dottedMember v name
          | _ => nothing
      | _ => nothing,
    ("operator.methodcaller", fun args named => do
      match args with
      | .text name :: rest => do
        let d ← newDict (named.foldl (fun t (n, v) => t.putName n v) .empty)
        new "operator.methodcaller" (.parts [.text name, .tuple rest, d])
      | [] => wrongType "methodcaller needs at least one argument, the method name"
      | _ => wrongType "method name must be a string"),
    method1 "operator.methodcaller.__call__" fun self v => do
      match ← dataOf self with
      | .parts [.text name, .tuple rest, d] => call (← getMember v name) rest (← namedIn d)
      | _ => nothing]

def operatorShelf : Shelf :=
  binaryFunctions.flatMap (fun (name, op) =>
    [ofTwo name (operate op),
      ofTwo (if name.endsWith "_" then "i" ++ (name.dropEnd 1).toString else "i" ++ name) (update op)]) ++
  comparisonFunctions.map (fun (name, c) => ofTwo name (compare c)) ++
  unaryFunctions.map (fun (name, op) => ofOne name (operateOn op)) ++
  [ofOne "not_" fun v => do return .bool (!(← truth v)),
    ofOne "truth" fun v => do return .bool (← truth v),
    ofOne "abs" absolute,
    ofOne "index" fun v => do return .int (← asIndex v),
    ofTwo "is_" fun a b => pure (.bool (a.same b)),
    ofTwo "is_not" fun a b => pure (.bool !(a.same b)),
    ofTwo "concat" (operate .add),
    ofTwo "iconcat" (update .add),
    ("operator.call", fun args named => match args with
      | f :: rest => call f rest named
      | [] => wrongType "call expected at least 1 argument, got 0"),
    ofTwo "contains" fun a b => do return .bool (← isIn b a),
    ofTwo "getitem" getItem,
    ofTwo "delitem" fun a b => do
      dropItem a b
      nothing,
    some_ "operator.setitem" 3 3 fun args => do
      setItem (args.getD 0 .none) (args.getD 1 .none) (args.getD 2 .none)
      nothing,
    ofTwo "countOf" fun a b => do
      return .int (← (← itemsOf a).foldlM (fun (n : Nat) v => do
        return if ← equalTo v b then n + 1 else n) 0),
    ofTwo "indexOf" fun a b => do
      let vs ← itemsOf a
      let rec go : Nat → List Value → Run Value
        | _, [] => wrongValue "sequence.index(x): x not in sequence"
        | k, v :: rest => do if ← equalTo v b then pure (.int k) else go (k + 1) rest
      go 0 vs,
    some_ "operator.length_hint" 1 2 fun args => do
      match ← sizeOf? (args.getD 0 .none) with
      | some n => pure (.int n)
      | none => pure (args.getD 1 (.int 0))] ++
  takerShelf

end Library

end LiveSketch.Script

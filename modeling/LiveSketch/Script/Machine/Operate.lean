import LiveSketch.Script.Machine.Member
import LiveSketch.Script.Value.Arithmetic

/-!
# Operators

What the operators do with values. A class of the script may say itself what an operator does with
its objects; the right side is asked first when its class extends the left one's.
-/

namespace LiveSketch.Script

namespace Run

/-- Raises the fault that a trouble stands for. -/
def troubled {α : Type} (x : Except Trouble α) : Run α := do
  match x with
  | .ok a => pure a
  | .error t => raiseWith t.type t.arguments

/-! ## Truth -/

/-- The number of items of a value of the language, if it has items. -/
def sizeOf? (v : Value) : Run (Option Nat) := do
  match v with
  | .text s => pure (some s.length)
  | .bytes bs => pure (some bs.length)
  | .tuple vs => pure (some vs.length)
  | .range a b c =>
    pure (some (if c > 0 then ((b - a + c - 1) / c).toNat else ((a - b - c - 1) / -c).toNat))
  | .ref a => match (← object a).data with
    | .list items => pure (some items.size)
    | .dict t | .set t => pure (some t.size)
    | .members o => return some (← object o).attrs.size
    | _ => pure none
  | _ => pure none

/-- The value counts as true. -/
def truth (v : Value) : Run Bool := do
  match v with
  | .none => pure false
  | .bool b => pure b
  | .int n => pure (n != 0)
  | .float x => pure (x != 0.0)
  | .complex re im => pure (re != 0.0 || im != 0.0)
  | .text s => pure (!s.isEmpty)
  | .bytes bs => pure (!bs.isEmpty)
  | .tuple vs => pure (!vs.isEmpty)
  | .range _ _ _ => return (← sizeOf? v) != some 0
  | .ref _ => match ← callSpecial? v "__bool__" [] with
    | some (.bool b) => pure b
    | some other => wrongType ("__bool__ should return bool, returned " ++ (← typeName other))
    | none => match ← callSpecial? v "__len__" [] with
      | some n => match n.int? with
        | some n =>
          if n < 0 then wrongValue "__len__() should return >= 0" else pure (n != 0)
        | none => wrongType ("'" ++ (← typeName n) ++ "' object cannot be interpreted as an integer")
      | none => match ← unwrap v with
        | .int n => pure (n != 0)
        | .text s => pure (!s.isEmpty)
        | .float x => pure (x != 0.0)
        | .tuple vs => pure (!vs.isEmpty)
        | _ => return (← sizeOf? v) != some 0
  | _ => pure true

/-! ## Equality -/

/-- Whether values are equal, as far as it can be told without looking at objects. -/
def equal? : Value → Value → Option Bool
  | .text a, .text b => some (a == b)
  | .bytes a, .bytes b => some (a == b)
  | .none, .none | .ellipsis, .ellipsis | .notImplemented, .notImplemented => some true
  | .range a b c, .range d e f => some (a == d && b == e && c == f)
  | .tuple as, .tuple bs => all as bs
  | .ref _, _ | _, .ref _ => none
  | .bound .., .bound .. => none
  | a, b => match Numeric.of? a, Numeric.of? b with
    | some x, some y => some (equalNumbers x y)
    | _, _ => some (a.same b)
where
  /-- Whether rows are equal. -/
  all : List Value → List Value → Option Bool
    | [], [] => some true
    | a :: as, b :: bs =>
      match equal? a b with
      | some true => all as bs
      | r => r
    | _, _ => some false

/-- The names of comparisons, as classes say them. -/
def comparisonName : Comparison → String
  | .eq => "__eq__"
  | .notEq => "__ne__"
  | .lt => "__lt__"
  | .ltE => "__le__"
  | .gt => "__gt__"
  | .gtE => "__ge__"
  | _ => ""

/-- The comparison of the sides changed. -/
def flipped : Comparison → Comparison
  | .lt => .gt
  | .gt => .lt
  | .ltE => .gtE
  | .gtE => .ltE
  | c => c

def comparisonSign : Comparison → String
  | .eq => "=="
  | .notEq => "!="
  | .lt => "<"
  | .ltE => "<="
  | .gt => ">"
  | .gtE => ">="
  | .is => "is"
  | .isNot => "is not"
  | .in => "in"
  | .notIn => "not in"

/-- What a comparison says of an order. -/
def holds (c : Comparison) (o : Ordering) : Bool :=
  match c with
  | .eq => o == .eq
  | .notEq => o != .eq
  | .lt => o == .lt
  | .ltE => o != .gt
  | .gt => o == .gt
  | .gtE => o != .lt
  | _ => false

def orderTexts (a b : String) : Ordering := compareOfLessAndEq a b

/-- What the classes of a value say to a comparison with another, unless they leave it open. -/
def askComparison (v : Value) (c : Comparison) (other : Value) : Run (Option Value) := do
  match ← callSpecial? v (comparisonName c) [other] with
  | some .notImplemented => pure none
  | some r => pure (some r)
  | none =>
    if c = .notEq then
      match ← callSpecial? v "__eq__" [other] with
      | some .notImplemented | none => pure none
      | some r => return some (.bool (!(← truth r)))
    else pure none

/-- Values are the same or equal, by way of the machine. -/
def equalTo (a b : Value) : Run Bool := do
  if a.same b then pure true
  else match equal? a b with
    | some r => pure r
    | none => truth (← native "operator.eq" [a, b])

def equalRows : List Value → List Value → Run Bool
  | [], [] => pure true
  | a :: as, b :: bs => do
    if ← equalTo a b then equalRows as bs else pure false
  | _, _ => pure false

/-- Compares rows by the first place in which they differ. -/
def compareRows (c : Comparison) : List Value → List Value → Run Value
  | [], [] => pure (.bool (holds c .eq))
  | [], _ :: _ => pure (.bool (holds c .lt))
  | _ :: _, [] => pure (.bool (holds c .gt))
  | a :: as, b :: bs => do
    if ← equalTo a b then compareRows c as bs
    else native ("operator." ++ (match c with
      | .lt => "lt"
      | .ltE => "le"
      | .gt => "gt"
      | .gtE => "ge"
      | .notEq => "ne"
      | _ => "eq")) [a, b]

/-- All entries of a dictionary are in another. -/
def equalTables (t u : Table) : Run Bool := do
  if t.size ≠ u.size then return false
  t.toList.allM fun e => do
    match u.get? e.key with
    | some v => equalTo e.value v
    | none => pure false

def isWithin (t u : Table) : Bool := t.toList.all fun e => u.contains e.key

/-- Compares values of the language, if the comparison has a meaning for them. -/
def compareData (c : Comparison) (a b : Value) : Run (Option Value) := do
  let isEquality := c = .eq || c = .notEq
  let rows (as bs : List Value) : Run (Option Value) := do
    if isEquality then
      if as.length ≠ bs.length then return some (.bool (c = .notEq))
      return some (.bool ((← equalRows as bs) == (c = .eq)))
    return some (← compareRows c as bs)
  match a, b with
  | .text x, .text y => pure (some (.bool (holds c (orderTexts x y))))
  | .bytes x, .bytes y =>
    let key (bs : List UInt8) : List Nat := bs.map UInt8.toNat
    pure (some (.bool (holds c (compareOfLessAndEq (key x) (key y)))))
  | .tuple as, .tuple bs => rows as bs
  | .ref x, .ref y =>
    match (← object x).data, (← object y).data with
    | .list as, .list bs => rows as.toList bs.toList
    | .set t, .set u => pure (some (.bool (match c with
      | .eq => t.size = u.size && isWithin t u
      | .notEq => !(t.size = u.size && isWithin t u)
      | .lt => t.size < u.size && isWithin t u
      | .ltE => isWithin t u
      | .gt => u.size < t.size && isWithin u t
      | .gtE => isWithin u t
      | _ => false)))
    | .dict _, .dict _ | .members _, .dict _ | .dict _, .members _ | .members _, .members _ =>
      if isEquality then
        let r ← equalTables (← tableAt x) (← tableAt y)
        pure (some (.bool (r == (c = .eq))))
      else pure none
    | _, _ => if x = y && isEquality then pure (some (.bool (c = .eq))) else pure none
  | .bound s f, .bound t g => if isEquality then
      pure (some (.bool ((s.same t && f.same g) == (c = .eq)))) else pure none
  | _, _ => match Numeric.of? a, Numeric.of? b with
    | some x, some y =>
      if isEquality then pure (some (.bool (equalNumbers x y == (c = .eq))))
      else match compareNumbers x y with
        | some (some o) => pure (some (.bool (holds c o)))
        | some none => pure (some (.bool false))
        | none => pure none
    | _, _ => pure none

/-- What a type of the language that is no basic one says to a comparison. -/
def askType (v : Value) (c : Comparison) (other : Value) : Run (Option Value) := do
  match v with
  | .ref a => match (← object a).cls with
    | .type t =>
      let full := t ++ "." ++ comparisonName c
      if ← knows full then
        match ← native full [v, other] with
        | .notImplemented => pure none
        | r => pure (some r)
      else pure none
    | _ => pure none
  | _ => pure none

/-- Compares values by order or equality. -/
def compare (c : Comparison) (a b : Value) : Run Value := do
  let isEquality := c = .eq || c = .notEq
  let quick := if isEquality then equal? a b else none
  match quick with
  | some r => return .bool (r == (c = .eq))
  | none => pure ()
  let left := askComparison a c b
  let right := askComparison b (flipped c) a
  let rightFirst ← match a, b with
    | _, .ref y =>
      let cls := (← object y).cls
      match cls with
      | .type _ => pure false
      | _ =>
        let other ← typeOf a
        if cls.same other then pure false else extends? cls other
    | _, _ => pure false
  let answers := if rightFirst then [right, left] else [left, right]
  for ask in answers do
    match ← ask with
    | some r => return r
    | none => pure ()
  match ← compareData c (← unwrap a) (← unwrap b) with
  | some r => return r
  | none => pure ()
  for ask in [askType a c b, askType b (flipped c) a] do
    match ← ask with
    | some r => return r
    | none => pure ()
  if isEquality then return .bool (a.same b == (c = .eq))
  wrongType ("'" ++ comparisonSign c ++ "' not supported between instances of '" ++ (← typeName a) ++
    "' and '" ++ (← typeName b) ++ "'")

/-- One value comes before another. -/
def isLess (a b : Value) : Run Bool := do truth (← compare .lt a b)

/-! ## Operators between two values -/

/-- The name of an operator, as classes say it, without the marks around it. -/
def operatorName : BinaryOperator → String
  | .add => "add"
  | .sub => "sub"
  | .mult => "mul"
  | .matMult => "matmul"
  | .div => "truediv"
  | .mod => "mod"
  | .pow => "pow"
  | .leftShift => "lshift"
  | .rightShift => "rshift"
  | .bitOr => "or"
  | .bitXor => "xor"
  | .bitAnd => "and"
  | .floorDiv => "floordiv"

/-- The sign of an operator, as in the words of faults. -/
def operatorSign : BinaryOperator → String
  | .add => "+"
  | .sub => "-"
  | .mult => "*"
  | .matMult => "@"
  | .div => "/"
  | .mod => "%"
  | .pow => "** or pow()"
  | .leftShift => "<<"
  | .rightShift => ">>"
  | .bitOr => "|"
  | .bitXor => "^"
  | .bitAnd => "&"
  | .floorDiv => "//"

/-- A row so many times over. -/
def timesOver {α : Type} (xs : List α) (n : Int) : List α := (List.replicate n.toNat xs).flatten

/-- The largest number of items a row may come to have. -/
def maxRow : Nat := 50000000

/-- The largest number that can be a size or a place. -/
def maxSize : Int := 2 ^ 63 - 1

/-- The number can be a size or a place, counted from either end. -/
def isSize (n : Int) : Bool := -maxSize - 1 ≤ n && n ≤ maxSize

/-- Refuses a row that would be too long. -/
def allowRow (size : Nat) (n : Int) : Run Unit := do
  if !isSize n then raise "OverflowError" "cannot fit 'int' into an index-sized integer"
  if 0 < size ∧ maxRow < size * n.toNat then raiseWith "MemoryError" []

/-- The types whose values can be joined by a union of types. -/
def isTypeLike (v : Value) : Run Bool := do
  match v with
  | .none => pure true
  | v => return (← isClass v) || (← ["types.UnionType", "types.GenericAlias", "typing._GenericAlias",
      "typing._SpecialForm", "typing.TypeVar", "typing.NewType"].anyM (isOfType v))

def unionParts (v : Value) : Run (List Value) := do
  match ← isOfType v "types.UnionType", ← dataOf v with
  | true, .parts vs => pure vs
  | _, _ => pure [if v.isNone then .type "NoneType" else v]

/-- What a set operator makes of two tables. -/
def setOperator (op : BinaryOperator) (t u : Table) : Option Table :=
  match op with
  | .bitOr => some (u.toList.foldl (fun t e => if t.contains e.key then t else t.put e.key e.name e.value) t)
  | .bitAnd => some (.ofList (t.toList.filter fun e => u.contains e.key))
  | .sub => some (.ofList (t.toList.filter fun e => !u.contains e.key))
  | .bitXor => some (.ofList ((t.toList.filter fun e => !u.contains e.key) ++
      (u.toList.filter fun e => !t.contains e.key)))
  | _ => none

def objectOperator (op : BinaryOperator) (a b : Value) : Run (Option Value) := do
  match ← dataOf a, ← dataOf b with
  | .list xs, .list ys => match op with
    | .add => return some (← new "list" (.list (xs ++ ys)))
    | _ => pure none
  | .set t, .set u => match setOperator op t u with
    | some r => return some (← new (← baseType (← typeOf a)) (.set r))
    | none => pure none
  | .dict t, .dict u => match op with
    | .bitOr => return some (← newDict (u.toList.foldl (fun t e => t.put e.key e.name e.value) t))
    | _ => pure none
  | .list xs, _ => match op, b.int? with
    | .mult, some n => do
      allowRow xs.size n
      return some (← newList (timesOver xs.toList n))
    | _, _ => pure none
  | _, .list ys => match op, a.int? with
    | .mult, some n => do
      allowRow ys.size n
      return some (← newList (timesOver ys.toList n))
    | _, _ => pure none
  | _, _ =>
    if op = .bitOr && (← isTypeLike a) && (← isTypeLike b) && !(a.isNone && b.isNone) then
      let parts := (← unionParts a) ++ (← unionParts b)
      let kept := parts.foldl (fun ps p => if ps.any (Value.same p) then ps else ps ++ [p]) []
      return some (← new "types.UnionType" (.parts kept))
    else pure none

/-- What an operator does with values of the language, if it has a meaning for them. -/
def dataOperator (op : BinaryOperator) (a b : Value) : Run (Option Value) := do
  match a, b with
  | .text x, .text y => match op with
    | .add => pure (some (.text (x ++ y)))
    | .mod => return some (← native "str.__mod__" [a, b])
    | _ => pure none
  | .text _, .none => if op = .mod then return some (← native "str.__mod__" [a, b]) else pure none
  | .tuple xs, .tuple ys => pure (if op = .add then some (.tuple (xs ++ ys)) else none)
  | .bytes xs, .bytes ys => pure (if op = .add then some (.bytes (xs ++ ys)) else none)
  | _, _ =>
    match Numeric.of? a, Numeric.of? b with
    | some x, some y => match a, b, op with
      | .bool p, .bool q, .bitAnd => pure (some (.bool (p && q)))
      | .bool p, .bool q, .bitOr => pure (some (.bool (p || q)))
      | .bool p, .bool q, .bitXor => pure (some (.bool (p != q)))
      | _, _, _ => troubled (numberOperator op x y)
    | _, _ => match op, a, b with
      | .mod, .text _, _ => return some (← native "str.__mod__" [a, b])
      | .mult, .text s, n | .mult, n, .text s => match n.int? with
        | some n => do
          allowRow s.length n
          return some (.text (String.join (List.replicate n.toNat s)))
        | none => pure none
      | .mult, .tuple vs, n | .mult, n, .tuple vs => match n.int? with
        | some n => do
          allowRow vs.length n
          return some (.tuple (timesOver vs n))
        | none => pure none
      | .mult, .bytes bs, n | .mult, n, .bytes bs => match n.int? with
        | some n => do
          allowRow bs.length n
          return some (.bytes (timesOver bs n))
        | none => pure none
      | _, _, _ => objectOperator op a b

/-- What the classes of a value say to an operator, unless they leave it open. -/
def askOperator (v : Value) (name : String) (other : Value) : Run (Option Value) := do
  match ← callSpecial? v name [other] with
  | some .notImplemented => pure none
  | r => pure r

/-- What a type of the language that is no basic one says to an operator. -/
def askTypeOperator (v : Value) (name : String) (other : Value) : Run (Option Value) := do
  match v with
  | .ref a => match (← object a).cls with
    | .type t =>
      let full := t ++ "." ++ name
      if (t.toList.contains '.') && (← knows full) then
        match ← native full [v, other] with
        | .notImplemented => pure none
        | r => pure (some r)
      else pure none
    | _ => pure none
  | _ => pure none

/-- The row types, which say themselves why they cannot be joined. -/
def isRowType (name : String) : Bool := ["str", "list", "tuple", "bytes"].contains name

/-- Raises the fault of an operator without a meaning for its values. -/
def noOperator {α : Type} (op : BinaryOperator) (sign : String) (a b : Value) : Run α := do
  let left ← typeName a
  let right ← typeName b
  let leftBase ← baseType (← typeOf a)
  let rightBase ← baseType (← typeOf b)
  if op = .add && isRowType leftBase then
    if leftBase == "bytes" then wrongType ("can't concat " ++ right ++ " to bytes")
    else wrongType ("can only concatenate " ++ leftBase ++ " (not \"" ++ right ++ "\") to " ++
      leftBase)
  else if op = .mult && isRowType leftBase then
    wrongType ("can't multiply sequence by non-int of type '" ++ right ++ "'")
  else if op = .mult && isRowType rightBase then
    wrongType ("can't multiply sequence by non-int of type '" ++ left ++ "'")
  else wrongType ("unsupported operand type(s) for " ++ sign ++ ": '" ++ left ++ "' and '" ++ right ++ "'")

/-- What an operator makes of two values, if it has a meaning for them. -/
def operator? (op : BinaryOperator) (a b : Value) : Run (Option Value) := do
  match Numeric.of? a, Numeric.of? b with
  | some _, some _ => dataOperator op a b
  | _, _ =>
    let name := operatorName op
    let left := askOperator a ("__" ++ name ++ "__") b
    let right := askOperator b ("__r" ++ name ++ "__") a
    let rightFirst ← match b with
      | .ref y => do
        let cls := (← object y).cls
        let other ← typeOf a
        if cls.same other then pure false else extends? cls other
      | _ => pure false
    let other ← typeOf a
    let isSame := other.same (← typeOf b)
    let asks := if rightFirst then [right, left] else if isSame then [left] else [left, right]
    for ask in asks do
      match ← ask with
      | some r => return some r
      | none => pure ()
    match ← dataOperator op (← unwrap a) (← unwrap b) with
    | some r => return some r
    | none => pure ()
    match ← askTypeOperator a ("__" ++ name ++ "__") b with
    | some r => pure (some r)
    | none => askTypeOperator b ("__r" ++ name ++ "__") a

/-- An operator between two values. -/
def operate (op : BinaryOperator) (a b : Value) : Run Value := do
  match ← operator? op a b with
  | some r => pure r
  | none => noOperator op (operatorSign op) a b

/-- An operator that changes its left side, if that can change. -/
def update (op : BinaryOperator) (a b : Value) : Run Value := do
  match ← callSpecial? a ("__i" ++ operatorName op ++ "__") [b] with
  | some .notImplemented | none => pure ()
  | some r => return r
  match a, ← dataOf a, op with
  | _, .list _, .add => return ← native "list.__iadd__" [a, b]
  | .ref x, .list items, .mult => match b.int? with
    | some n => do
      allowRow items.size n
      setData x (.list (timesOver items.toList n).toArray)
      return a
    | none => pure ()
  | .ref x, .set t, _ => match ← dataOf b with
    | .set u => if (← baseType (← typeOf a)) == "set" then
        match setOperator op t u with
        | some r => do
          setData x (.set r)
          return a
        | none => pure ()
    | _ => pure ()
  | .ref x, .dict _, .bitOr => match ← dataOf b with
    | .dict u => do
      changeTable x fun t => u.toList.foldl (fun t e => t.put e.key e.name e.value) t
      return a
    | _ => pure ()
  | _, _, _ => pure ()
  match ← operator? op a b with
  | some r => pure r
  | none =>
    let sign := match op with
      | .pow => "**="
      | op => operatorSign op ++ "="
    noOperator op sign a b

/-! ## Operators in front of a value -/

def operateOn (op : UnaryOperator) (v : Value) : Run Value := do
  match op with
  | .not => return .bool (!(← truth v))
  | _ =>
    let name := match op with
      | .minus => "__neg__"
      | .plus => "__pos__"
      | _ => "__invert__"
    match ← callSpecial? v name [] with
    | some r => return r
    | none => pure ()
    match op, ← unwrap v with
    | .minus, .float x => pure (.float (-x))
    | .plus, .float x => pure (.float x)
    | .minus, .complex re im => pure (.complex (-re) (-im))
    | .plus, .complex re im => pure (.complex re im)
    | op, w => match op, w.int? with
      | .minus, some n => pure (.int (-n))
      | .plus, some n => pure (.int n)
      | .invert, some n => pure (.int (bitNot n))
      | _, _ =>
        let sign := match op with
          | .minus => "-"
          | .plus => "+"
          | _ => "~"
        wrongType ("bad operand type for unary " ++ sign ++ ": '" ++ (← typeName v) ++ "'")

/-! ## Keys -/

def floatKey (x : Float) : Key :=
  if x == x.floor && !isUnbounded x then .int (truncated x) else .float x.toBits

/-- Raises the fault of a value that cannot be a key. -/
def unhashable {α : Type} (v : Value) : Run α := do
  wrongType ("unhashable type: '" ++ (← typeName v) ++ "'")

/-- The key of a value that is known without looking at objects. -/
def keyOf? : Value → Option Key
  | .none => some .none
  | .ellipsis => some (.named "Ellipsis")
  | .notImplemented => some (.named "NotImplemented")
  | .bool b => some (.int (if b then 1 else 0))
  | .int n => some (.int n)
  | .float x => some (floatKey x)
  | .complex re im => some (if im == 0.0 then floatKey re else .complex re.toBits im.toBits)
  | .text s => some (.text s)
  | .bytes bs => some (.bytes bs)
  | .range a b c => some (.tuple [.named "range", .int a, .int b, .int c])
  | .type name => some (.named ("type " ++ name))
  | .native name => some (.named ("native " ++ name))
  | .canvas => some (.named "canvas")
  | .canvasCall name => some (.named ("canvas " ++ name))
  | _ => none

/-- The key of a value, for values of at most so many levels. -/
def keyWithin : Nat → Value → Run Key
  | 0, v => unhashable v
  | fuel + 1, v => do
    match keyOf? v with
    | some k => pure k
    | none => match v with
      | .tuple vs => return .tuple (← vs.mapM (keyWithin fuel))
      | .slice _ _ _ => unhashable v
      | .bound s f => return .tuple [.named "bound", ← keyWithin fuel s, ← keyWithin fuel f]
      | .method s f => return .tuple [.named f, ← keyWithin fuel s]
      | .ref a =>
        let o ← object a
        match ← ownSpecial? v "__hash__" with
        | some .none => unhashable v
        | some f => match ← apply f [v] with
          | .int n => pure (.hashed n)
          | _ => wrongType "__hash__ method should return an integer"
        | none => match o.data, o.cls with
          | .wraps inner, _ => keyWithin fuel inner
          | .list _, _ | .dict _, _ | .members _, _ => unhashable v
          | .set t, _ =>
            if (← baseType o.cls) == "frozenset" then
              pure (.frozen ((t.toList.map Entry.key).mergeSort fun a b => decide (hash a ≤ hash b)))
            else unhashable v
          | _, .type t =>
            if ← knows (t ++ ".__key__") then keyWithin fuel (← native (t ++ ".__key__") [v])
            else pure (.object a)
          | _, _ => pure (.object a)
      | _ => unhashable v

def keyOf (v : Value) : Run Key := keyWithin 100 v

end Run

end LiveSketch.Script

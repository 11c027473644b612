import LiveSketch.Script.Library.Core

/-!
# Lists, tuples, dictionaries and sets

How they are made, and their methods.
-/

namespace LiveSketch.Script

namespace Library

open Run

/-! ## Lists and tuples -/

def itemsIn (self : Value) : Run (Array Value) := do
  match self with
  | .ref a => listItems a
  | _ => pure #[]

def putItems (self : Value) (items : Array Value) : Run Value := do
  match self with
  | .ref a => setData a (.list items)
  | _ => pure ()
  nothing

/-- The place of a value in a row, from one place on and before another. -/
def placeIn (vs : List Value) (v : Value) (args : List Value) : Run (Option Nat) := do
  let bound (k : Option Value) (default_ : Int) : Run Nat := do
    let n : Int := vs.length
    match k with
    | none => pure default_.toNat
    | some k => do
      let k ← asIndex k
      pure (max 0 (if k < 0 then k + n else k)).toNat
  let start ← bound args[0]? 0
  let stop ← bound args[1]? vs.length
  let rec go : Nat → List Value → Run (Option Nat)
    | _, [] => pure none
    | k, w :: rest => do
      if start ≤ k && k < stop && (← equalTo w v) then pure (some k) else go (k + 1) rest
  go 0 vs

/-- How often a value is in a row. -/
def countIn (vs : List Value) (v : Value) : Run Value := do
  let n ← vs.foldlM (fun (n : Nat) w => do return if ← equalTo w v then n + 1 else n) 0
  pure (.int n)

def tupleItems (v : Value) : Run (List Value) := do
  match ← unwrap v with
  | .tuple vs => pure vs
  | _ => pure []

/-- Makes a list of a value. -/
def listShelf : Shelf :=
  [some_ "list" 0 1 fun args => match args with
      | [v] => do listOf (← itemsOf v)
      | _ => listOf [],
    methodOf "list.__init__" 0 1 fun self args => do
      let vs ← match args with
        | [v] => itemsOf v
        | _ => pure []
      putItems self vs.toArray,
    method1 "list.append" fun self v => do
      match self with
      | .ref a => changeList a (·.push v)
      | _ => pure ()
      nothing,
    method1 "list.extend" fun self v => do
      let vs ← itemsOf v
      match self with
      | .ref a => changeList a (· ++ vs.toArray)
      | _ => pure ()
      nothing,
    method1 "list.__iadd__" fun self v => do
      let vs ← itemsOf v
      match self with
      | .ref a => changeList a (· ++ vs.toArray)
      | _ => pure ()
      pure self,
    methodOf "list.insert" 2 2 fun self args => do
      let items ← itemsIn self
      let n : Int := items.size
      let k ← asSize (args.getD 0 .none)
      let k := (max 0 (min n (if k < 0 then k + n else k))).toNat
      putItems self (spliced items k k [args.getD 1 .none]),
    methodOf "list.pop" 0 1 fun self args => do
      let items ← itemsIn self
      let k ← match args with
        | [k] => asSize k
        | _ => pure (-1)
      if items.isEmpty then raise "IndexError" "pop from empty list"
      let k ← placeOf items.size k "pop index out of range"
      discard (putItems self (if k + 1 = items.size then items.pop else spliced items k (k + 1) []))
      pure (items.getD k .none),
    method1 "list.remove" fun self v => do
      let items ← itemsIn self
      match ← placeIn items.toList v [] with
      | some k => putItems self (spliced items k (k + 1) [])
      | none => wrongValue "list.remove(x): x not in list",
    methodOf "list.index" 1 3 fun self args => do
      match ← placeIn (← itemsIn self).toList (args.getD 0 .none) (args.drop 1) with
      | some k => pure (.int k)
      | none => wrongValue ((← shown (args.getD 0 .none)) ++ " is not in list"),
    method1 "list.count" fun self v => do countIn (← itemsIn self).toList v,
    method0 "list.clear" fun self => putItems self #[],
    method0 "list.copy" fun self => do listOf (← itemsIn self).toList,
    method0 "list.reverse" fun self => do putItems self (← itemsIn self).reverse,
    methodNames "list.sort" [] 0 ["key", "reverse"] fun self args => do
      match args with
      | [key, backwards] =>
        let sorted ← sortedBy (← itemsIn self).toList (Value.ofOption key)
          (← truth (backwards.getD (.bool false)))
        putItems self sorted.toArray
      | _ => nothing,
    some_ "tuple" 0 1 fun args => match args with
      | [v] => match v with
        | .tuple vs => pure (.tuple vs)
        | v => do return .tuple (← itemsOf v)
      | _ => pure (.tuple []),
    method1 "tuple.count" fun self v => do countIn (← tupleItems self) v,
    methodOf "tuple.index" 1 3 fun self args => do
      match ← placeIn (← tupleItems self) (args.getD 0 .none) (args.drop 1) with
      | some k => pure (.int k)
      | none => wrongValue "tuple.index(x): x not in tuple",
    method1 "range.index" fun self v => do
      match ← placeIn (← itemsOf self) v [] with
      | some k => pure (.int k)
      | none => wrongValue ((← shown v) ++ " is not in range"),
    method1 "range.count" fun self v => do countIn (← itemsOf self) v,
    method1 "slice.indices" fun self n => do
      match self with
      | .slice a b c => do
        let (start, stop, step) ← sliceBounds (← asIndex n).toNat a b c
        pure (.tuple [.int start, .int stop, .int step])
      | _ => nothing]

/-! ## Dictionaries -/

/-- The table of a dictionary or a set. -/
def tableOf (self : Value) : Run Table := do
  match self with
  | .ref a => tableAt a
  | _ => pure .empty

/-- Changes the table of a dictionary or a set. -/
def changeTableOf (self : Value) (f : Table → Table) : Run Unit := do
  match self with
  | .ref a => changeTable a f
  | _ => pure ()

/-- A pair that a dictionary is made of. -/
def pairOf (v : Value) (k : Nat) : Run (Value × Value) := do
  let vs ← orElse (itemsOf v) fun fault => do
    if ← isOfType fault "TypeError" then
      wrongType ("cannot convert dictionary update sequence element #" ++ toString k ++ " to a sequence")
    else raiseFault fault
  match vs with
  | [a, b] => pure (a, b)
  | vs =>
    wrongValue ("dictionary update sequence element #" ++ toString k ++ " has length " ++
      toString vs.length ++ "; 2 is required")

/-- Puts the entries of a value and named ones into a table. -/
def updated (t : Table) (args : List Value) (named : List (String × Value)) : Run Table := do
  let pairs ← match args with
    | v :: _ => match ← pairsOf? v with
      | some pairs => pure pairs
      | none => do
        let vs ← itemsOf v
        (vs.zip (List.range vs.length)).mapM fun (v, k) => pairOf v k
    | [] => pure []
  let t ← pairs.foldlM (fun (t : Table) (k, v) => do return t.put (← keyOf k) k v) t
  pure (named.foldl (fun t (n, v) => t.putName n v) t)

/-- Refuses more than one argument by place. -/
def atMostOne (name : String) (args : List Value) : Run Unit := do
  if 1 < args.length then
    wrongType (name ++ " expected at most 1 argument, got " ++ toString args.length)

def dictShelf : Shelf :=
  [("dict", fun args named => do
      atMostOne "dict" args
      newDict (← updated .empty args named)),
    ("dict.__init__", fun args named => do
      match args with
      | self :: rest => do
        atMostOne "dict" rest
        let t ← updated (← tableOf self) rest named
        changeTableOf self fun _ => t
        nothing
      | [] => nothing),
    ("dict.update", fun args named => do
      match args with
      | self :: rest => do
        atMostOne "update" rest
        let t ← updated (← tableOf self) rest named
        changeTableOf self fun _ => t
        nothing
      | [] => nothing),
    methodOf "dict.get" 1 2 fun self args => do
      return ((← tableOf self).get? (← keyOf (args.getD 0 .none))).getD (args.getD 1 .none),
    methodOf "dict.setdefault" 1 2 fun self args => do
      let key := args.getD 0 .none
      let k ← keyOf key
      match (← tableOf self).get? k with
      | some v => pure v
      | none => do
        changeTableOf self (·.put k key (args.getD 1 .none))
        pure (args.getD 1 .none),
    methodOf "dict.pop" 1 2 fun self args => do
      let key := args.getD 0 .none
      let k ← keyOf key
      match (← tableOf self).get? k, args with
      | some v, _ => do
        changeTableOf self (·.erase k)
        pure v
      | none, [_, d] => pure d
      | none, _ => raiseWith "KeyError" [key],
    method0 "dict.popitem" fun self => do
      match (← tableOf self).last? with
      | some e => do
        changeTableOf self (·.erase e.key)
        pure (.tuple [e.name, e.value])
      | none => raise "KeyError" "popitem(): dictionary is empty",
    method0 "dict.clear" fun self => do
      changeTableOf self fun _ => .empty
      nothing,
    method0 "dict.copy" fun self => do newDict (← tableOf self),
    method0 "dict.keys" fun self => new "dict_keys" (.parts [self]),
    method0 "dict.values" fun self => new "dict_values" (.parts [self]),
    method0 "dict.items" fun self => new "dict_items" (.parts [self]),
    method1 "dict.__contains__" fun self v => do
      return .bool ((← tableOf self).contains (← keyOf v)),
    some_ "dict.fromkeys" 2 3 fun args => do
      let vs ← itemsOf (args.getD 1 .none)
      let t ← vs.foldlM (fun (t : Table) k => do return t.put (← keyOf k) k (args.getD 2 .none))
        Table.empty
      newDict t]

/-- The dictionary that a view looks at. -/
def viewed (self : Value) : Run Value := do
  match ← dataOf self with
  | .parts [d] => pure d
  | _ => pure self

/-- The values that a view shows. -/
def viewItems (type : String) (self : Value) : Run (List Value) := do
  let t ← tableOf (← viewed self)
  pure (t.toList.map fun e =>
    if type == "dict_keys" then e.name
    else if type == "dict_values" then e.value else .tuple [e.name, e.value])

def setOf (type : String) (vs : List Value) : Run Value := do
  let t ← vs.foldlM (fun (t : Table) v => do
    let k ← keyOf v
    return if t.contains k then t else t.put k v .none) Table.empty
  new type (.set t)

/-- An operator between a view and values that can be gone through. -/
def viewOperator (type : String) (op : BinaryOperator) (self other : Value) : Run Value := do
  let xs ← setOf "set" (← viewItems type self)
  let ys ← setOf "set" (← itemsOf other)
  operate op xs ys

def viewShelf : Shelf :=
  [("dict_keys", "dict_keyiterator"), ("dict_values", "dict_valueiterator"),
    ("dict_items", "dict_itemiterator")].flatMap fun (type, iterator) =>
    [method0 (type ++ ".__len__") fun self => do return .int (← tableOf (← viewed self)).size,
      method0 (type ++ ".__iter__") fun self => do
        let d ← viewed self
        new iterator (.parts [d, .int 0, .int (← tableOf d).size]),
      method0 (type ++ ".__repr__") fun self => do
        return .text (type ++ "([" ++ (← rowShown (← viewItems type self)) ++ "])"),
      method1 (type ++ ".__contains__") fun self v => do
        let t ← tableOf (← viewed self)
        match type, v with
        | "dict_keys", v => return .bool (t.contains (← keyOf v))
        | "dict_items", .tuple [k, w] => match t.get? (← keyOf k) with
          | some found => return .bool (← equalTo found w)
          | none => pure (.bool false)
        | _, v => return .bool (← isAmong v (← viewItems type self)),
      method0 (type ++ ".__reversed__") fun self => do
        new "tuple_iterator" (.parts (← viewItems type self).reverse)] ++
    (if type == "dict_values" then [] else
      [method1 (type ++ ".__or__") (viewOperator type .bitOr),
        method1 (type ++ ".__and__") (viewOperator type .bitAnd),
        method1 (type ++ ".__sub__") (viewOperator type .sub),
        method1 (type ++ ".__xor__") (viewOperator type .bitXor),
        method1 (type ++ ".__eq__") fun self other => do
          compare .eq (← setOf "set" (← viewItems type self)) (← setOf "set" (← itemsOf other))])

/-! ## Sets -/

/-- The entries of values that can be gone through. -/
def entriesOf (v : Value) : Run Table := do
  match ← dataOf v with
  | .set t => pure t
  | _ => (← itemsOf v).foldlM (fun (t : Table) v => do
    let k ← keyOf v
    return if t.contains k then t else t.put k v .none) Table.empty

/-- The methods of both kinds of sets. -/
def anySetShelf (type : String) : Shelf :=
  let combined (name : String) (op : BinaryOperator) : String × Native :=
    (type ++ "." ++ name, fun args _ => do
      match args with
      | self :: others => do
        let t ← others.foldlM (fun (t : Table) v => do
          return (setOperator op t (← entriesOf v)).getD t) (← tableOf self)
        new type (.set t)
      | [] => nothing)
  [combined "union" .bitOr, combined "intersection" .bitAnd, combined "difference" .sub,
    combined "symmetric_difference" .bitXor,
    method1 (type ++ ".issubset") fun self v => do
      return .bool (isWithin (← tableOf self) (← entriesOf v)),
    method1 (type ++ ".issuperset") fun self v => do
      return .bool (isWithin (← entriesOf v) (← tableOf self)),
    method1 (type ++ ".isdisjoint") fun self v => do
      let u ← entriesOf v
      return .bool (!(← tableOf self).toList.any fun e => u.contains e.key),
    method0 (type ++ ".copy") fun self => do new type (.set (← tableOf self)),
    method1 (type ++ ".__contains__") fun self v => do
      return .bool ((← tableOf self).contains (← memberKey v))]

def setUpdate (name : String) (op : BinaryOperator) : String × Native :=
  ("set." ++ name, fun args _ => do
    match args with
    | self :: others => do
      let t ← others.foldlM (fun (t : Table) v => do
        return (setOperator op t (← entriesOf v)).getD t) (← tableOf self)
      changeTableOf self fun _ => t
      nothing
    | [] => nothing)

def setShelf : Shelf :=
  [some_ "set" 0 1 fun args => match args with
      | [v] => do new "set" (.set (← entriesOf v))
      | _ => new "set" (.set .empty),
    methodOf "set.__init__" 0 1 fun self args => do
      let t ← match args with
        | [v] => entriesOf v
        | _ => pure .empty
      changeTableOf self fun _ => t
      nothing,
    some_ "frozenset" 0 1 fun args => match args with
      | [v] => do new "frozenset" (.set (← entriesOf v))
      | _ => new "frozenset" (.set .empty),
    method1 "set.add" fun self v => do
      let k ← keyOf v
      changeTableOf self fun t => if t.contains k then t else t.put k v .none
      nothing,
    method1 "set.discard" fun self v => do
      let k ← memberKey v
      changeTableOf self (·.erase k)
      nothing,
    method1 "set.remove" fun self v => do
      let k ← memberKey v
      if !(← tableOf self).contains k then raiseWith "KeyError" [v]
      changeTableOf self (·.erase k)
      nothing,
    method0 "set.pop" fun self => do
      match (← tableOf self).inSetOrder with
      | e :: _ => do
        changeTableOf self (·.erase e.key)
        pure e.name
      | [] => raise "KeyError" "pop from an empty set",
    method0 "set.clear" fun self => do
      changeTableOf self fun _ => .empty
      nothing,
    setUpdate "update" .bitOr, setUpdate "intersection_update" .bitAnd,
    setUpdate "difference_update" .sub, setUpdate "symmetric_difference_update" .bitXor] ++
  anySetShelf "set" ++ anySetShelf "frozenset"

/-! ## What rows do by operators -/

/-- The operators that types of the language have as methods. -/
def operatorMethods : List BinaryOperator :=
  [.add, .sub, .mult, .div, .mod, .pow, .leftShift, .rightShift, .bitOr, .bitXor, .bitAnd, .floorDiv]

/-- An operator as a method: what the language does, or a sign that it has no meaning. -/
def operatorMethod (type : String) (op : BinaryOperator) (backwards : Bool) : String × Native :=
  let name := type ++ ".__" ++ (if backwards then "r" else "") ++ operatorName op ++ "__"
  methodOf name 1 2 fun self args => do
    let other ← unwrap (args.getD 0 .none)
    let self ← unwrap self
    let r ← if backwards then dataOperator op other self else dataOperator op self other
    pure (r.getD .notImplemented)

def comparisonMethod (type : String) (c : Comparison) : String × Native :=
  method1 (type ++ "." ++ comparisonName c) fun self other => do
    return (← compareData c (← unwrap self) (← unwrap other)).getD .notImplemented

def comparisons : List Comparison := [.eq, .notEq, .lt, .ltE, .gt, .gtE]

/-- Methods by which classes that extend a type reach what the type does. -/
def protocolShelf : Shelf :=
  let numbers := ["int", "float", "complex"]
  let rows := ["str", "tuple", "list", "bytes"]
  let tables := ["dict", "set", "frozenset"]
  let operators := numbers.flatMap fun type =>
    operatorMethods.flatMap fun op => [operatorMethod type op false, operatorMethod type op true]
  let joins := rows.flatMap fun type =>
    [operatorMethod type .add false, operatorMethod type .mult false, operatorMethod type .mult true]
  let sets := ["set", "frozenset"].flatMap fun type =>
    [operatorMethod type .bitOr false, operatorMethod type .bitAnd false, operatorMethod type .sub false,
      operatorMethod type .bitXor false]
  let compared := (numbers ++ rows ++ tables).flatMap fun type =>
    comparisons.map (comparisonMethod type)
  let sized := (rows ++ tables ++ ["range"]).map fun type =>
    method0 (type ++ ".__len__") fun self => do
      return .int ((← sizeOf? (← unwrap self)).getD 0)
  let gone := (rows ++ tables ++ ["range"]).map fun type =>
    method0 (type ++ ".__iter__") fun self => do
      match ← dataIterator? (← unwrap self) with
      | some it => pure it
      | none => notIterable self
  let items := (rows ++ ["dict", "range"]).map fun type =>
    method1 (type ++ ".__getitem__") fun self i => dataItem self i
  let stores := ["list", "dict"].flatMap fun type =>
    [methodOf (type ++ ".__setitem__") 2 2 fun self args => do
        storeDataItem self (args.getD 0 .none) (args.getD 1 .none)
        nothing,
      method1 (type ++ ".__delitem__") fun self i => do
        eraseDataItem self i
        nothing]
  let contains := rows.map fun type =>
    method1 (type ++ ".__contains__") fun self v => do return .bool (← isIn v (← plainCopy self))
  let texts := (numbers ++ rows ++ tables).map fun type =>
    method0 (type ++ ".__repr__") fun self => do
      match self with
      | .ref a => return .text (← dataShown self a)
      | v => return .text (← shown v)
  let signs := numbers.flatMap fun type =>
    [method0 (type ++ ".__neg__") fun self => do operateOn .minus (← unwrap self),
      method0 (type ++ ".__pos__") fun self => do operateOn .plus (← unwrap self),
      method0 (type ++ ".__bool__") fun self => do return .bool (← truth (← unwrap self)),
      method0 (type ++ ".__abs__") fun self => do absolute (← unwrap self)]
  operators ++ joins ++ sets ++ compared ++ sized ++ gone ++ items ++ stores ++ contains ++ texts ++
    signs ++
    [method0 "int.__invert__" fun self => do operateOn .invert (← unwrap self),
      method0 "int.__index__" fun self => unwrap self,
      method0 "int.__int__" fun self => unwrap self,
      method0 "float.__int__" fun self => do makeInt [some (← unwrap self), none],
      method0 "int.__float__" fun self => do makeFloat (← unwrap self),
      method0 "float.__float__" fun self => unwrap self,
      methodOf "int.__round__" 0 1 fun self args => do rounded (← unwrap self) (args.getD 0 .none),
      methodOf "float.__round__" 0 1 fun self args => do rounded (← unwrap self) (args.getD 0 .none),
      method0 "str.__str__" fun self => unwrap self,
      method1 "str.__format__" fun self spec => do
        return .text (← formatted (← unwrap self) (← textArgument spec "format spec must be str, not ")),
      method1 "int.__format__" fun self spec => do
        return .text (← formatted (← unwrap self) (← textArgument spec "format spec must be str, not ")),
      method1 "float.__format__" fun self spec => do
        return .text (← formatted (← unwrap self) (← textArgument spec "format spec must be str, not ")),
      method0 "list.__reversed__" fun self => do
        new "tuple_iterator" (.parts (← itemsIn self).toList.reverse),
      method0 "dict.__reversed__" fun self => do
        new "tuple_iterator" (.parts ((← tableOf self).toList.map Entry.name).reverse)]
where
  /-- A row of the language with the items of another. -/
  plainCopy (self : Value) : Run Value := do
    match ← unwrap self with
    | .ref a => newList (← listItems a).toList
    | v => pure v

/-- Lists, tuples, dictionaries and sets. -/
def rowShelf : Shelf :=
  listShelf ++ dictShelf ++ viewShelf ++ setShelf ++ protocolShelf

end Library

end LiveSketch.Script

import LiveSketch.Script.Machine.Shown

/-!
# Going through values

An iterator hands out one value after the other. Iterators of the language keep what is left, or the
place they have come to.
-/

namespace LiveSketch.Script

/-- The most values that are taken out of one iterator. -/
def maxDrain : Nat := 20000000

namespace Run

def rangeSize (start stop step : Int) : Nat :=
  if 0 < step then ((stop - start + step - 1) / step).toNat else ((start - stop - step - 1) / -step).toNat

def rangeItems (start stop step : Int) : List Value :=
  (List.range (rangeSize start stop step)).map fun (k : Nat) => .int (start + step * k)

def charValues (s : String) : List Value := s.toList.map fun c => .text (String.singleton c)

/-- Raises the end of an iteration. -/
def stopIteration {α : Type} (arguments : List Value) : Run α := raiseWith "StopIteration" arguments

/-- Raises the fault of a value that cannot be gone through. -/
def notIterable {α : Type} (v : Value) : Run α := do
  wrongType ("'" ++ (← typeName v) ++ "' object is not iterable")

/-- The object can be asked for its next value. -/
def isIterator (v : Value) : Run Bool := do
  match ← dataOf v with
  | .generator _ => pure true
  | _ => return (← special? v "__next__").isSome

/-- The iterator over a value of the language, if it can be gone through. -/
def dataIterator? (v : Value) : Run (Option Value) := do
  match v with
  | .text s =>
    let ascii := s.toList.all fun c => c.toNat < 0x80
    return some (← new (if ascii then "str_ascii_iterator" else "str_iterator") (.parts (charValues s)))
  | .tuple vs => return some (← new "tuple_iterator" (.parts vs))
  | .bytes bs => return some (← new "bytes_iterator" (.parts (bs.map fun b => .int b.toNat)))
  | .range a b c =>
    return some (← new "range_iterator" (.parts [.int a, .int c, .int (rangeSize a b c)]))
  | .ref a =>
    let o ← object a
    match o.data with
    | .list _ => return some (← new "list_iterator" (.parts [v, .int 0]))
    | .dict t => return some (← new "dict_keyiterator" (.parts [v, .int 0, .int t.size]))
    | .members _ =>
      let t ← tableAt a
      return some (← new "dict_keyiterator" (.parts [v, .int 0, .int t.size]))
    | .set t =>
      return some (← new "set_iterator" (.parts (v :: .int t.size :: t.inSetOrder.map Entry.name)))
    | .generator _ => pure (some v)
    | _ => pure none
  | _ => pure none

def iterate (v : Value) : Run Value := do
  let checked (it : Value) : Run Value := do
    if ← isIterator it then pure it
    else wrongType ("iter() returned non-iterator of type '" ++ (← typeName it) ++ "'")
  match ← callSpecial? v "__iter__" [] with
  | some it => return ← checked it
  | none => pure ()
  if ← isClass v then
    match ← askClass? v "__iter__" [] with
    | some it => return ← checked it
    | none => return ← wrongType ("'" ++ (← typeName v) ++ "' object is not iterable")
  match ← dataIterator? (← unwrap v) with
  | some it => return it
  | none => pure ()
  match ← typeOf v with
  | .type t =>
    if ← knows (t ++ ".__iter__") then return ← native (t ++ ".__iter__") [v]
    if ← knows (t ++ ".__next__") then return v
  | _ => pure ()
  match ← ownSpecial? v "__getitem__" with
  | some _ => new "iterator" (.parts [v, .int 0])
  | none => notIterable v

/-- The entry of a dictionary that its iterator has come to. -/
def dictStep (address : Nat) (parts : List Value) : Run (Option Entry) := do
  match parts with
  | [.ref owner, .int place, .int size] =>
    let t ← tableAt owner
    if size < 0 then return none
    if (t.size : Int) ≠ size then
      setData address (.parts [.ref owner, .int place, .int (-1)])
      raise "RuntimeError" "dictionary changed size during iteration"
    match t.from? place.toNat with
    | some (e, next) =>
      setData address (.parts [.ref owner, .int next, .int size])
      pure (some e)
    | none =>
      setData address (.parts [])
      pure none
  | _ => pure none

/-- The next value of an iterator of the language. -/
def dataStep? (type : String) (address : Nat) (parts : List Value) : Run (Option (Option Value)) := do
  match type, parts with
  | "list_iterator", [.ref owner, .int place] =>
    match (← listItems owner)[place.toNat]? with
    | some v =>
      setData address (.parts [.ref owner, .int (place + 1)])
      pure (some (some v))
    | none =>
      setData address (.parts [])
      pure (some none)
  | "range_iterator", [.int at_, .int step, .int left] =>
    if left ≤ 0 then pure (some none)
    else
      setData address (.parts [.int (at_ + step), .int step, .int (left - 1)])
      pure (some (some (.int at_)))
  | "tuple_iterator", _ | "str_iterator", _ | "str_ascii_iterator", _ | "bytes_iterator", _ =>
    match parts with
    | v :: rest =>
      setData address (.parts rest)
      pure (some (some v))
    | [] => pure (some none)
  | "dict_keyiterator", _ => return some ((← dictStep address parts).map Entry.name)
  | "dict_valueiterator", _ => return some ((← dictStep address parts).map Entry.value)
  | "dict_itemiterator", _ =>
    return some ((← dictStep address parts).map fun e => .tuple [e.name, e.value])
  | "set_iterator", .ref owner :: .int size :: rest =>
    if ((← tableAt owner).size : Int) ≠ size then
      setData address (.parts [])
      raise "RuntimeError" "Set changed size during iteration"
    else match rest with
      | v :: rest =>
        setData address (.parts (.ref owner :: .int size :: rest))
        pure (some (some v))
      | [] =>
        setData address (.parts [])
        pure (some none)
  | "iterator", [owner, .int place] =>
    setData address (.parts [owner, .int (place + 1)])
    let v ← orElse (do return some (← native "operator.getitem" [owner, .int place])) fun fault => do
      if (← isOfType fault "IndexError") || (← isOfType fault "StopIteration") then
        setData address (.parts [])
        pure none
      else raiseFault fault
    pure (some v)
  | "list_iterator", _ | "set_iterator", _ | "iterator", _ => pure (some none)
  | _, _ => pure none

/-- Takes the end of an iteration for no value. -/
def endAsNone (x : Run Value) : Run (Option Value) :=
  orElse (do return some (← x)) fun fault => do
    if ← isOfType fault "StopIteration" then pure none else raiseFault fault

/-- The next value of an iterator, unless it has come to its end. -/
def next (it : Value) : Run (Option Value) := do
  match it with
  | .ref a =>
    let o ← object a
    match o.cls, o.data with
    | .type t, .parts parts =>
      match ← dataStep? t a parts with
      | some r => return r
      | none => pure ()
    | _, .generator _ =>
      match ← resume a (.send .none) with
      | .value v => return some v
      | .result _ => return none
    | _, _ => pure ()
    match ← special? it "__next__" with
    | some f => endAsNone (apply f [it])
    | none => wrongType ("'" ++ (← typeName it) ++ "' object is not an iterator")
  | _ => wrongType ("'" ++ (← typeName it) ++ "' object is not an iterator")

/-- Takes values out of an iterator until it has come to its end. -/
def drain (it : Value) : Nat → Array Value → Run (Array Value)
  | 0, _ => throw Stop.spent
  | fuel + 1, taken => do
    match ← next it with
    | some v => drain it fuel (taken.push v)
    | none => pure taken

/-- The values that going through a value of the language gives, if its class does not say. -/
def dataItems? (v : Value) : Run (Option (List Value)) := do
  match v with
  | .tuple vs => pure (some vs)
  | .text s => pure (some (charValues s))
  | .range a b c =>
    match ← sizeOf? v with
    | some n => allowRow 1 n
    | none => pure ()
    pure (some (rangeItems a b c))
  | .ref a =>
    let o ← object a
    match o.cls, o.data with
    | .type "list", .list items => pure (some items.toList)
    | .type "dict", .dict t => pure (some (t.toList.map Entry.name))
    | .type "set", .set t | .type "frozenset", .set t => pure (some (t.inSetOrder.map Entry.name))
    | _, _ => pure none
  | _ => pure none

/-- The values that going through a value gives. -/
def itemsOf (v : Value) : Run (List Value) := do
  match ← dataItems? v with
  | some vs => pure vs
  | none => return (← drain (← iterate v) maxDrain #[]).toList

/-- Does something with each value of an iterator, until it says to stop. -/
def eachNext {σ : Type} (it : Value) (step : σ → Value → Run (σ × Bool)) : Nat → σ → Run σ
  | 0, _ => throw Stop.spent
  | fuel + 1, s => do
    match ← next it with
    | none => pure s
    | some v =>
      let (s, more) ← step s v
      if more then eachNext it step fuel s else pure s

/-- Does something with each value that going through a value gives, until it says to stop. -/
def each {σ : Type} (v : Value) (s : σ) (step : σ → Value → Run (σ × Bool)) : Run σ := do
  eachNext (← iterate v) step maxDrain s

/-! ## Members of rows -/

/-- The whole number that a value stands for as an index. -/
def index? (v : Value) : Run (Option Int) := do
  match v.int? with
  | some n => pure (some n)
  | none => match ← unwrap v with
    | .int n => pure (some n)
    | _ => match ← callSpecial? v "__index__" [] with
      | some (.int n) => pure (some n)
      | some (.bool b) => pure (some (if b then 1 else 0))
      | some other =>
        wrongType ("__index__ returned non-int (type " ++ (← typeName other) ++ ")")
      | none => pure none

/-- The whole number that a value stands for. -/
def asIndex (v : Value) : Run Int := do
  match ← index? v with
  | some n => pure n
  | none => wrongType ("'" ++ (← typeName v) ++ "' object cannot be interpreted as an integer")

/-- The size or place that a value stands for. -/
def asSize (v : Value) : Run Int := do
  let n ← asIndex v
  if !isSize n then raise "OverflowError" "Python int too large to convert to C ssize_t"
  pure n

/-- The small number that a value stands for. -/
def asSmall (v : Value) : Run Int := do
  let n ← asIndex v
  if n < -2 ^ 31 || 2 ^ 31 ≤ n then raise "OverflowError" "Python int too large to convert to C int"
  pure n

/-- The first list occurs in the second. -/
def isInfixOf {α : Type} [BEq α] (xs : List α) : List α → Bool
  | [] => xs.isEmpty
  | y :: ys => xs.isPrefixOf (y :: ys) || isInfixOf xs ys

def isAmong (v : Value) : List Value → Run Bool
  | [] => pure false
  | w :: ws => do
    if ← equalTo w v then pure true else isAmong v ws

/-- The key by which a set is asked for a value: a set that can change stands for one that cannot. -/
def memberKey (v : Value) : Run Key := do
  match ← dataOf v with
  | .set t => pure (.frozen ((t.toList.map Entry.key).mergeSort fun a b => decide (hash a ≤ hash b)))
  | _ => keyOf v

def isIn (v container : Value) : Run Bool := do
  match ← callSpecial? container "__contains__" [v] with
  | some r => return ← truth r
  | none => pure ()
  if ← isClass container then
    match ← askClass? container "__contains__" [v] with
    | some r => return ← truth r
    | none => return ← wrongType ("argument of type '" ++ (← typeName container) ++ "' is not iterable")
  match ← unwrap container with
  | .text s => match ← unwrap v with
    | .text part => return isInfixOf part.toList s.toList
    | _ => return ← wrongType ("'in <string>' requires string as left operand, not " ++ (← typeName v))
  | .bytes bs => match v with
    | .bytes part => return isInfixOf part bs
    | v => match v.int? with
      | some n => return bs.any fun b => (b.toNat : Int) = n
      | none => return ← wrongType ("a bytes-like object is required, not '" ++ (← typeName v) ++ "'")
  | .tuple vs => return ← isAmong v vs
  | .range a b c => match v.int? with
    | some n =>
      let size := rangeSize a b c
      return (n - a) % c = 0 && 0 ≤ (n - a) / c && (n - a) / c < size
    | none => return ← isAmong v (rangeItems a b c)
  | .ref a =>
    let o ← object a
    match o.data with
    | .list items => return ← isAmong v items.toList
    | .dict _ | .members _ => return (← tableAt a).contains (← keyOf v)
    | .set t => return t.contains (← memberKey v)
    | _ => pure ()
    match o.cls with
    | .type t => if ← knows (t ++ ".__contains__") then
        return ← truth (← native (t ++ ".__contains__") [container, v])
    | _ => pure ()
  | _ => pure ()
  let it ← orElse (iterate container) fun fault => do
    if ← isOfType fault "TypeError" then
      wrongType ("argument of type '" ++ (← typeName container) ++ "' is not iterable")
    else raiseFault fault
  eachNext it (fun _ w => do
    let found ← equalTo w v
    pure (found, !found)) maxDrain false

end Run

end LiveSketch.Script

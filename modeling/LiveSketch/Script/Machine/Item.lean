import LiveSketch.Script.Machine.Iterate

/-!
# Items

An item of a row is named by its place, counted from the end where it is negative, or many at once by
a slice; an entry of a dictionary by its key.
-/

namespace LiveSketch.Script

/-- The items of a row at places in steps. -/
def atPlaces {α : Type} (items : Array α) (start step : Int) (count : Nat) : List α :=
  (List.range count).filterMap fun (k : Nat) => items[(start + step * k).toNat]?

namespace Run

/-- A part of a slice: nothing, or a whole number. -/
def slicePart (v : Value) : Run (Option Int) := do
  match v with
  | .none => pure none
  | v => match ← index? v with
    | some n => pure (some n)
    | none => wrongType "slice indices must be integers or None or have an __index__ method"

/-- Where a slice of a row of so many begins and ends, and its step. -/
def sliceBounds (length : Nat) (lower upper step : Value) : Run (Int × Int × Int) := do
  let n : Int := length
  let step := (← slicePart step).getD 1
  if step = 0 then wrongValue "slice step cannot be zero"
  let clamp (k : Int) : Int :=
    let k := if k < 0 then k + n else k
    if step < 0 then max (-1) (min (n - 1) k) else max 0 (min n k)
  let start := match ← slicePart lower with
    | some k => clamp k
    | none => if step < 0 then n - 1 else 0
  let stop := match ← slicePart upper with
    | some k => clamp k
    | none => if step < 0 then -1 else n
  pure (start, stop, step)

/-- The items of a row in a slice. -/
def sliced {α : Type} (items : Array α) (lower upper step : Value) : Run (List α) := do
  let (start, stop, step) ← sliceBounds items.size lower upper step
  pure (atPlaces items start step (rangeSize start stop step))

/-- The place that an index means in a row of so many. -/
def placeOf (length : Nat) (n : Int) (words : String) : Run Nat := do
  if !isSize n then raise "IndexError" "cannot fit 'int' into an index-sized integer"
  let k := if n < 0 then n + length else n
  if 0 ≤ k ∧ k < length then pure k.toNat else raise "IndexError" words

/-- Raises the fault of an index of a wrong type. -/
def wrongIndex {α : Type} (type : String) (index : Value) : Run α := do
  wrongType (type ++ " indices must be integers or slices, not " ++ (← typeName index))

def entryOf (container : Value) (address : Nat) (key : Value) : Run Value := do
  match (← tableAt address).get? (← keyOf key) with
  | some v => pure v
  | none => match ← callSpecial? container "__missing__" [key] with
    | some v => pure v
    | none => raiseWith "KeyError" [key]

/-- The types that can be given the types of their items. -/
def genericTypes : List String :=
  ["list", "dict", "tuple", "set", "frozenset", "type", "enumerate", "functools.partial"]

def classItem (cls index : Value) : Run Value := do
  let arguments := match index with
    | .tuple vs => vs
    | v => [v]
  match ← askClass? cls "__getitem__" [index] with
  | some v => return v
  | none => pure ()
  match cls with
  | .type name =>
    if genericTypes.contains name then new "types.GenericAlias" (.parts (cls :: arguments))
    else if ← knows (name ++ ".__class_getitem__") then
      native (name ++ ".__class_getitem__") [cls, index]
    else wrongType ("type '" ++ lastPart name ++ "' is not subscriptable")
  | _ =>
    match ← lookupIn (← orderOf cls) "__class_getitem__" with
    | some f =>
      match f with
      | .ref _ => apply (← stand f none cls) (match ← memberOfClass? cls "__class_getitem__" with
        | some (.bound _ _) => [index]
        | _ => [cls, index])
      | f => apply f [cls, index]
    | none =>
      let base ← baseType cls
      if genericTypes.contains base then new "types.GenericAlias" (.parts (cls :: arguments))
      else wrongType ("type '" ++ (← nameOfClass cls) ++ "' is not subscriptable")

def dataItem (container index : Value) : Run Value := do
  match ← unwrap container with
  | .text s => match index with
    | .slice a b c => return .text (String.ofList (← sliced s.toList.toArray a b c))
    | i => match ← index? i with
      | some n =>
        let cs := s.toList.toArray
        let k ← placeOf cs.size n "string index out of range"
        return .text (String.singleton (cs[k]?.getD default))
      | none => wrongType ("string indices must be integers, not '" ++ (← typeName i) ++ "'")
  | .tuple vs => match index with
    | .slice a b c => return .tuple (← sliced vs.toArray a b c)
    | i => match ← index? i with
      | some n => do
        let k ← placeOf vs.length n "tuple index out of range"
        return vs.getD k .none
      | none => wrongIndex "tuple" i
  | .bytes bs => match index with
    | .slice a b c => return .bytes (← sliced bs.toArray a b c)
    | i => match ← index? i with
      | some n => do
        let k ← placeOf bs.length n "index out of range"
        return .int (bs.getD k 0).toNat
      | none => wrongIndex "byte" i
  | .range start stop step =>
    let size := rangeSize start stop step
    match index with
    | .slice a b c => do
      let (first, last, by_) ← sliceBounds size a b c
      return .range (start + step * first) (start + step * last) (step * by_)
    | i => match ← index? i with
      | some n => do
        let k := if n < 0 then n + size else n
        if k < 0 || (size : Int) ≤ k then raise "IndexError" "range object index out of range"
        return .int (start + step * k)
      | none => wrongIndex "range" i
  | .ref a =>
    let o ← object a
    match o.data with
    | .list items => match index with
      | .slice lower upper step => newList (← sliced items lower upper step)
      | i => match ← index? i with
        | some n => do
          let k ← placeOf items.size n "list index out of range"
          return items.getD k .none
        | none => wrongIndex "list" i
    | .dict _ | .members _ => entryOf container a index
    | _ => match o.cls with
      | .type t =>
        if ← knows (t ++ ".__getitem__") then native (t ++ ".__getitem__") [container, index]
        else notSubscriptable
      | _ => notSubscriptable
  | _ => notSubscriptable
where
  /-- Raises the fault of a value without items. -/
  notSubscriptable : Run Value := do
    wrongType ("'" ++ (← typeName container) ++ "' object is not subscriptable")

def getItem (container index : Value) : Run Value := do
  match ← callSpecial? container "__getitem__" [index] with
  | some v => pure v
  | none =>
    if ← isClass container then classItem container index else dataItem container index

/-- Puts rows together: what is before a place, new items, and what is after another. -/
def spliced (items : Array Value) (first last : Nat) (new_ : List Value) : Array Value :=
  items.extract 0 first ++ new_.toArray ++ items.extract (max first last) items.size

/-- Stores values in a slice of a list. -/
def storeSlice (address : Nat) (lower upper step value : Value) : Run Unit := do
  let values ← orElse (itemsOf value) fun fault => do
    if ← isOfType fault "TypeError" then
      wrongType (if step.isNone then "can only assign an iterable"
        else "must assign iterable to extended slice")
    else raiseFault fault
  let items ← listItems address
  let (start, stop, by_) ← sliceBounds items.size lower upper step
  if by_ = 1 then setData address (.list (spliced items start.toNat stop.toNat values))
  else
    let count := rangeSize start stop by_
    if count ≠ values.length then
      wrongValue ("attempt to assign sequence of size " ++ toString values.length ++
        " to extended slice of size " ++ toString count)
    let places := (List.range count).map fun (k : Nat) => (start + by_ * k).toNat
    setData address (.list ((places.zip values).foldl (fun xs (k, v) => xs.setIfInBounds k v) items))

/-- Stores an item of a value of the language. -/
def storeDataItem (container index value : Value) : Run Unit := do
  let refuse : Run Unit := do
    wrongType ("'" ++ (← typeName container) ++ "' object does not support item assignment")
  match container with
  | .ref a =>
    let o ← object a
    match o.data with
    | .list items => match index with
      | .slice lower upper step => storeSlice a lower upper step value
      | i => match ← index? i with
        | some n => do
          let k ← placeOf items.size n "list assignment index out of range"
          changeList a fun xs => xs.setIfInBounds k value
        | none => wrongIndex "list" i
    | .dict _ | .members _ =>
      let plain : Run Unit := do
        let k ← keyOf index
        changeTable a (·.put k index value)
      match o.cls with
      | .type "dict" => plain
      | .type "mappingproxy" => refuse
      | .type t =>
        if ← knows (t ++ ".__setitem__") then
          discard (native (t ++ ".__setitem__") [container, index, value])
        else plain
      | _ => plain
    | _ => match o.cls with
      | .type t =>
        if ← knows (t ++ ".__setitem__") then
          discard (native (t ++ ".__setitem__") [container, index, value])
        else refuse
      | _ => refuse
  | _ => refuse

def setItem (container index value : Value) : Run Unit := do
  match ← callSpecial? container "__setitem__" [index, value] with
  | some _ => pure ()
  | none => storeDataItem container index value

/-- Takes an item of a value of the language away. -/
def eraseDataItem (container index : Value) : Run Unit := do
  let refuse : Run Unit := do
    wrongType ("'" ++ (← typeName container) ++ "' object doesn't support item deletion")
  match container with
  | .ref a =>
    let o ← object a
    match o.data with
    | .list items => match index with
      | .slice lower upper step => do
        let (start, stop, by_) ← sliceBounds items.size lower upper step
        let places := (List.range (rangeSize start stop by_)).map fun (k : Nat) =>
          (start + by_ * k).toNat
        let kept := (items.toList.zip (List.range items.size)).filterMap fun (v, k) =>
          if places.contains k then none else some v
        setData a (.list kept.toArray)
      | i => match ← index? i with
        | some n => do
          let k ← placeOf items.size n "list assignment index out of range"
          setData a (.list (spliced items k (k + 1) []))
        | none => wrongIndex "list" i
    | .dict _ | .members _ =>
      if o.cls.same (.type "mappingproxy") then refuse
      else
        let k ← keyOf index
        if (← tableAt a).contains k then changeTable a (·.erase k) else raiseWith "KeyError" [index]
    | _ => refuse
  | _ => refuse

def dropItem (container index : Value) : Run Unit := do
  match ← callSpecial? container "__delitem__" [index] with
  | some _ => pure ()
  | none => eraseDataItem container index

end Run

end LiveSketch.Script

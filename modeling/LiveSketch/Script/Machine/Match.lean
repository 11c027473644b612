import LiveSketch.Script.Machine.Construct

/-!
# Matching

What a pattern asks of a value: whether it is a row, a mapping or an object of a class, and for its
parts.
-/

namespace LiveSketch.Script

namespace Run

def isRow (v : Value) : Run Bool := do
  match v with
  | .tuple _ | .range _ _ _ => pure true
  | .ref a => match (← object a).data with
    | .list _ | .wraps (.tuple _) => pure true
    | _ => pure false
  | _ => pure false

def isMapping (v : Value) : Run Bool := do
  match ← dataOf v with
  | .dict _ | .members _ => pure true
  | _ => pure false

/-- The number of items of a value. -/
def lengthOf (v : Value) : Run Nat := do
  match ← callSpecial? v "__len__" [] with
  | some n =>
    let n ← asIndex n
    if n < 0 then wrongValue "__len__() should return >= 0"
    allowRow 0 n
    pure n.toNat
  | none =>
    if ← isClass v then
      match ← askClass? v "__len__" [] with
      | some n => return (← asIndex n).toNat
      | none => wrongType ("object of type '" ++ (← typeName v) ++ "' has no len()")
    else match ← sizeOf? (← unwrap v) with
      | some n =>
        if !isSize n then raise "OverflowError" "Python int too large to convert to C ssize_t"
        pure n
      | none =>
        let full := (match ← typeOf v with
          | .type t => t
          | _ => "") ++ ".__len__"
        if ← knows full then return (← asIndex (← native full [v])).toNat
        else wrongType ("object of type '" ++ (← typeName v) ++ "' has no len()")

/-- The values of keys in a mapping, if it has them all. -/
def matchedKeys (v : Value) (keys : List Value) : Run (Option (List Value)) := do
  match v with
  | .ref a => keys.foldlM (fun (found : Option (List Value)) k => do
      match found with
      | none => pure none
      | some vs => return ((← tableAt a).get? (← keyOf k)).map fun v => vs ++ [v]) (some [])
  | _ => pure none

/-- A mapping without some keys. -/
def matchedRest (v : Value) (keys : List Value) : Run Value := do
  match v with
  | .ref a =>
    let t ← keys.foldlM (fun (t : Table) k => do return t.erase (← keyOf k)) (← tableAt a)
    newDict t
  | _ => newDict .empty

/-- The types whose objects are their own first part in a pattern. -/
def selfMatching : List String :=
  ["bool", "bytearray", "bytes", "dict", "float", "frozenset", "int", "list", "set", "str", "tuple"]

/-- The attributes of a value that a pattern of a class asks for, if it is of the class and has
them. -/
def matchedAttributes (v cls : Value) (placed : Nat) (names : List String) :
    Run (Option (List Value)) := do
  if !(← isClass cls) then
    wrongType "called match pattern must be a class"
  if !(← isOf v cls) then return none
  let part? (name : String) : Run (Option Value) := do
    orElse (do return some (← getMember v name)) fun fault => do
      if ← isOfType fault "AttributeError" then pure none else raiseFault fault
  let fromPlaces ← if placed = 0 then pure (some [])
    else match ← memberOfClass? cls "__match_args__" with
      | some (.tuple args) =>
        if args.length < placed then
          wrongType ((← nameOfClass cls) ++ "() accepts " ++ toString args.length ++
            " positional sub-pattern" ++ Misfit.plural args.length ++ " (" ++ toString placed ++ " given)")
        let asked := (args.take placed).filterMap fun a => match a with
          | .text s => some s
          | _ => none
        match asked.find? names.contains with
        | some name =>
          wrongType ((← nameOfClass cls) ++ "() got multiple sub-patterns for attribute '" ++ name ++ "'")
        | none => return ← collect part? (asked ++ names)
      | _ =>
        if selfMatching.contains (← baseType cls) then
          if 1 < placed then
            wrongType ((← nameOfClass cls) ++ "() accepts 1 positional sub-pattern (" ++
              toString placed ++ " given)")
          pure (some [v])
        else
          wrongType ((← nameOfClass cls) ++ "() accepts 0 positional sub-patterns (" ++
            toString placed ++ " given)")
  match fromPlaces with
  | none => pure none
  | some first => return (← collect part? names).map fun rest => first ++ rest
where
  /-- All attributes, if they are there. -/
  collect (part? : String → Run (Option Value)) : List String → Run (Option (List Value))
    | [] => pure (some [])
    | name :: rest => do
      match ← part? name with
      | none => pure none
      | some v => return (← collect part? rest).map (v :: ·)

/-- A value as exactly so many values. -/
def unpacked (v : Value) (count : Nat) : Run (List Value) := do
  let tooFew (n : Nat) : Run (List Value) :=
    wrongValue ("not enough values to unpack (expected " ++ toString count ++ ", got " ++ toString n ++ ")")
  let tooMany : Run (List Value) :=
    wrongValue ("too many values to unpack (expected " ++ toString count ++ ")")
  match ← dataItems? v with
  | some vs =>
    if vs.length < count then tooFew vs.length else if count < vs.length then tooMany else pure vs
  | none =>
    let it ← iterateOver v
    let taken ← eachNext it (fun (taken : Array Value) v => do
      pure (taken.push v, taken.size < count)) maxDrain #[]
    if taken.size < count then tooFew taken.size
    else if count < taken.size then tooMany else pure taken.toList
where
  /-- The iterator over a value that is to be unpacked. -/
  iterateOver (v : Value) : Run Value := do
    orElse (iterate v) fun fault => do
      if ← isOfType fault "TypeError" then
        wrongType ("cannot unpack non-iterable " ++ (← typeName v) ++ " object")
      else raiseFault fault

/-- A value as so many values, a list of further ones, and so many values again. -/
def unpackedRest (v : Value) (before after : Nat) : Run (List Value) := do
  let vs ← orElse (itemsOf v) fun fault => do
    if (← isOfType fault "TypeError") && (← dataItems? v).isNone then
      let iterable ← orElse (do discard (iterate v); pure true) fun _ => pure false
      if iterable then raiseFault fault
      else wrongType ("cannot unpack non-iterable " ++ (← typeName v) ++ " object")
    else raiseFault fault
  if vs.length < before + after then
    wrongValue ("not enough values to unpack (expected at least " ++ toString (before + after) ++
      ", got " ++ toString vs.length ++ ")")
  let rest ← newList ((vs.drop before).take (vs.length - before - after))
  pure (vs.take before ++ [rest] ++ vs.drop (vs.length - after))

end Run

end LiveSketch.Script

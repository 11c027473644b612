import LiveSketch.Script.Library.Core
import LiveSketch.Script.Value.Arrangement

/-!
# Iterators

Iterators that are made of others or of functions. Each kind has a step from its parts to the next
value and its parts after it; an iterator without parts has come to its end.
-/

namespace LiveSketch.Script

namespace Library

open Run

/-- What a step of an iterator comes to: its next value, with its parts after that. -/
abbrev IteratorStep := List Value → Run (Option (Value × List Value))

def iteratorMethods (type : String) (step : IteratorStep) : Shelf :=
  [method0 (type ++ ".__iter__") fun self => pure self,
    method0 (type ++ ".__next__") fun self => do
      match self, ← dataOf self with
      | .ref a, .parts (p :: parts) => do
        match ← step (p :: parts) with
        | some (v, parts) => do
          setData a (.parts parts)
          pure v
        | none => do
          setData a (.parts [])
          stopIteration []
      | _, _ => stopIteration []]

/-- A value that may be missing, as a value. -/
def held (v : Option Value) : Value := .tuple v.toList

def heldIn : Value → Option Value
  | .tuple (v :: _) => some v
  | _ => none

/-- The next values of all iterators, or the place of the first one that has come to its end. -/
def nextOfAll : Nat → List Value → Run (List Value ⊕ Nat)
  | _, [] => pure (.inl [])
  | k, it :: its => do
    match ← Run.next it with
    | none => pure (.inr k)
    | some v => match ← nextOfAll (k + 1) its with
      | .inl vs => pure (.inl (v :: vs))
      | .inr k => pure (.inr k)

/-- The first value of an iterator that satisfies a test. -/
def nextSuch (it : Value) (test : Value → Run Bool) : Nat → Run (Option Value)
  | 0 => throw Stop.spent
  | fuel + 1 => do
    match ← Run.next it with
    | none => pure none
    | some v => if ← test v then pure (some v) else nextSuch it test fuel

/-- A test by a function, or by the truth of values themselves. -/
def passes (f v : Value) : Run Bool := do
  match f with
  | .none => truth v
  | f => truth (← apply f [v])

/-! ## Iterators at hand everywhere -/

/-- How a difference in length is said. -/
def unequalWords (place : Nat) (other : String) : String :=
  "zip() argument " ++ toString (place + 1) ++ " is " ++ other ++ " than argument" ++
    (if place = 1 then " 1" else "s 1-" ++ toString place)

/-- A step of iterators side by side. -/
def zipStep : IteratorStep := fun parts => do
  match parts with
  | .bool strict :: its => do
    match ← nextOfAll 0 its with
    | .inl vs => if vs.isEmpty then pure none else pure (some (.tuple vs, parts))
    | .inr k => do
      if strict then
        if 0 < k then wrongValue (unequalWords k "shorter")
        let rest := (its.zip (List.range its.length)).drop 1
        for (it, k) in rest do
          if (← Run.next it).isSome then wrongValue (unequalWords k "longer")
      pure none
  | _ => pure none

/-- The iterator over a row backwards. -/
def reversedOf (v : Value) : Run Value := do
  match ← special? v "__reversed__" with
  | some .none => wrongType ("'" ++ (← typeName v) ++ "' object is not reversible")
  | some f => apply f [v]
  | none => match v with
    | .range a _ c => match v with
      | .range _ b _ => do
        let n := rangeSize a b c
        iterate (.range (a + c * (n - 1)) (a - c) (-c))
      | _ => nothing
    | .tuple vs => new "tuple_iterator" (.parts vs.reverse)
    | .text s => new "str_iterator" (.parts (charValues s).reverse)
    | .bytes bs => new "bytes_iterator" (.parts (bs.reverse.map fun b => .int b.toNat))
    | _ =>
      match ← callSpecial? v "__len__" [], ← ownSpecial? v "__getitem__" with
      | some (.int n), some _ => new "reversed" (.parts [v, .int n])
      | _, _ => wrongType ("'" ++ (← typeName v) ++ "' object is not reversible")

/-- The iterators that every script has at hand. -/
def iteratorToolShelf : Shelf :=
  [("map", fun args named => do
      noNamed "map" named
      match args with
      | f :: v :: vs => do new "map" (.parts (f :: (← (v :: vs).mapM iterate)))
      | _ => wrongType "map() must have at least two arguments."),
    some_ "filter" 2 2 fun args => do
      new "filter" (.parts [args.getD 0 .none, ← iterate (args.getD 1 .none)]),
    ("zip", fun args named => do
      match named.find? fun e => e.1 != "strict" with
      | some (name, _) => wrongType ("'" ++ name ++ "' is an invalid keyword argument for zip()")
      | none => pure ()
      let strict ← truth ((named.lookup "strict").getD (.bool false))
      new "zip" (.parts (.bool strict :: (← args.mapM iterate)))),
    withNames "enumerate" ["iterable", "start"] 1 [] fun args => do
      let start ← match (args[1]?).join with
        | some v => asIndex v
        | none => pure 0
      let it ← iterate (Value.ofOption (args[0]?).join)
      new "enumerate" (.parts [it, .int start]),
    some_ "reversed" 1 1 fun args => reversedOf (args.getD 0 .none)] ++
  iteratorMethods "map" (fun parts => do
    match parts with
    | f :: its => match ← nextOfAll 0 its with
      | .inl vs => return some (← apply f vs, parts)
      | .inr _ => pure none
    | [] => pure none) ++
  iteratorMethods "filter" (fun parts => do
    match parts with
    | [f, it] => return (← nextSuch it (passes f) maxDrain).map (·, parts)
    | _ => pure none) ++
  iteratorMethods "zip" zipStep ++
  iteratorMethods "enumerate" (fun parts => do
    match parts with
    | [it, .int k] => return (← Run.next it).map fun v => (.tuple [.int k, v], [it, .int (k + 1)])
    | _ => pure none) ++
  iteratorMethods "reversed" (fun parts => do
    match parts with
    | [v, .int n] =>
      if n ≤ 0 then pure none else return some (← getItem v (.int (n - 1)), [v, .int (n - 1)])
    | _ => pure none)

/-! ## Endless and cut iterators -/

/-- A bound of a cut: nothing, or a whole number that is not negative. -/
def cutBound (v : Value) (words : String) : Run (Option Nat) := do
  match v with
  | .none => pure none
  | v => match ← index? v with
    | some n => if n < 0 || maxSize < n then wrongValue words else pure (some n.toNat)
    | none => wrongValue words

/-- Iterators that count, repeat and cut. -/
def countingShelf : Shelf :=
  [withNames "itertools.count" ["start", "step"] 0 [] fun args => do
      let start := ((args[0]?).join).getD (.int 0)
      let step := ((args[1]?).join).getD (.int 1)
      for v in [start, step] do
        if (Numeric.of? (← unwrap v)).isNone then wrongType "a number is required"
      new "itertools.count" (.parts [start, step]),
    some_ "itertools.cycle" 1 1 fun args => do
      new "itertools.cycle" (.parts [← iterate (args.getD 0 .none), ← newList [], .none]),
    withNames "itertools.repeat" ["object", "times"] 1 [] fun args => do
      let times ← match (args[1]?).join with
        | some n => do pure (Value.int (max 0 (← asSize n)))
        | none => pure Value.none
      new "itertools.repeat" (.parts [Value.ofOption (args[0]?).join, times]),
    some_ "itertools.islice" 2 4 fun args => do
      let words := "Indices for islice() must be None or an integer: 0 <= x <= sys.maxsize."
      let it := args.getD 0 .none
      let (start, stop, step) ← match args.drop 1 with
        | [stop] => do
          pure (0, ← cutBound stop
            "Stop argument for islice() must be None or an integer: 0 <= x <= sys.maxsize.", 1)
        | start :: stop :: rest => do
          let step ← match rest with
            | [] | [.none] => pure 1
            | s :: _ => match ← index? s with
              | some n => if 0 < n then pure n.toNat else
                  wrongValue "Step for islice() must be a positive integer or None."
              | none => wrongValue "Step for islice() must be a positive integer or None."
          let stop ← cutBound stop
            "Stop argument for islice() must be None or an integer: 0 <= x <= sys.maxsize."
          pure ((← cutBound start words).getD 0, stop, step)
        | [] => pure (0, none, 1)
      let stop := match stop with
        | some n => Value.int n
        | none => .none
      new "itertools.islice" (.parts [← iterate it, .int 0, .int start, stop, .int step])] ++
  iteratorMethods "itertools.count" (fun parts => do
    match parts with
    | [v, step] => return some (v, [← operate .add v step, step])
    | _ => pure none) ++
  iteratorMethods "itertools.cycle" (fun parts => do
    match parts with
    | [it, .ref saved, .none] => do
      match ← Run.next it with
      | some v => do
        changeList saved (·.push v)
        pure (some (v, parts))
      | none => return (← listItems saved)[0]?.map (·, [it, .ref saved, .int 1])
    | [it, .ref saved, .int k] => do
      let items ← listItems saved
      let k := if items.size ≤ k.toNat then 0 else k.toNat
      return items[k]?.map (·, [it, .ref saved, .int (k + 1)])
    | _ => pure none) ++
  iteratorMethods "itertools.repeat" (fun parts => pure (match parts with
    | [v, .int n] => if n ≤ 0 then none else some (v, [v, .int (n - 1)])
    | [v, n] => some (v, [v, n])
    | _ => none)) ++
  iteratorMethods "itertools.islice" (fun parts => do
    match parts with
    | [it, .int count, .int wanted, stop, .int step] => do
      let limit := match stop with
        | .int n => some n
        | _ => none
      let goal := match limit with
        | some n => min wanted n
        | none => wanted
      let skipped ← (List.range (goal - count).toNat).foldlM (fun (going : Bool) _ => do
        if going then return (← Run.next it).isSome else pure false) true
      if !skipped || limit.any (· ≤ wanted) then pure none
      else return (← Run.next it).map fun v =>
        (v, [it, .int (wanted + 1), .int (wanted + step), stop, .int step])
    | _ => pure none)

/-! ## Iterators in a row and side by side -/

/-- A step through iterators one after the other. -/
def chainStep : Nat → IteratorStep
  | 0, _ => throw Stop.spent
  | fuel + 1, parts => do
    match parts with
    | [all, current] => do
      match heldIn current with
      | some it => match ← Run.next it with
        | some v => pure (some (v, parts))
        | none => chainStep fuel [all, held none]
      | none => match ← Run.next all with
        | none => pure none
        | some v => do chainStep fuel [all, held (some (← iterate v))]
    | _ => pure none

/-- A step of iterators side by side until the last one has come to its end. -/
def longestStep : IteratorStep := fun parts => do
  match parts with
  | fill :: its => do
    let taken ← its.mapM fun it => do
      match heldIn it with
      | none => pure (none, it)
      | some i => match ← Run.next i with
        | some v => pure (some v, it)
        | none => pure (none, held none)
    if taken.all fun t => t.1.isNone then pure none
    else pure (some (.tuple (taken.map fun t => t.1.getD fill), fill :: taken.map Prod.snd))
  | [] => pure none

/-- Iterators made of several. -/
def joiningShelf : Shelf :=
  [many "itertools.chain" fun args => do
      new "itertools.chain" (.parts [← iterate (.tuple args), held none]),
    some_ "itertools.chain.from_iterable" 2 2 fun args => do
      new "itertools.chain" (.parts [← iterate (args.getD 1 .none), held none]),
    ("itertools.zip_longest", fun args named => do
      match named.find? fun e => e.1 != "fillvalue" with
      | some (name, _) => wrongType ("zip_longest() got an unexpected keyword argument '" ++ name ++ "'")
      | none => pure ()
      let its ← args.mapM fun v => do return held (some (← iterate v))
      new "itertools.zip_longest" (.parts ((named.lookup "fillvalue").getD .none :: its))),
    withNames "itertools.compress" ["data", "selectors"] 2 [] fun args => do
      let its ← args.mapM fun v => iterate (Value.ofOption v)
      new "itertools.compress" (.parts its),
    some_ "itertools.starmap" 2 2 fun args => do
      new "itertools.starmap" (.parts [args.getD 0 .none, ← iterate (args.getD 1 .none)]),
    some_ "itertools.pairwise" 1 1 fun args => do
      new "itertools.pairwise" (.parts [← iterate (args.getD 0 .none), held none]),
    some_ "itertools.tee" 1 2 fun args => do
      let n ← match args[1]? with
        | some n => asSize n
        | none => pure 2
      if n < 0 then wrongValue "n must be >= 0"
      let it ← iterate (args.getD 0 .none)
      let shared ← newList []
      let copies ← (List.range n.toNat).mapM fun _ =>
        new "itertools._tee" (.parts [shared, it, .int 0])
      pure (.tuple copies)] ++
  iteratorMethods "itertools.chain" (chainStep maxDrain) ++
  iteratorMethods "itertools.zip_longest" longestStep ++
  iteratorMethods "itertools.compress" (fun parts => do
    match parts with
    | [data, selectors] => do
      let rec go : Nat → Run (Option (Value × List Value))
        | 0 => throw Stop.spent
        | fuel + 1 => do
          match ← Run.next data with
          | none => pure none
          | some v => match ← Run.next selectors with
            | none => pure none
            | some s => if ← truth s then pure (some (v, parts)) else go fuel
      go maxDrain
    | _ => pure none) ++
  iteratorMethods "itertools.starmap" (fun parts => do
    match parts with
    | [f, it] => match ← Run.next it with
      | some v => return some (← apply f (← itemsOf v), parts)
      | none => pure none
    | _ => pure none) ++
  iteratorMethods "itertools.pairwise" (fun parts => do
    match parts with
    | [it, before] => do
      let first ← match heldIn before with
        | some v => pure (some v)
        | none => Run.next it
      match first with
      | none => pure none
      | some a => return (← Run.next it).map fun b => (.tuple [a, b], [it, held (some b)])
    | _ => pure none) ++
  iteratorMethods "itertools._tee" (fun parts => do
    match parts with
    | [.ref shared, it, .int k] => do
      let after : List Value := [.ref shared, it, .int (k + 1)]
      match (← listItems shared)[k.toNat]? with
      | some v => pure (some (v, after))
      | none => match ← Run.next it with
        | some v => do
          changeList shared (·.push v)
          pure (some (v, after))
        | none => pure none
    | _ => pure none)

/-! ## Iterators by functions -/

/-- Makes a group's iterator take its values from the grouping it belongs to. -/
def advanceGroups (parts : List Value) : Run (Option (List Value)) := do
  match parts with
  | it :: key :: wanted :: _ => do
    match ← Run.next it with
    | none => pure none
    | some v => do
      let k ← if key.isNone then pure v else apply key [v]
      pure (some [it, key, wanted, held (some k), held (some v)])
  | _ => pure none

/-- The parts of a grouping at the first value of another group. -/
def nextGroup : Nat → List Value → Run (Option (List Value))
  | 0, _ => throw Stop.spent
  | fuel + 1, parts => do
    match parts with
    | [_, _, wanted, current, _] => do
      let isNew ← match heldIn current, heldIn wanted with
        | none, _ => pure false
        | some _, none => pure true
        | some k, some w => do pure !(← equalTo w k)
      if isNew then pure (some parts)
      else match ← advanceGroups parts with
        | some parts => nextGroup fuel parts
        | none => pure none
    | _ => pure none

def groupStep (self : Value) (address : Nat) (parts : List Value) : Run Value := do
  match ← nextGroup maxDrain parts with
  | some [it, key, _, current, value] => do
    setData address (.parts [it, key, current, current, value])
    let group ← new "itertools._grouper" (.parts [self, current])
    changeMembers address (·.putName "group" group)
    pure (.tuple [(heldIn current).getD .none, group])
  | _ => do
    setData address (.parts [])
    stopIteration []

def grouperStep (self : Value) : IteratorStep := fun parts => do
  match parts with
  | [.ref owner, wanted] => do
    let o ← object owner
    let isCurrent := (o.attrs.name? "group").any (Value.same self)
    match isCurrent, o.data with
    | true, .parts parts => do
      let parts ← match parts with
        | [it, key, w, current, value] =>
          if (heldIn value).isSome then pure (some [it, key, w, current, value])
          else do advanceGroups parts
        | _ => pure none
      match parts with
      | some [it, key, w, current, value] => do
        let fits ← match heldIn wanted, heldIn current with
          | some a, some b => equalTo a b
          | _, _ => pure false
        if fits then
          setData owner (.parts [it, key, w, current, held none])
          pure ((heldIn value).map (·, [.ref owner, wanted]))
        else
          setData owner (.parts [it, key, w, current, value])
          pure none
      | _ => do
        setData owner (.parts [])
        pure none
    | _, _ => pure none
  | _ => pure none

def testingShelf : Shelf :=
  [some_ "itertools.takewhile" 2 2 fun args => do
      new "itertools.takewhile" (.parts [args.getD 0 .none, ← iterate (args.getD 1 .none)]),
    some_ "itertools.dropwhile" 2 2 fun args => do
      new "itertools.dropwhile" (.parts [args.getD 0 .none, ← iterate (args.getD 1 .none), .bool true]),
    some_ "itertools.filterfalse" 2 2 fun args => do
      new "itertools.filterfalse" (.parts [args.getD 0 .none, ← iterate (args.getD 1 .none)]),
    withNames "itertools.accumulate" ["iterable", "func"] 1 ["initial"] fun args => match args with
      | [v, f, initial] => do
        let it ← iterate (Value.ofOption v)
        let start := match initial with
          | some .none | none => held none
          | some s => held (some s)
        new "itertools.accumulate" (.parts [it, Value.ofOption f, start, .bool (heldIn start).isSome])
      | _ => nothing,
    withNames "itertools.groupby" ["iterable", "key"] 1 [] fun args => do
      let it ← iterate (Value.ofOption (args[0]?).join)
      new "itertools.groupby"
        (.parts [it, Value.ofOption (args[1]?).join, held none, held none, held none]),
    method0 "itertools.groupby.__iter__" fun self => pure self,
    method0 "itertools.groupby.__next__" fun self => do
      match self, ← dataOf self with
      | .ref a, .parts parts => groupStep self a parts
      | _, _ => stopIteration [],
    method0 "itertools._grouper.__iter__" fun self => pure self,
    method0 "itertools._grouper.__next__" fun self => do
      match ← dataOf self with
      | .parts parts => match ← grouperStep self parts with
        | some (v, _) => pure v
        | none => stopIteration []
      | _ => stopIteration []] ++
  iteratorMethods "itertools.takewhile" (fun parts => do
    match parts with
    | [f, it] => match ← Run.next it with
      | some v => do
        if ← truth (← apply f [v]) then pure (some (v, parts)) else pure none
      | none => pure none
    | _ => pure none) ++
  iteratorMethods "itertools.dropwhile" (fun parts => do
    match parts with
    | [f, it, .bool true] => do
      return (← nextSuch it (fun v => do return !(← passes f v)) maxDrain).map
        (·, [f, it, .bool false])
    | [_, it, _] => return (← Run.next it).map (·, parts)
    | _ => pure none) ++
  iteratorMethods "itertools.filterfalse" (fun parts => do
    match parts with
    | [f, it] =>
      return (← nextSuch it (fun v => do return !(← passes f v)) maxDrain).map (·, parts)
    | _ => pure none) ++
  iteratorMethods "itertools.accumulate" (fun parts => do
    match parts with
    | [it, f, total, .bool true] =>
      pure ((heldIn total).map (·, [it, f, total, .bool false]))
    | [it, f, total, fresh] => match ← Run.next it with
      | none => pure none
      | some v => do
        let next ← match heldIn total with
          | none => pure v
          | some t => if f.isNone then operate .add t v else apply f [t, v]
        pure (some (next, [it, f, held (some next), fresh]))
    | _ => pure none)

/-! ## Arrangements -/

def placesValue (places : List Nat) : Value := .tuple (places.map fun (k : Nat) => .int k)

def placesIn : Value → List Nat
  | .tuple vs => vs.map fun v => (v.int?.getD 0).toNat
  | _ => []

def poolOf : Value → List Value
  | .tuple vs => vs
  | _ => []

/-- A step through arrangements: the values at the places, then the next places. -/
def arrangedStep (values : List Value → List Nat → List Value)
    (after : List Value → List Nat → Option (List Nat)) : IteratorStep := fun parts =>
  pure (match parts with
    | [pools, places] =>
      let ks := placesIn places
      let rest := match after (poolOf pools) ks with
        | some ks => [pools, placesValue ks]
        | none => []
      some (.tuple (values (poolOf pools) ks), rest)
    | _ => none)

def valuesAt (pool : List Value) (places : List Nat) : List Value :=
  places.map fun k => pool.getD k .none

/-- A new iterator over arrangements, at its first places if there are any. -/
def newArranged (type : String) (pools : List Value) (first : Option (List Nat)) : Run Value :=
  new type (.parts (match first with
    | some ks => [.tuple pools, placesValue ks]
    | none => []))

/-- The number of places in arrangements of a pool. -/
def countArgument (v : Option Value) (default_ : Nat) : Run Nat := do
  match v with
  | none | some .none => pure default_
  | some v => do
    match ← index? v with
    | none => wrongType "Expected int as r"
    | some _ =>
      let n ← asSize v
      if n < 0 then wrongValue "r must be non-negative" else pure n.toNat

def arrangementShelf : Shelf :=
  [("itertools.product", fun args named => do
      match named.find? fun e => e.1 != "repeat" with
      | some (name, _) => wrongType ("'" ++ name ++ "' is an invalid keyword argument for product()")
      | none => pure ()
      let times ← match named.lookup "repeat" with
        | some n => asSize n
        | none => pure 1
      if times < 0 then wrongValue "repeat argument cannot be negative"
      let pools ← args.mapM fun v => do return Value.tuple (← itemsOf v)
      let pools := (List.replicate times.toNat pools).flatten
      let isEmpty := pools.any fun p => (poolOf p).isEmpty
      newArranged "itertools.product" pools (if isEmpty then none else some (pools.map fun _ => 0))),
    withNames "itertools.permutations" ["iterable", "r"] 1 [] fun args => do
      let pool ← itemsOf (Value.ofOption (args[0]?).join)
      let r ← countArgument (args[1]?).join pool.length
      newArranged "itertools.permutations" pool (if pool.length < r then none else some (List.range r)),
    withNames "itertools.combinations" ["iterable", "r"] 2 [] fun args => do
      let pool ← itemsOf (Value.ofOption (args[0]?).join)
      let r ← countArgument (args[1]?).join 0
      newArranged "itertools.combinations" pool (if pool.length < r then none else some (List.range r)),
    withNames "itertools.combinations_with_replacement" ["iterable", "r"] 2 [] fun args => do
      let pool ← itemsOf (Value.ofOption (args[0]?).join)
      let r ← countArgument (args[1]?).join 0
      newArranged "itertools.combinations_with_replacement" pool
        (if pool.isEmpty && 0 < r then none else some (List.replicate r 0))] ++
  iteratorMethods "itertools.product"
    (arrangedStep (fun pools ks => (pools.zip ks).map fun (p, k) => (poolOf p).getD k .none)
      fun pools ks => Arrangement.nextChoice (pools.map fun p => (poolOf p).length) ks) ++
  iteratorMethods "itertools.permutations"
    (arrangedStep valuesAt fun pool ks => Arrangement.nextRow pool.length [] ks) ++
  iteratorMethods "itertools.combinations"
    (arrangedStep valuesAt fun pool ks => Arrangement.nextSubset pool.length ks) ++
  iteratorMethods "itertools.combinations_with_replacement"
    (arrangedStep valuesAt fun pool ks => Arrangement.nextMultiset pool.length ks)

/-- Iterators made of others or of functions. -/
def iteratorsShelf : Shelf :=
  iteratorToolShelf ++ countingShelf ++ joiningShelf ++ testingShelf ++ arrangementShelf

end Library

end LiveSketch.Script

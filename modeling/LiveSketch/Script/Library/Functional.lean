import LiveSketch.Script.Library.Operator

/-!
# Functions about functions

Folding, filling in arguments, remembering results, and telling how values compare.
-/

namespace LiveSketch.Script

namespace Library

open Run

def namedDict (named : List (String × Value)) : Run Value :=
  newDict (named.foldl (fun t (n, v) => t.putName n v) .empty)

/-- Folds the values of an iterator. -/
def reduced (args : List Value) : Run Value := do
  let f := args.getD 0 .none
  let step (total v : Value) : Run (Value × Bool) := do return (← apply f [total, v], true)
  let it ← orElse (iterate (args.getD 1 .none)) fun fault => do
    if ← isOfType fault "TypeError" then wrongType "reduce() arg 2 must support iteration"
    else raiseFault fault
  match args[2]? with
  | some start => eachNext it step maxDrain start
  | none => match ← Run.next it with
    | none => wrongType "reduce() of empty iterable with no initial value"
    | some start => eachNext it step maxDrain start

/-- The members that one function takes over from another. -/
def takenOver : List String := ["__module__", "__name__", "__qualname__", "__doc__"]

/-- Makes a function look like another. -/
def updateWrapper (wrapper wrapped : Value) : Run Value := do
  let put (name : String) (v : Value) : Run Unit := do
    match wrapper with
    | .ref a => changeMembers a (·.putName name v)
    | _ => setMember wrapper name v
  for name in takenOver do
    match ← orMissing? (getMember wrapped name) with
    | some v => put name v
    | none => pure ()
  match wrapped with
  | .ref a => (← object a).attrs.toList.forM fun e => do
      match e.key with
      | .text name =>
        if name.startsWith "__" then pure () else put name e.value
      | _ => pure ()
  | _ => pure ()
  put "__wrapped__" wrapped
  pure wrapper
where
  /-- A member, unless it is missing. -/
  orMissing? (x : Run Value) : Run (Option Value) :=
    orElse (do return some (← x)) fun fault => do
      if ← isOfType fault "AttributeError" then pure none else raiseFault fault

/-! ## Arguments filled in -/

/-- Functions with arguments filled in. -/
def partialShelf : Shelf :=
  [("functools.partial", fun args named => do
      match args with
      | f :: rest => do
        if !(← isCallable f) then wrongType "the first argument must be callable"
        let d ← namedDict named
        let p ← new "functools.partial" (.parts [f, .tuple rest, d])
        match p with
        | .ref a => changeMembers a fun t =>
            ((t.putName "func" f).putName "args" (.tuple rest)).putName "keywords" d
        | _ => pure ()
        pure p
      | [] => wrongType "type 'partial' takes at least one argument"),
    method0 "functools.partial.__repr__" fun self => do
      match ← dataOf self with
      | .parts [f, .tuple given, d] =>
        let byName ← (← namedIn d).mapM fun (n, v) => do return n ++ "=" ++ (← shown v)
        return .text ("functools.partial(" ++
          ", ".intercalate ((← shown f) :: (← given.mapM shown) ++ byName) ++ ")")
      | _ => pure (.text ""),
    ("functools.partial.__call__", fun args named => do
      match args with
      | self :: rest => match ← dataOf self with
        | .parts [f, .tuple first, d] => do
          let before ← namedIn d
          let kept := before.map fun (n, v) => (n, (named.lookup n).getD v)
          let added := named.filter fun e => !(before.any fun b => b.1 == e.1)
          call f (first ++ rest) (kept ++ added)
        | _ => nothing
      | [] => nothing),
    withNames "functools.update_wrapper" ["wrapper", "wrapped"] 2 [] fun args => match args with
      | [some wrapper, some wrapped] => updateWrapper wrapper wrapped
      | _ => nothing,
    withNames "functools.wraps" ["wrapped"] 1 [] fun args => do
      let d ← namedDict [("wrapped", Value.ofOption (args[0]?).join)]
      new "functools.partial" (.parts [.native "functools.update_wrapper", .tuple [], d])]

/-! ## Results remembered -/

/-- A function that remembers results: the function, its results, how many of them at most, and how
often one was there and was not. -/
def rememberedFunction (f most : Value) : Run Value := do
  let known ← newDict .empty
  let w ← new "functools._lru_cache_wrapper" (.parts [f, known, most, .int 0, .int 0])
  updateWrapper w f

/-- Calls a function that remembers its results. -/
def callRemembered (self : Value) (args : List Value) (named : List (String × Value)) :
    Run Value := do
  match self, ← dataOf self with
  | .ref a, .parts [f, .ref known, most, .int hits, .int misses] => do
    let key ← keyOf (.tuple [.tuple args, .tuple (named.map fun (n, v) => .tuple [.text n, v])])
    match (← tableAt known).get? key with
    | some v => do
      setData a (.parts [f, .ref known, most, .int (hits + 1), .int misses])
      changeTable known fun t => (t.erase key).put key .none v
      pure v
    | none => do
      setData a (.parts [f, .ref known, most, .int hits, .int (misses + 1)])
      let v ← call f args named
      let limit := most.int?.map Int.toNat
      if limit ≠ some 0 then
        changeTable known fun t =>
          let t := match limit, t.toList with
            | some n, e :: _ => if n ≤ t.size then t.erase e.key else t
            | _, _ => t
          t.put key .none v
      pure v
  | _, _ => nothing

def rememberShelf : Shelf :=
  [one "functools.cache" fun f => rememberedFunction f .none,
    withNames "functools.lru_cache" ["maxsize", "typed"] 0 [] fun args => do
      let most := match (args[0]?).join with
        | some v => v
        | none => .int 128
      match most with
      | .none => new "functools._lru_cache_maker" (.parts [.none])
      | .int n => new "functools._lru_cache_maker" (.parts [.int (max 0 n)])
      | f =>
        if ← isCallable f then rememberedFunction f (.int 128)
        else wrongType "Expected first argument to be an integer, a callable, or None",
    method1 "functools._lru_cache_maker.__call__" fun self f => do
      match ← dataOf self with
      | .parts [most] => rememberedFunction f most
      | _ => nothing,
    ("functools._lru_cache_wrapper.__call__", fun args named => match args with
      | self :: rest => callRemembered self rest named
      | [] => nothing),
    methodOf "functools._lru_cache_wrapper.__get__" 1 2 fun self args =>
      pure (match args with
        | .none :: _ => self
        | owner :: _ => .bound owner self
        | [] => self),
    method0 "functools._lru_cache_wrapper.cache_clear" fun self => do
      match self, ← dataOf self with
      | .ref a, .parts [f, .ref known, most, _, _] => do
        changeTable known fun _ => .empty
        setData a (.parts [f, .ref known, most, .int 0, .int 0])
        nothing
      | _, _ => nothing,
    method0 "functools._lru_cache_wrapper.cache_info" fun self => do
      match ← dataOf self with
      | .parts [_, .ref known, most, hits, misses] => do
        let size := (← tableAt known).size
        let info ← new "functools._CacheInfo" (.parts [hits, misses, most, .int size])
        match info with
        | .ref a => changeMembers a fun t => ((((t.putName "hits" hits).putName "misses" misses).putName
            "maxsize" most).putName "currsize" (.int size))
        | _ => pure ()
        pure info
      | _ => nothing,
    method0 "functools._CacheInfo.__repr__" fun self => do
      match ← dataOf self with
      | .parts [hits, misses, most, size] =>
        return .text ("CacheInfo(hits=" ++ (← shown hits) ++ ", misses=" ++ (← shown misses) ++
          ", maxsize=" ++ (← shown most) ++ ", currsize=" ++ (← shown size) ++ ")")
      | _ => pure (.text ""),
    one "functools.cached_property" fun f => new "functools.cached_property" (.parts [f, .none]),
    methodOf "functools.cached_property.__set_name__" 2 2 fun self args => do
      match self, ← dataOf self with
      | .ref a, .parts [f, _] => setData a (.parts [f, args.getD 1 .none])
      | _, _ => pure ()
      nothing,
    methodOf "functools.cached_property.__get__" 1 2 fun self args => do
      match ← dataOf self, args with
      | .parts _, .none :: _ => pure self
      | .parts [f, .text name], owner :: _ => do
        let v ← apply f [owner]
        putMember owner name (some v)
        pure v
      | _, _ =>
        wrongType "Cannot use cached_property instance without calling __set_name__ on it."]

/-! ## Comparisons -/

/-- The answer of a comparison by two others, or the sign that there is none. -/
def combinedAnswer (self other : Value) (name : String) (combine : Bool → Run Bool) : Run Value := do
  match ← callSpecial? self name [other] with
  | none | some .notImplemented => pure .notImplemented
  | some r => return .bool (← combine (← truth r))

/-- Comparisons made from another one: its name, what is made, and how. -/
def derivedComparisons : List (String × String × (Bool → Bool → Bool)) :=
  [("__lt__", "__gt__", fun r same => !r && !same), ("__lt__", "__le__", fun r same => r || same),
    ("__lt__", "__ge__", fun r _ => !r),
    ("__le__", "__ge__", fun r same => !r || same), ("__le__", "__lt__", fun r same => r && !same),
    ("__le__", "__gt__", fun r _ => !r),
    ("__gt__", "__lt__", fun r same => !r && !same), ("__gt__", "__ge__", fun r same => r || same),
    ("__gt__", "__le__", fun r _ => !r),
    ("__ge__", "__le__", fun r same => !r || same), ("__ge__", "__gt__", fun r same => r && !same),
    ("__ge__", "__lt__", fun r _ => !r)]

/-- The name of a comparison that is made from another one. -/
def derivedName (root made : String) : String := "functools." ++ made ++ "from" ++ root

/-- Gives a class all comparisons by order. -/
def totalOrdering (cls : Value) : Run Value := do
  match ← classOf? cls, cls with
  | some c, .ref a => do
    let has (name : String) : Run Bool := do
      match ← lookupIn c.order name with
      | some (.native full) => return !full.startsWith "object."
      | found => return found.isSome
    let roots ← ["__lt__", "__le__", "__gt__", "__ge__"].filterM has
    match roots with
    | [] => wrongValue "must define at least one ordering operation: < > <= >="
    | root :: _ => do
      derivedComparisons.forM fun (from_, made, _) => do
        if from_ == root && !roots.contains made then
          changeMembers a (·.putName made (.native (derivedName root made)))
      pure cls
  | _, _ => pure cls

def comparingShelf : Shelf :=
  [one "functools.total_ordering" totalOrdering,
    withNames "functools.cmp_to_key" ["mycmp"] 1 [] fun args =>
      new "functools.KeyMaker" (.parts [Value.ofOption (args[0]?).join]),
    method1 "functools.KeyMaker.__call__" fun self v => do
      match ← dataOf self with
      | .parts [f] => new "functools.KeyWrapper" (.parts [f, v])
      | _ => nothing] ++
  comparisonFunctions.map (fun (name, c) =>
    method1 ("functools.KeyWrapper.__" ++ name ++ "__") fun self other => do
      match ← dataOf self, ← dataOf other with
      | .parts [f, a], .parts [_, b] => compare c (← apply f [a, b]) (.int 0)
      | _, _ => wrongType "other argument must be K instance") ++
  derivedComparisons.map (fun (root, made, combine) =>
    method1 (derivedName root made) fun self other =>
      combinedAnswer self other root fun r => do
        return combine r (← equalTo self other))

def functionalShelf : Shelf :=
  some_ "functools.reduce" 2 3 reduced :: (partialShelf ++ rememberShelf ++ comparingShelf)

end Library

end LiveSketch.Script

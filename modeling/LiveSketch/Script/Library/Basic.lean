import LiveSketch.Script.Machine.Step

/-!
# Functions of the language

How functions of the language are given to scripts: each has a full name, and looks at its arguments
itself. The helpers here refuse arguments that do not fit, in the words that scripts expect.
-/

namespace LiveSketch.Script

/-- Functions of the language under their full names. -/
abbrev Shelf := List (String × Native)

namespace Library

open Run

/-- Refuses arguments by name. -/
def noNamed (name : String) (named : List (String × Value)) : Run Unit := do
  if !named.isEmpty then wrongType (name ++ "() takes no keyword arguments")

/-- A function without arguments. -/
def none0 (name : String) (f : Run Value) : String × Native :=
  (name, fun args named => do
    noNamed name named
    if args.isEmpty then f
    else wrongType (name ++ "() takes no arguments (" ++ toString args.length ++ " given)"))

def one (name : String) (f : Value → Run Value) : String × Native :=
  (name, fun args named => do
    noNamed name named
    match args with
    | [a] => f a
    | _ => wrongType (name ++ "() takes exactly one argument (" ++ toString args.length ++ " given)"))

def countWords (n : Nat) : String := toString n ++ " argument" ++ (if n = 1 then "" else "s")

/-- A function of some arguments, at least and at most so many. -/
def some_ (name : String) (least most : Nat) (f : List Value → Run Value) : String × Native :=
  (name, fun args named => do
    noNamed name named
    let short := lastPart name
    if args.length < least then
      wrongType (short ++ " expected " ++ (if least = most then "" else "at least ") ++
        countWords least ++ ", got " ++ toString args.length)
    if most < args.length then
      wrongType (short ++ " expected " ++ (if least = most then "" else "at most ") ++
        countWords most ++ ", got " ++ toString args.length)
    f args)

/-- A function of any number of arguments. -/
def many (name : String) (f : List Value → Run Value) : String × Native :=
  (name, fun args named => do
    noNamed name named
    f args)

/-- A function with arguments by place and by name. Parameters after the first `required` may be
missing; those in `onlyNamed` are given by name. -/
def withNames (name : String) (placed : List String) (required : Nat) (onlyNamed : List String)
    (f : List (Option Value) → Run Value) : String × Native :=
  (name, fun args named => do
    let short := lastPart name
    let p : Parameters := ⟨placed, 0, onlyNamed, false, false⟩
    let blank : List (Option Value) := List.replicate (placed.length - required) none
    match p.bind blank (onlyNamed.map (·, none)) (args.map some) (named.map fun e => (e.1, some e.2)) with
    | .ok b => f (b.placed ++ b.namedOnly)
    | .error e => wrongType (short ++ "() " ++ e.words))

def method0 (name : String) (f : Value → Run Value) : String × Native :=
  (name, fun args named => do
    noNamed name named
    match args with
    | [self] => f self
    | [] => wrongType ("unbound method " ++ name ++ "() needs an argument")
    | _ => wrongType (name ++ "() takes no arguments (" ++ toString (args.length - 1) ++ " given)"))

def method1 (name : String) (f : Value → Value → Run Value) : String × Native :=
  (name, fun args named => do
    noNamed name named
    match args with
    | [self, a] => f self a
    | _ =>
      wrongType (name ++ "() takes exactly one argument (" ++ toString (args.length - 1) ++ " given)"))

/-- A method of some arguments, at least and at most so many. -/
def methodOf (name : String) (least most : Nat) (f : Value → List Value → Run Value) :
    String × Native :=
  (name, fun args named => do
    match args with
    | [] => wrongType ("unbound method " ++ name ++ "() needs an argument")
    | self :: rest => (some_ name least most (f self)).2 rest named)

/-- A method with arguments by place and by name. -/
def methodNames (name : String) (placed : List String) (required : Nat) (onlyNamed : List String)
    (f : Value → List (Option Value) → Run Value) : String × Native :=
  (name, fun args named => do
    match args with
    | [] => wrongType ("unbound method " ++ name ++ "() needs an argument")
    | self :: rest => (withNames name placed required onlyNamed (f self)).2 rest named)

/-! ## Arguments -/

def nothing : Run Value := pure .none

def textArgument (v : Value) (words : String) : Run String := do
  match ← unwrap v with
  | .text s => pure s
  | _ => wrongType (words ++ (← typeName v))

/-- The floating number that a value stands for, if it stands for one. -/
def float? (v : Value) : Run (Option Float) := do
  match ← unwrap v with
  | .float x => pure (some x)
  | w => match w.int? with
    | some n => return some (← troubled (boundedFloat n))
    | none => match ← callSpecial? v "__float__" [] with
      | some (.float x) => pure (some x)
      | some other =>
        wrongType ((← typeName v) ++ ".__float__ returned non-float (type " ++ (← typeName other) ++ ")")
      | none => match ← callSpecial? v "__index__" [] with
        | some (.int n) => return some (← troubled (boundedFloat n))
        | _ => pure none

/-- The floating number that a value stands for. -/
def asFloat (v : Value) : Run Float := do
  match ← float? v with
  | some x => pure x
  | none => wrongType ("must be real number, not " ++ (← typeName v))

def listOf (vs : List Value) : Run Value := newList vs

/-- Merges sorted rows; of equal values those of the first come first. -/
def mergeRows (less : Value → Value → Run Bool) :
    Nat → List Value → List Value → Array Value → Run (List Value)
  | 0, xs, ys, out => pure (out.toList ++ xs ++ ys)
  | fuel + 1, xs, ys, out => match xs, ys with
    | [], ys => pure (out.toList ++ ys)
    | xs, [] => pure (out.toList ++ xs)
    | x :: xs, y :: ys => do
      if ← less y x then mergeRows less fuel (x :: xs) ys (out.push y)
      else mergeRows less fuel xs (y :: ys) (out.push x)

/-- The length of the row at the start whose values each come before the one in front of them, or of
the one in which none does, according to `falls`. -/
def runLength (less : Value → Value → Run Bool) (falls : Bool) : Value → List Value → Run Nat
  | _, [] => pure 0
  | before, v :: rest => do
    if (← less v before) == falls then return (← runLength less falls v rest) + 1 else pure 0

/-- The place for a value in a sorted row, found by halving. -/
def insertionPlace (less : Value → Value → Run Bool) (row : Array Value) (v : Value) :
    Nat → Nat → Nat → Run Nat
  | 0, low, _ => pure low
  | fuel + 1, low, high => do
    if high ≤ low then pure low
    else
      let middle := low + (high - low) / 2
      if ← less v (row.getD middle .none) then insertionPlace less row v fuel low middle
      else insertionPlace less row v fuel (middle + 1) high

/-- Sorts a short row: what is in order at its start, and then one value after the other. -/
def insertionSorted (less : Value → Value → Run Bool) (vs : List Value) : Run (List Value) := do
  match vs with
  | v :: w :: rest =>
    let falls ← less w v
    let length := 2 + (← runLength less falls w rest)
    let start := if falls then (vs.take length).reverse else vs.take length
    let sorted ← (vs.drop length).foldlM (fun (row : Array Value) v => do
      let place ← insertionPlace less row v 70 0 row.size
      pure (row.extract 0 place ++ #[v] ++ row.extract place row.size)) start.toArray
    pure sorted.toList
  | vs => pure vs

/-- Sorts values by a comparison that may break off; equal ones keep their order. -/
def mergeSorted (less : Value → Value → Run Bool) : Nat → List Value → Run (List Value)
  | 0, vs => pure vs
  | fuel + 1, vs => do
    if vs.length < 64 then insertionSorted less vs
    else
      let half := vs.length / 2
      let left ← mergeSorted less fuel (vs.take half)
      let right ← mergeSorted less fuel (vs.drop half)
      mergeRows less (left.length + right.length) left right #[]

/-- One value comes before another, where this is known at once. -/
def quickLess? (a b : Value) : Option Bool :=
  match a, b with
  | .int x, .int y => some (decide (x < y))
  | .float x, .float y => some (x < y)
  | .text x, .text y => some (decide (x < y))
  | _, _ => none

/-- One value comes before another. -/
def less (a b : Value) : Run Bool := do
  match quickLess? a b with
  | some r => pure r
  | none => isLess a b

/-- The values sorted, by a key if there is one. -/
def sortedBy (vs : List Value) (key : Value) (backwards : Bool) : Run (List Value) := do
  let vs := if backwards then vs.reverse else vs
  let sorted ←
    if key.isNone then mergeSorted less 64 vs
    else do
      let keyed ← vs.mapM fun v => do return Value.tuple [← apply key [v], v]
      let first (v : Value) : Value := match v with
        | .tuple (k :: _) => k
        | v => v
      let sorted ← mergeSorted (fun a b => less (first a) (first b)) 64 keyed
      pure (sorted.map fun v => match v with
        | .tuple [_, v] => v
        | v => v)
  pure (if backwards then sorted.reverse else sorted)

end Library

end LiveSketch.Script

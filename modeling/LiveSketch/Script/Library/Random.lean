import LiveSketch.Digest.Sha512
import LiveSketch.Script.Library.Import
import LiveSketch.Script.Library.Mathematics
import LiveSketch.Script.Value.Twister

/-!
# Random numbers

Random numbers for scripts. A script that seeds a source gets the same numbers each time. Each
function is there for the common source, and as a method of sources of a script's own.
-/

namespace LiveSketch.Script

namespace Library

open Run

/-! ## Sources -/

/-- The name under which the common source is kept. -/
def commonSource : String := "_inst"

def newSource : Run Value := do
  let t := Twister.ofSeed 5489
  new "random.Random" (.words t.words t.index none)

def theSource : Run Value := do
  match ← moduleObject 3 "random" with
  | .ref m => match (← object m).attrs.name? commonSource with
    | some s => pure s
    | none => do
      let s ← newSource
      changeMembers m (·.putName commonSource s)
      pure s
  | v => pure v

/-- Takes something from a source. -/
def draw {α : Type} (source : Value) (f : Twister → α × Twister) : Run α := do
  match source, ← dataOf source with
  | .ref a, .words ws index spare => do
    let (x, t) := f ⟨ws, index⟩
    setData a (.words t.words t.index spare)
    pure x
  | _, _ => return (f default).1

/-- A random number from zero up to but not including one. -/
def chance (source : Value) : Run Float := draw source Twister.float

/-- A random whole number below a bound: numbers of as many binary digits, until one is below it. -/
def below (source : Value) (n : Nat) : Run Nat := do
  let k := binaryLength n
  let rec go : Nat → Run Nat
    | 0 => throw Stop.spent
    | fuel + 1 => do
      let r ← draw source (Twister.number k)
      if r < n then pure r else go fuel
  if n = 0 then pure 0 else go 100000

/-- The number that bytes make, the most significant first. -/
def numberOfBytes (bs : List UInt8) : Nat := bs.foldl (fun n b => 256 * n + b.toNat) 0

/-- The seed that bytes stand for: the bytes and their digest, as one number. -/
def seedOfBytes (bs : List UInt8) : Nat := numberOfBytes (bs ++ Sha512.digest bs)

/-- The seed that codes of characters stand for by the older rule. -/
def olderSeed (codes : List Nat) : Nat :=
  let mixed := codes.foldl (fun x c => ((1000003 * x) ^^^ c) % 2 ^ 64) ((codes.headD 0) * 128)
  mixed ^^^ codes.length

/-- Seeds a source, by the rule of a version where the seed is a text or bytes. -/
def seedSource (source v : Value) (version : Value) : Run Value := do
  let older := version.int? == some 1
  let seed ← match ← unwrap v with
    | .none => pure 5489
    | .int n => pure n.natAbs
    | .bool b => pure (if b then 1 else 0)
    | .float x => pure (((keyHash? (floatKey x)).getD 0) % 2 ^ 64).toNat
    | .text s => pure (if older then olderSeed (s.toList.map Char.toNat) else seedOfBytes s.toUTF8.toList)
    | .bytes bs => pure (if older then olderSeed (bs.map UInt8.toNat) else seedOfBytes bs)
    | _ => wrongType ("The only supported seed types are: None,\n" ++
        "int, float, str, bytes, and bytearray.")
  match source with
  | .ref a => do
    let t := Twister.ofSeed seed
    setData a (.words t.words t.index none)
  | _ => pure ()
  nothing

/-! ## Whole numbers and choices -/

/-- An end or a step of a range, which may also be given as a number that equals a whole one. -/
def wholeBound (v : Value) (what : String) : Run Int := do
  match ← index? v with
  | some n => pure n
  | none => do
    let n := (← makeInt [some v, none]).int?.getD 0
    if ← truth (← compare .notEq (.int n) v) then wrongValue ("non-integer " ++ what ++ " randrange()")
    pure n

/-- A random whole number of a range. -/
def inRange (source : Value) (start stop step : Value) : Run Value := do
  let first ← wholeBound start "arg 1 for"
  match stop with
  | .none =>
    if step.int? ≠ some 1 then wrongType "Missing a non-None stop argument"
    if first ≤ 0 then wrongValue "empty range for randrange()"
    return .int (← below source first.toNat)
  | stop => do
    let last ← wholeBound stop "stop for"
    let width := last - first
    let step ← wholeBound step "step for"
    if step = 1 then
      if width ≤ 0 then
        wrongValue ("empty range for randrange() (" ++ toString first ++ ", " ++ toString last ++ ", " ++
          toString width ++ ")")
      return .int (first + (← below source width.toNat))
    else
      if step = 0 then wrongValue "zero step for randrange()"
      let n := if 0 < step then Int.fdiv (width + step - 1) step else Int.fdiv (width + step + 1) step
      if n ≤ 0 then wrongValue "empty range for randrange()"
      return .int (first + step * (← below source n.toNat))

/-- The number of items of a value, by whatever has a length. -/
def lengthIn (v : Value) : Run Nat := do
  match ← native "len" [v] with
  | .int n => pure n.toNat
  | _ => pure 0

def chooseOne (source v : Value) : Run Value := do
  let n ← lengthIn v
  if n = 0 then raise "IndexError" "Cannot choose from an empty sequence"
  getItem v (.int (← below source n))

/-- The place of the first of some growing numbers that is greater than another, or the last place. -/
def placeAbove (sums : List Value) (x : Value) : Nat → Run Nat
  | k => match sums with
    | [] | [_] => pure k
    | s :: rest => do
      if ← truth (← compare .lt x s) then pure k else placeAbove rest x (k + 1)

/-- Random items, each by its weight. -/
def chooseMany (source : Value) (args : List (Option Value)) : Run Value := do
  match args with
  | [some population, weights, sums, k] => do
    let n ← lengthIn population
    let count ← asSize (k.getD (.int 1))
    let weights := Value.ofOption weights
    let sums := Value.ofOption sums
    let times := List.replicate count.toNat ()
    match weights, sums with
    | .none, .none =>
      let picked ← times.mapM fun _ => do
        let x ← chance source
        getItem population (.int (truncated (x * floatOfInt n).floor))
      newList picked
    | weights, given => do
      if !weights.isNone && !given.isNone then
        wrongType "Cannot specify both weights and cumulative weights"
      let sums ← if weights.isNone then itemsOf given else do
        match weights with
        | .int k =>
          wrongType ("The number of choices must be a keyword argument: k=" ++ toString k)
        | _ => pure ()
        let (all, _) ← (← itemsOf weights).foldlM (fun ((all, total) : Array Value × Option Value) w => do
          let total ← match total with
            | none => pure w
            | some t => operate .add t w
          pure (all.push total, some total)) (#[], none)
        pure all.toList
      if sums.length ≠ n then wrongValue "The number of weights does not match the population"
      let total ← asFloat (← operate .add (sums.getLastD .none) (.float 0.0))
      if total ≤ 0.0 then wrongValue "Total of weights must be greater than zero"
      if isUnbounded total then wrongValue "Total of weights must be finite"
      let picked ← times.mapM fun _ => do
        let x ← chance source
        getItem population (.int (← placeAbove sums (.float (x * total)) 0))
      newList picked
  | _ => nothing

/-- Puts the items of a row in a random order. -/
def shuffleRow (source row : Value) : Run Value := do
  let n ← lengthIn row
  for k in (List.range (n - 1)).reverse do
    let i := k + 1
    let j ← below source (i + 1)
    let a ← getItem row (.int i)
    let b ← getItem row (.int j)
    setItem row (.int i) b
    setItem row (.int j) a
  nothing

/-- The size above which few items are picked one by one. -/
def poolLimit (k : Nat) : Nat :=
  if k ≤ 5 then 21
  else
    let rec go : Nat → Nat → Nat
      | 0, size => size
      | fuel + 1, size => if 3 * k ≤ size then size else go fuel (4 * size)
    21 + go 64 1

/-- Random items of a row, none of them twice. -/
def sampleOf (source : Value) (args : List (Option Value)) : Run Value := do
  match args with
  | [some population, some k, counts] => do
    let k ← asIndex k
    let isRow ← match ← unwrap population with
      | .tuple _ | .text _ | .bytes _ | .range _ _ _ => pure true
      | w => match ← dataOf w with
        | .list _ => pure true
        | _ => pure false
    if !isRow then
      wrongType "Population must be a sequence.  For dicts or sets, use sorted(d)."
    let (n, item) ← match Value.ofOption counts with
      | .none => do
        let item (j : Nat) : Run Value := getItem population (.int j)
        pure (← lengthIn population, item)
      | counts => do
        let items ← itemsOf population
        let counts ← (← itemsOf counts).mapM asIndex
        if counts.length ≠ items.length then
          wrongValue "The number of counts does not match the population"
        let all := ((items.zip counts).flatMap fun (v, n) => List.replicate n.toNat v).toArray
        if all.isEmpty then wrongValue "Total of counts must be greater than zero"
        let item (j : Nat) : Run Value := pure (all.getD j .none)
        pure (all.size, item)
    if k < 0 || (n : Int) < k then wrongValue "Sample larger than population or is negative"
    let k := k.toNat
    if n ≤ poolLimit k then
      let all ← (List.range n).mapM item
      let (picked, _) ← (List.range k).foldlM (fun ((picked, pool) : Array Value × Array Value) i => do
        let j ← below source (n - i)
        let v := pool.getD j .none
        pure (picked.push v, pool.setIfInBounds j (pool.getD (n - i - 1) .none))) (#[], all.toArray)
      newList picked.toList
    else
      let rec fresh : Nat → List Nat → Run Nat
        | 0, _ => throw Stop.spent
        | fuel + 1, taken => do
          let j ← below source n
          if taken.contains j then fresh fuel taken else pure j
      let (picked, _) ← (List.range k).foldlM (fun ((picked, taken) : Array Value × List Nat) _ => do
        let j ← fresh 1000000 taken
        return (picked.push (← item j), j :: taken)) (#[], [])
      newList picked.toList
  | _ => nothing

/-! ## Distributions -/

/-- A number around a middle, by the ratio of two random numbers. -/
def normalStep (source : Value) : Nat → Run Float
  | 0 => throw Stop.spent
  | fuel + 1 => do
    let u ← chance source
    let v := 1.0 - (← chance source)
    let z := 1.7155277699214135 * (u - 0.5) / v
    if z * z / 4.0 ≤ -(Float.log v) then pure z else normalStep source fuel

/-- A number around a middle, two of which are made at a time. -/
def gaussStep (source : Value) : Run Float := do
  match source, ← dataOf source with
  | .ref a, .words ws index (some z) => do
    setData a (.words ws index none)
    pure z
  | _, _ => do
    let angle := (← chance source) * 6.283185307179586
    let size := Float.sqrt (-2.0 * Float.log (1.0 - (← chance source)))
    match source, ← dataOf source with
    | .ref a, .words ws index _ => setData a (.words ws index (some (Float.sin angle * size)))
    | _, _ => pure ()
    pure (Float.cos angle * size)

/-- A number by the gamma distribution with a shape above one. -/
def gammaAbove (source : Value) (alpha : Float) : Nat → Run Float
  | 0 => throw Stop.spent
  | fuel + 1 => do
    let root := Float.sqrt (2.0 * alpha - 1.0)
    let u ← chance source
    if !(1e-7 < u && u < 0.9999999) then gammaAbove source alpha fuel
    else
      let w := 1.0 - (← chance source)
      let v := Float.log (u / (1.0 - u)) / root
      let x := alpha * Float.exp v
      let z := u * u * w
      let r := (alpha - 1.3862943611198906) + (alpha + root) * v - x
      if r + 2.504077396776274 - 4.5 * z ≥ 0.0 || r ≥ Float.log z then pure x
      else gammaAbove source alpha fuel

/-- A number by the gamma distribution with a shape below one. -/
def gammaBelow (source : Value) (alpha : Float) : Nat → Run Float
  | 0 => throw Stop.spent
  | fuel + 1 => do
    let e := 2.718281828459045
    let b := (e + alpha) / e
    let p := b * (← chance source)
    let x := if p ≤ 1.0 then Float.pow p (1.0 / alpha) else -(Float.log ((b - p) / alpha))
    let u ← chance source
    if p > 1.0 then
      if u ≤ Float.pow x (alpha - 1.0) then pure x else gammaBelow source alpha fuel
    else if u ≤ Float.exp (-x) then pure x else gammaBelow source alpha fuel

def gammaNumber (source : Value) (alpha beta : Float) : Run Float := do
  if alpha ≤ 0.0 || beta ≤ 0.0 then wrongValue "gammavariate: alpha and beta must be > 0.0"
  if alpha > 1.0 then return (← gammaAbove source alpha 1000000) * beta
  else if alpha == 1.0 then return -(Float.log (1.0 - (← chance source))) * beta
  else return (← gammaBelow source alpha 1000000) * beta

/-- The cosine of an angle around a direction with a spread of `r`. -/
def angleStep (source : Value) (r : Float) : Nat → Run Float
  | 0 => throw Stop.spent
  | fuel + 1 => do
    let z := Float.cos (3.141592653589793 * (← chance source))
    let d := z / (r + z)
    let u ← chance source
    if u < 1.0 - d * d || u ≤ (1.0 - d) * Float.exp d then pure z else angleStep source r fuel

def angleAround (source : Value) (middle strength : Float) : Run Float := do
  let turn := 6.283185307179586
  if strength ≤ 1e-6 then return turn * (← chance source)
  let s := 0.5 / strength
  let r := s + Float.sqrt (1.0 + s * s)
  let z ← angleStep source r 1000000
  let q := 1.0 / r
  let away := Float.acos ((q + z) / (1.0 + q * z))
  let angle := if (← chance source) > 0.5 then middle + away else middle - away
  match ← operate .mod (.float angle) (.float turn) with
  | .float x => pure x
  | _ => pure angle

def triangular (source : Value) (low high : Float) (mode : Option Float) : Run Float := do
  let u ← chance source
  match mode with
  | some m =>
    if high == low then pure low
    else finish u ((m - low) / (high - low))
  | none => finish u 0.5
where
  /-- The number for a random number and the place of the peak. -/
  finish (u c : Float) : Run Float :=
    if u > c then pure (high + (low - high) * Float.sqrt ((1.0 - u) * (1.0 - c)))
    else pure (low + (high - low) * Float.sqrt (u * c))

/-! ## Functions -/

/-- A function of a source: its name, its parameters, how many are needed, those by name only, and
what it does. -/
structure SourceFunction where
  name : String
  placed : List String
  required : Nat
  onlyNamed : List String
  run : Value → List (Option Value) → Run Value

def ofNumbers (name : String) (placed : List String) (defaults : List Float)
    (f : Value → List Float → Run Float) : SourceFunction :=
  ⟨name, placed, placed.length - defaults.length, [], fun source args => do
    let missing := placed.length - defaults.length
    let xs ← (args.zip (List.range args.length)).mapM fun (a, k) => do
      match a with
      | some v => asFloat v
      | none => pure (defaults.getD (k - missing) 0.0)
    return .float (← f source xs)⟩

def argument (args : List (Option Value)) (k : Nat) : Value := Value.ofOption (args[k]?).join

def sourceFunctions : List SourceFunction :=
  [⟨"seed", ["a", "version"], 0, [], fun s args =>
      seedSource s (argument args 0) (argument args 1)⟩,
    ⟨"random", [], 0, [], fun s _ => do return .float (← chance s)⟩,
    ⟨"getrandbits", ["k"], 1, [], fun s args => do
      let k ← asSmall (argument args 0)
      if k < 0 then wrongValue "number of bits must be non-negative"
      return .int (← draw s (Twister.number k.toNat))⟩,
    ⟨"randrange", ["start", "stop", "step"], 1, [], fun s args =>
      inRange s (argument args 0) (argument args 1) (((args[2]?).join).getD (.int 1))⟩,
    ⟨"randint", ["a", "b"], 2, [], fun s args => do
      inRange s (argument args 0) (← operate .add (argument args 1) (.int 1)) (.int 1)⟩,
    ⟨"choice", ["seq"], 1, [], fun s args => chooseOne s (argument args 0)⟩,
    ⟨"choices", ["population", "weights"], 1, ["cum_weights", "k"], chooseMany⟩,
    ⟨"shuffle", ["x"], 1, [], fun s args => shuffleRow s (argument args 0)⟩,
    ⟨"sample", ["population", "k"], 2, ["counts"], sampleOf⟩,
    ⟨"randbytes", ["n"], 1, [], fun s args => do
      let n ← asIndex (argument args 0)
      let bits ← draw s (Twister.number (8 * n.toNat))
      pure (.bytes ((List.range n.toNat).map fun k => UInt8.ofNat (bits / 256 ^ k % 256)))⟩,
    ⟨"uniform", ["a", "b"], 2, [], fun s args => do
      let width ← operate .sub (argument args 1) (argument args 0)
      operate .add (argument args 0) (← operate .mult width (.float (← chance s)))⟩,
    ⟨"triangular", ["low", "high", "mode"], 0, [], fun s args => do
      let low ← match argument args 0 with
        | .none => pure 0.0
        | v => asFloat v
      let high ← match argument args 1 with
        | .none => pure 1.0
        | v => asFloat v
      let mode ← match argument args 2 with
        | .none => pure none
        | v => do pure (some (← asFloat v))
      return .float (← triangular s low high mode)⟩,
    ofNumbers "normalvariate" ["mu", "sigma"] [0.0, 1.0] fun s xs => do
      return xs.getD 0 0.0 + (← normalStep s 1000000) * xs.getD 1 0.0,
    ofNumbers "gauss" ["mu", "sigma"] [0.0, 1.0] fun s xs => do
      return xs.getD 0 0.0 + (← gaussStep s) * xs.getD 1 0.0,
    ofNumbers "lognormvariate" ["mu", "sigma"] [] fun s xs => do
      return Float.exp (xs.getD 0 0.0 + (← normalStep s 1000000) * xs.getD 1 0.0),
    ofNumbers "expovariate" ["lambd"] [] fun s xs => do
      if xs.getD 0 0.0 == 0.0 then raise "ZeroDivisionError" "float division by zero"
      return -(Float.log (1.0 - (← chance s))) / xs.getD 0 0.0,
    ofNumbers "gammavariate" ["alpha", "beta"] [] fun s xs =>
      gammaNumber s (xs.getD 0 0.0) (xs.getD 1 0.0),
    ofNumbers "betavariate" ["alpha", "beta"] [] fun s xs => do
      let y ← gammaNumber s (xs.getD 0 0.0) 1.0
      if y == 0.0 then return 0.0
      return y / (y + (← gammaNumber s (xs.getD 1 0.0) 1.0)),
    ofNumbers "paretovariate" ["alpha"] [] fun s xs => do
      return Float.pow (1.0 - (← chance s)) (-1.0 / xs.getD 0 0.0),
    ofNumbers "weibullvariate" ["alpha", "beta"] [] fun s xs => do
      let u := 1.0 - (← chance s)
      return xs.getD 0 0.0 * Float.pow (-(Float.log u)) (1.0 / xs.getD 1 0.0),
    ofNumbers "vonmisesvariate" ["mu", "kappa"] [] fun s xs => angleAround s (xs.getD 0 0.0) (xs.getD 1 0.0),
    ⟨"getstate", [], 0, [], fun s _ => do
      match ← dataOf s with
      | .words ws index spare =>
        let words := (ws.toList.map fun w => Value.int w.toNat) ++ [.int index]
        pure (.tuple [.int 3, .tuple words, match spare with
          | some z => .float z
          | none => .none])
      | _ => nothing⟩,
    ⟨"setstate", ["state"], 1, [], fun s args => do
      match s, argument args 0 with
      | .ref a, .tuple [_, .tuple words, spare] => do
        let numbers := words.map fun w => (w.int?.getD 0).toNat
        let spare := match spare with
          | .float z => some z
          | _ => none
        setData a (.words ((numbers.take Twister.size).map UInt32.ofNat).toArray
          (numbers.getD Twister.size 0) spare)
        nothing
      | _, _ => nothing⟩]

def randomShelf : Shelf :=
  sourceFunctions.flatMap (fun f =>
    [withNames ("random." ++ f.name) f.placed f.required f.onlyNamed fun args => do
        f.run (← theSource) args,
      methodNames ("random.Random." ++ f.name) f.placed f.required f.onlyNamed f.run]) ++
  [some_ "random.Random" 0 1 fun args => do
      let s ← newSource
      discard (seedSource s (args.getD 0 .none) .none)
      pure s,
    methodOf "random.Random.__init__" 0 1 fun self args =>
      seedSource self (args.getD 0 .none) .none]

end Library

end LiveSketch.Script

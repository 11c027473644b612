import LiveSketch.Script.Library.Core
import LiveSketch.Script.Value.Exact

/-!
# Mathematics

The functions of numbers that scripts can import. A function refuses numbers outside of its domain,
and results that no floating number comes near.
-/

namespace LiveSketch.Script

namespace Library

open Run

/-- Raises the fault of a number for which a function has no value. -/
def outsideDomain {α : Type} : Run α := wrongValue "math domain error"

/-- Raises the fault of a result that is too large. -/
def outsideRange {α : Type} : Run α := raise "OverflowError" "math range error"

/-- A result, refused where bounded numbers have none, or one that is too large. -/
def checkedResult (isBounded : Bool) (r : Float) (mayOverflow : Bool) : Run Value := do
  if isBounded && r.isNaN then outsideDomain
  if isBounded && r.isInf then
    if mayOverflow then outsideRange else outsideDomain
  pure (.float r)

def ofFloat (name : String) (f : Float → Float) (mayOverflow : Bool) : String × Native :=
  ("math." ++ name, fun args named => (one ("math." ++ name) fun v => do
    let x ← asFloat v
    let r := f x
    if r.isNaN && !x.isNaN then outsideDomain
    checkedResult (!isUnbounded x) r mayOverflow).2 args named)

/-- A function of two floating numbers. -/
def ofFloats (name : String) (f : Float → Float → Float) : String × Native :=
  some_ ("math." ++ name) 2 2 fun args => do
    let x ← asFloat (args.getD 0 .none)
    let y ← asFloat (args.getD 1 .none)
    let r := f x y
    if r.isNaN && !x.isNaN && !y.isNaN then outsideDomain
    checkedResult (!isUnbounded x && !isUnbounded y) r true

def floatTest (name : String) (f : Float → Bool) : String × Native :=
  one ("math." ++ name) fun v => do return .bool (f (← asFloat v))

/-- The whole number below or above a value, or what its class says. -/
def toWhole (name special : String) (f : Float → Float) : String × Native :=
  one ("math." ++ name) fun v => do
    match ← callSpecial? v special [] with
    | some r => pure r
    | none => match (← unwrap v).int? with
      | some n => pure (.int n)
      | none => return .int (← wholeOfFloat (f (← asFloat v)))

/-- A number without its fraction. -/
def towardsZero (x : Float) : Float := if x < 0.0 then x.ceil else x.floor

/-- A mantissa between a half and one, and the power of two that it is to be multiplied by. -/
def splitFloat (x : Float) : Float × Int :=
  if isUnbounded x || x == 0.0 then (x, 0)
  else
    let (num, den) := ratioParts x
    let e : Int := (binaryLength num : Int) - (binaryLength den : Int) + 1
    let m := Float.scaleB x (-e)
    if 1.0 ≤ m.abs then (m / 2.0, e + 1) else if m.abs < 0.5 then (m * 2.0, e - 1) else (m, e)

/-- The logarithm of a value; whole numbers of any size have one. -/
def logarithm (f : Float → Float) (v : Value) : Run Float := do
  match (← unwrap v).int? with
  | some n =>
    if n ≤ 0 then outsideDomain
    let x := floatOfInt n
    if x.isInf then
      let e := binaryLength n
      pure (f (quotientOf n (2 ^ e)) + f 2.0 * Float.ofNat e)
    else pure (f x)
  | none =>
    let x ← asFloat v
    if x.isNaN then return x
    if x ≤ 0.0 then outsideDomain
    pure (f x)

/-! ## Powers -/

/-- A floating number is an odd whole number. -/
def isOddFloat (y : Float) : Bool := !isUnbounded y && floatRest y.abs 2.0 == 1.0

def mathPower (x y : Float) : Run Value := do
  if isUnbounded x || isUnbounded y then
    if x.isNaN then pure (.float (if y == 0.0 then 1.0 else x))
    else if y.isNaN then pure (.float (if x == 1.0 then 1.0 else y))
    else if x.isInf then
      let odd := isOddFloat y
      pure (.float (if 0.0 < y then (if odd then x else x.abs)
        else if y == 0.0 then 1.0 else if odd then withSign 0.0 x else 0.0))
    else if x.abs == 1.0 then pure (.float 1.0)
    else if 0.0 < y then pure (.float (if 1.0 < x.abs then y else 0.0))
    else pure (.float (if x.abs < 1.0 then -y else 0.0))
  else
    let r := Float.pow x y
    if r.isNaN then outsideDomain
    if r.isInf then
      if x == 0.0 then outsideDomain else outsideRange
    pure (.float r)

/-- The rest nearest to zero of a division. -/
def nearestRest (x y : Float) : Float :=
  if isUnbounded x || isUnbounded y then
    if y.isInf && !isUnbounded x then x else if x.isNaN then x else if y.isNaN then y else 0.0 / 0.0
  else if y == 0.0 then 0.0 / 0.0
  else
    let size := y.abs
    let m := floatRest x.abs size
    let c := size - m
    let r := if m < c then m else if c < m then -c
      else m - 2.0 * floatRest (0.5 * (x.abs - m)) size
    if isNegative x then -r else r

/-- The rest of a division with the sign of the first number. -/
def truncatedRest (x y : Float) : Float :=
  if y.isInf && !isUnbounded x then x else floatRest x y

/-! ## Whole numbers -/

def foldWhole (name : String) (start : Nat) (f : Nat → Nat → Nat) : String × Native :=
  many ("math." ++ name) fun args => do
    let ns ← args.mapM asIndex
    pure (.int (ns.foldl (fun n m => f n m.natAbs) start : Nat))

/-- The number of sets of `k` things among `n`. -/
def binomial (n k : Nat) : Nat :=
  if n < k then 0
  else
    let k := min k (n - k)
    (List.range k).foldl (fun r i => r * (n - i) / (i + 1)) 1

/-- The number of rows of `k` different things among `n`. -/
def arrangements (n k : Nat) : Nat := (List.range k).foldl (fun r i => r * (n - i)) 1

/-- A whole number that is not negative. -/
def countOf (v : Value) (letter : String) : Run Nat := do
  let n ← asIndex v
  if n < 0 then wrongValue (letter ++ " must be a non-negative integer")
  pure n.toNat

def wholeShelf : Shelf :=
  [foldWhole "gcd" 0 Nat.gcd, foldWhole "lcm" 1 Nat.lcm,
    one "math.factorial" fun v => do
      let n ← asIndex v
      if n < 0 then wrongValue "factorial() not defined for negative values"
      if maxSize < n then
        raise "OverflowError" "factorial() argument should not exceed 9223372036854775807"
      pure (.int (Exact.factorial n.toNat)),
    some_ "math.comb" 2 2 fun args => do
      return .int (binomial (← countOf (args.getD 0 .none) "n") (← countOf (args.getD 1 .none) "k")),
    some_ "math.perm" 1 2 fun args => do
      let n ← countOf (args.getD 0 .none) "n"
      match args.getD 1 .none with
      | .none => pure (.int (Exact.factorial n))
      | k => do
        let k ← countOf k "k"
        pure (.int (if n < k then 0 else arrangements n k)),
    one "math.isqrt" fun v => do
      let n ← asIndex v
      if n < 0 then wrongValue "isqrt() argument must be nonnegative"
      pure (.int n.toNat.sqrt)]

/-! ## Rows of numbers -/

/-- The sum of floating numbers, rounded once. -/
def exactSum (xs : List Float) : Run Value := do
  let special := xs.filter isUnbounded
  match special with
  | [] =>
    let r := Exact.sumOf xs
    if r.isInf then raise "OverflowError" "intermediate overflow in fsum"
    pure (.float r)
  | s :: rest =>
    if special.any Float.isNaN then pure (.float (0.0 / 0.0))
    else if rest.all (· == s) then pure (.float s)
    else wrongValue "-inf + inf in fsum"

/-- The numbers of two values are close to each other. -/
def isClose (a b relative absolute : Float) : Bool :=
  if a == b then true
  else if a.isInf || b.isInf then false
  else
    let diff := (b - a).abs
    diff ≤ (relative * b).abs || diff ≤ (relative * a).abs || diff ≤ absolute

/-- The next floating number in the direction of another. -/
def nextTowards (x y : Float) : Float :=
  if x.isNaN || y.isNaN then 0.0 / 0.0
  else if x == y then y
  else if x == 0.0 then withSign (Float.ofBits 1) y
  else if (x < y) == (0.0 < x) then Float.ofBits (x.toBits + 1) else Float.ofBits (x.toBits - 1)

/-- Functions of rows of numbers. -/
def vectorShelf : Shelf :=
  [one "math.fsum" fun v => do exactSum (← (← itemsOf v).mapM asFloat),
    many "math.hypot" fun args => do
      let r := Exact.vectorLength (← args.mapM asFloat)
      pure (.float r),
    some_ "math.dist" 2 2 fun args => do
      let p ← (← itemsOf (args.getD 0 .none)).mapM asFloat
      let q ← (← itemsOf (args.getD 1 .none)).mapM asFloat
      if p.length ≠ q.length then
        wrongValue "both points must have the same number of dimensions"
      pure (.float (Exact.vectorLength ((p.zip q).map fun (a, b) => a - b))),
    withNames "math.prod" ["iterable"] 1 ["start"] fun args => do
      each (Value.ofOption (args[0]?).join) (((args[1]?).join).getD (.int 1)) fun total v => do
        return (← operate .mult total v, true),
    withNames "math.isclose" ["a", "b"] 2 ["rel_tol", "abs_tol"] fun args => do
      match args with
      | [some a, some b, r, s] => do
        let relative ← asFloat (r.getD (.float 1e-9))
        let absolute ← asFloat (s.getD (.float 0.0))
        if relative < 0.0 || absolute < 0.0 then wrongValue "tolerances must be non-negative"
        return .bool (isClose (← asFloat a) (← asFloat b) relative absolute)
      | _ => nothing]

/-! ## Parts of floating numbers -/

/-- Functions that take floating numbers apart and put them together. -/
def floatPartShelf : Shelf :=
  [toWhole "floor" "__floor__" Float.floor, toWhole "ceil" "__ceil__" Float.ceil,
    one "math.trunc" fun v => do
      match ← callSpecial? v "__trunc__" [] with
      | some r => pure r
      | none => match ← unwrap v with
        | .float x => return .int (← wholeOfFloat x)
        | w => match w.int? with
          | some n => pure (.int n)
          | none => wrongType ("type " ++ (← typeName v) ++ " doesn't define __trunc__ method"),
    one "math.modf" fun v => do
      let x ← asFloat v
      if x.isInf then pure (.tuple [.float (withSign 0.0 x), .float x])
      else
        let whole := withSign (towardsZero x) x
        pure (.tuple [.float (withSign (x - whole) x), .float whole]),
    one "math.frexp" fun v => do
      let (m, e) := splitFloat (← asFloat v)
      pure (.tuple [.float m, .int e]),
    some_ "math.ldexp" 2 2 fun args => do
      let x ← asFloat (args.getD 0 .none)
      match (args.getD 1 .none).int? with
      | none => wrongType "Expected an int as second argument to ldexp."
      | some e =>
        if isUnbounded x || x == 0.0 then pure (.float x)
        else
          let (num, den) := ratioParts x
          let r := if 2100 < e then withSign (1.0 / 0.0) x else if e < -2200 then withSign 0.0 x
            else quotientOf (num * 2 ^ e.toNat) (den * 2 ^ (-e).toNat)
          if r.isInf then outsideRange
          pure (.float (withSign r x)),
    ofFloats "copysign" withSign, ofFloats "fmod" truncatedRest, ofFloats "remainder" nearestRest,
    some_ "math.nextafter" 2 2 fun args => do
      return .float (nextTowards (← asFloat (args.getD 0 .none)) (← asFloat (args.getD 1 .none))),
    one "math.ulp" fun v => do
      let x := (← asFloat v).abs
      if isUnbounded x then pure (.float x)
      else
        let above := nextTowards x (1.0 / 0.0)
        pure (.float (if above.isInf then x - nextTowards x 0.0 else above - x)),
    some_ "math.pow" 2 2 fun args => do
      mathPower (← asFloat (args.getD 0 .none)) (← asFloat (args.getD 1 .none)),
    some_ "math.atan2" 2 2 fun args => do
      return .float (Float.atan2 (← asFloat (args.getD 0 .none)) (← asFloat (args.getD 1 .none))),
    floatTest "isnan" Float.isNaN, floatTest "isinf" Float.isInf,
    floatTest "isfinite" fun x => !isUnbounded x]

/-! ## Functions of one number -/

/-- A function on bounded numbers, with its values for the unbounded ones. -/
def bounded (f : Float → Float) (above below : Float) (x : Float) : Float :=
  if x.isNaN then x else if x.isInf then (if 0.0 < x then above else below) else f x

def noNumber : Float := 0.0 / 0.0

def unbounded : Float := 1.0 / 0.0

/-- A function that is not defined for zero and for negative whole numbers. -/
def offPoles (f : Float → Float) (x : Float) : Float :=
  if x ≤ 0.0 && x == x.floor then noNumber else f x

def floatShelf : Shelf :=
  [ofFloat "sqrt" (fun x => if x < 0.0 then noNumber else x.sqrt) false,
    ofFloat "cbrt" Float.cbrt false,
    ofFloat "sin" Float.sin false, ofFloat "cos" Float.cos false, ofFloat "tan" Float.tan false,
    ofFloat "asin" Float.asin false, ofFloat "acos" Float.acos false, ofFloat "atan" Float.atan false,
    ofFloat "sinh" Float.sinh true, ofFloat "cosh" Float.cosh true, ofFloat "tanh" Float.tanh false,
    ofFloat "asinh" Float.asinh false, ofFloat "acosh" Float.acosh false,
    ofFloat "atanh" Float.atanh false,
    ofFloat "exp" Float.exp true, ofFloat "exp2" Float.exp2 true,
    ofFloat "expm1" (bounded (fun x =>
      if x == 0.0 then x else if 710.0 < x then unbounded else if x < -40.0 then -1.0
      else Exact.expm1 x) unbounded (-1.0)) true,
    ofFloat "log1p" (bounded (fun x =>
      if x == 0.0 then x else if x ≤ -1.0 then noNumber else Exact.log1p x) unbounded noNumber) false,
    ofFloat "erf" (bounded Exact.erf 1.0 (-1.0)) false,
    ofFloat "erfc" (bounded Exact.erfc 0.0 2.0) false,
    ofFloat "gamma" (bounded (offPoles Exact.gamma) unbounded noNumber) true,
    ofFloat "lgamma" (bounded (offPoles Exact.logGamma) unbounded unbounded) true,
    ofFloat "fabs" Float.abs false,
    ofFloat "degrees" (fun x => x * (180.0 / Exact.pi)) false,
    ofFloat "radians" (fun x => x * (Exact.pi / 180.0)) false,
    some_ "math.log" 1 2 fun args => do
      let top ← logarithm Float.log (args.getD 0 .none)
      match args[1]? with
      | none => pure (.float top)
      | some base => do
        let below ← logarithm Float.log base
        if below == 0.0 then raise "ZeroDivisionError" "float division by zero"
        pure (.float (top / below)),
    one "math.log2" fun v => do return .float (← logarithm Float.log2 v),
    one "math.log10" fun v => do return .float (← logarithm Float.log10 v)]

def mathShelf : Shelf := floatShelf ++ floatPartShelf ++ vectorShelf ++ wholeShelf

end Library

end LiveSketch.Script

import LiveSketch.Script.Library.Mathematics
import LiveSketch.Script.Library.Typing

/-!
# Statistics

Means, deviations and the like of rows of numbers. Sums are kept as exact quotients and rounded
once at the end; a mean of whole numbers that is itself whole stays a whole number.
-/

namespace LiveSketch.Script

namespace Library

open Run

/-- Raises the fault of data that a measure has no value for. -/
def noMeasure {α : Type} (words : String) : Run α := raise "statistics.StatisticsError" words

/-- Numbers as exact quotients. Those that are no bounded numbers are only added up. -/
structure Measured where
  isWhole : Bool
  count : Nat
  ratios : List (Int × Nat)
  unbounded : Option Float

/-- Values as exact quotients. -/
def measured (vs : List Value) : Run Measured :=
  vs.foldlM (fun m v => do
    let m := { m with count := m.count + 1 }
    match ← unwrap v with
    | .float x =>
      let m := { m with isWhole := false }
      if isUnbounded x then pure { m with unbounded := some (m.unbounded.getD 0.0 + x) }
      else pure { m with ratios := ratioParts x :: m.ratios }
    | w => match w.int? with
      | some n => pure { m with ratios := (n, 1) :: m.ratios }
      | none => wrongType ("can't convert type '" ++ (← typeName v) ++ "' to numerator/denominator"))
    ⟨true, 0, [], none⟩

/-- A quotient as a value: a whole number where it may be one, and else the nearest floating one. -/
def quotientValue (mayBeWhole : Bool) (num : Int) (den : Nat) : Run Value :=
  if mayBeWhole && num % den = 0 then pure (.int (num / den)) else operate .div (.int num) (.int den)

/-- The sum of numbers, divided by a count. -/
def shared (m : Measured) (count : Nat) : Run Value :=
  match m.unbounded with
  | some x => pure (.float (x / Float.ofNat count))
  | none =>
    let (num, den) := Exact.sumRatios m.ratios
    quotientValue m.isWhole num (den * count)

def meanOf (vs : List Value) : Run Value := do
  let m ← measured vs
  if m.count = 0 then noMeasure "mean requires at least one data point"
  shared m m.count

/-- The rounded sum of values as floating numbers. -/
def floatSum (vs : List Value) : Run Float := do
  match ← exactSum (← vs.mapM asFloat) with
  | .float x => pure x
  | _ => pure 0.0

/-- The mean of values as floating numbers. -/
def floatMean (vs : List Value) : Run Float := do
  let total ← floatSum vs
  if vs.isEmpty then noMeasure "fmean requires at least one data point"
  pure (total / Float.ofNat vs.length)

/-- The mean of values of which some count more than others. -/
def weightedMean (vs weights : List Value) : Run Float := do
  let total ← floatSum (← (vs.zip weights).mapM fun (v, w) => operate .mult v w)
  if vs.length ≠ weights.length then noMeasure "data and weights must be the same length"
  let weight ← floatSum weights
  if weight == 0.0 then noMeasure "sum of weights must be non-zero"
  pure (total / weight)

def noneBelowZero (vs : List Value) (words : String) : Run Unit :=
  vs.forM fun v => do
    if ← isLess v (.int 0) then noMeasure words

def rateMean (vs : List Value) (weights : Value) : Run Value := do
  let words := "harmonic mean does not support negative values"
  if vs.isEmpty then noMeasure "harmonic_mean requires at least one data point"
  match vs, weights with
  | [v], .none =>
    if ((← unwrap v).int?).isNone && !(← isOfType v "float") then wrongType "unsupported type"
    noneBelowZero [v] words
    pure v
  | _, _ =>
    let ws ← if weights.isNone then pure (List.replicate vs.length (Value.int 1)) else itemsOf weights
    if ws.length ≠ vs.length then noMeasure "Number of weights does not match data size"
    if !weights.isNone then noneBelowZero ws words
    let (weight, weightDen) := Exact.sumRatios (← measured ws).ratios
    let parts ← orElse
      (some <$> (ws.zip vs).mapM fun (w, v) => do
        noneBelowZero [v] words
        if ← truth w then operate .div w v else pure (.int 0))
      fun fault => do
        if ← isOfType fault "ZeroDivisionError" then pure none else raiseFault fault
    match parts with
    | none => pure (.int 0)
    | some parts =>
      let m ← measured parts
      match m.unbounded with
      | some x => pure (.float (Float.ofInt weight / Float.ofNat weightDen / x))
      | none =>
        let (num, den) := Exact.sumRatios m.ratios
        if num ≤ 0 then noMeasure "Weighted sum must be positive"
        quotientValue m.isWhole (weight * den) (weightDen * num.toNat)

def growthMean (vs : List Value) : Run Value := do
  let words := "geometric mean requires a non-empty dataset containing positive numbers"
  orElse
    (do
      let logs ← vs.mapM fun v => do return Value.float (← logarithm Float.log v)
      return .float (Float.exp (← floatMean logs)))
    fun fault => do
      if ← isOfType fault "ValueError" then noMeasure words else raiseFault fault

/-! ## The middle -/

/-- Values in order; there must be some. -/
def ordered (vs : List Value) : Run (Array Value) := do
  if vs.isEmpty then noMeasure "no median for empty data"
  return (← sortedBy vs .none false).toArray

/-- The value in the middle, or the mean of the two that are. -/
def medianOf (vs : List Value) : Run Value := do
  let row ← ordered vs
  let half := row.size / 2
  let high := row.getD half .none
  if row.size % 2 = 1 then pure high
  else operate .div (← operate .add (row.getD (half - 1) .none) high) (.int 2)

/-- The middle of values that stand for ranges as wide as `width`. -/
def groupedMedian (vs : List Value) (width : Value) : Run Value := do
  let row ← ordered vs
  let middle := row.getD (row.size / 2) .none
  let below := (← row.toList.filterM fun v => less v middle).length
  let above := (← row.toList.filterM fun v => less middle v).length
  let width ← asFloat width
  let x ← asFloat middle
  let within := Float.ofNat (row.size - below - above)
  pure (.float (x - width / 2.0 +
    width * (Float.ofNat row.size / 2.0 - Float.ofNat below) / within))

/-- How often each value is there, in the order of their first places. -/
def tally (vs : List Value) : Run Table :=
  vs.foldlM (fun t v => do
    let k ← keyOf v
    let before := match t.get? k with
      | some (.int n) => n
      | _ => 0
    pure (t.put k v (.int (before + 1)))) Table.empty

/-- The values that are there most often. -/
def commonest (vs : List Value) : Run (List Value) := do
  let entries := (← tally vs).toList
  let count (e : Entry) : Int := e.value.int?.getD 0
  let most := entries.foldl (fun m e => max m (count e)) 0
  pure ((entries.filter fun e => count e == most).map Entry.name)

/-- The values between equal shares of a row in order. -/
def sharesOf (vs : List Value) (n : Int) (method : Value) : Run Value := do
  if n < 1 then noMeasure "n must be at least 1"
  let row := (← sortedBy vs .none false).toArray
  if row.size < 2 then noMeasure "must have at least two data points"
  let between (a b : Nat) (part : Int) : Run Value := do
    let low ← operate .mult (row.getD a .none) (.int (n - part))
    let high ← operate .mult (row.getD b .none) (.int part)
    operate .div (← operate .add low high) (.int n)
  let places : List Int := (List.range (n.toNat - 1)).map fun (k : Nat) => (k + 1 : Int)
  let last : Int := row.size - 1
  match method with
  | .text "inclusive" => listOf (← places.mapM fun k =>
      let at_ : Int := k * last
      between (at_ / n).toNat (at_ / n + 1).toNat (at_ % n))
  | .text "exclusive" => listOf (← places.mapM fun k =>
      let at_ : Int := k * (last + 2)
      let j := max 1 (min last (at_ / n))
      between (j - 1).toNat j.toNat (at_ - j * n))
  | m => wrongValue ("Unknown method: " ++ (← shown m))

/-! ## Deviations -/

/-- Numbers and the exact sum of the squares of their distances from their mean, or from a given
middle. -/
def squares (vs : List Value) (middle : Value) : Run (Measured × (Int × Nat)) := do
  if middle.isNone then
    let m ← measured vs
    let count : Int := m.count
    let (sum, sumDen) := Exact.sumRatios m.ratios
    let (squareSum, squareDen) := Exact.sumRatios (m.ratios.map fun (n, d) => (n * n, d * d))
    let num := count * squareSum * (sumDen * sumDen : Nat) - sum * sum * squareDen
    pure (m, num, squareDen * (sumDen * sumDen) * m.count)
  else
    let m ← measured (← vs.mapM fun v => do
      let d ← operate .sub v middle
      operate .mult d d)
    pure (m, Exact.sumRatios m.ratios)

/-- The mean of the squares of the distances from the mean; one value less counts for a sample. -/
def varianceOf (name : String) (least : Nat) (vs : List Value) (middle : Value) : Run Value := do
  let (m, num, den) ← squares vs middle
  refuseFew name least m.count
  let share := m.count + 1 - least
  match m.unbounded with
  | some x => pure (.float (x / Float.ofNat share))
  | none => quotientValue m.isWhole num (den * share)
where
  /-- Refuses too few values. -/
  refuseFew (name : String) (least count : Nat) : Run Unit := do
    if count < least then
      noMeasure (name ++ " requires at least " ++
        (if least = 1 then "one data point" else "two data points"))

/-- The square root of the mean of the squares of the distances from the mean. -/
def deviationOf (name : String) (least : Nat) (vs : List Value) (middle : Value) : Run Value := do
  let (m, num, den) ← squares vs middle
  varianceOf.refuseFew name least m.count
  match m.unbounded with
  | some _ => raise "AttributeError" "'float' object has no attribute 'numerator'"
  | none => pure (.float (Exact.sqrtOf num.toNat (den * (m.count + 1 - least))))

/-- The sums of the products of two rows' distances from their means: of the first with the second,
of the first with itself and of the second with itself. -/
def products (name : String) (x y : Value) : Run (Nat × Float × Float × Float) := do
  let xs ← itemsOf x
  let ys ← itemsOf y
  if ys.length ≠ xs.length then
    noMeasure (name ++ " requires that both inputs have same number of data points")
  if xs.length < 2 then noMeasure (name ++ " requires at least two data points")
  let count := Float.ofNat xs.length
  let xMean := (← floatSum xs) / count
  let yMean := (← floatSum ys) / count
  let dx := (← xs.mapM asFloat).map (· - xMean)
  let dy := (← ys.mapM asFloat).map (· - yMean)
  let sum (ps : List (Float × Float)) : Run Float :=
    floatSum (ps.map fun (a, b) => .float (a * b))
  pure (xs.length, ← sum (dx.zip dy), ← sum (dx.zip dx), ← sum (dy.zip dy))

/-- How much two rows go together, between minus one and one. -/
def correlationOf (x y : Value) : Run Value := do
  let (_, xy, xx, yy) ← products "correlation" x y
  let size := Float.sqrt (xx * yy)
  if size == 0.0 then noMeasure "at least one of the inputs is constant"
  pure (.float (xy / size))

/-- The line nearest to the points of two rows, as a tuple with names. -/
def nearestLine (x y : Value) (throughZero : Bool) : Run Value := do
  let cls ← namedTupleClass "LinearRegression" "statistics" ["slope", "intercept"] [] .empty
  let (count, xy, xx, _) ← products "linear regression" x y
  let xs ← (← itemsOf x).mapM asFloat
  let ys ← (← itemsOf y).mapM asFloat
  let sum (ps : List Float) : Run Float := floatSum (ps.map Value.float)
  if throughZero then
    let top ← sum ((xs.zip ys).map fun (a, b) => a * b)
    let below ← sum (xs.map fun a => a * a)
    if below == 0.0 then noMeasure "x is constant"
    namedTuple cls [.float (top / below), .float 0.0]
  else
    if xx == 0.0 then noMeasure "x is constant"
    let slope := xy / xx
    let size := Float.ofNat count
    namedTuple cls [.float slope, .float ((← sum ys) / size - slope * ((← sum xs) / size))]

def statisticsShelf : Shelf :=
  let ofData (name : String) (f : List Value → Run Value) : String × Native :=
    withNames ("statistics." ++ name) ["data"] 1 [] fun args => do
      f (← itemsOf (Value.ofOption (args[0]?).join))
  let ofDataAnd (name second : String) (f : List Value → Value → Run Value) : String × Native :=
    withNames ("statistics." ++ name) ["data", second] 1 [] fun args => do
      f (← itemsOf (Value.ofOption (args[0]?).join)) (Value.ofOption (args[1]?).join)
  [ofData "mean" meanOf,
    ofDataAnd "fmean" "weights" fun vs weights => do
      if weights.isNone then return .float (← floatMean vs)
      return .float (← weightedMean vs (← itemsOf weights)),
    ofDataAnd "harmonic_mean" "weights" rateMean,
    ofData "geometric_mean" growthMean,
    ofData "median" medianOf,
    ofData "median_low" fun vs => do
      let row ← ordered vs
      pure (row.getD ((row.size - 1) / 2) .none),
    ofData "median_high" fun vs => do
      let row ← ordered vs
      pure (row.getD (row.size / 2) .none),
    ofDataAnd "median_grouped" "interval" fun vs width =>
      groupedMedian vs (if width.isNone then .int 1 else width),
    ofData "mode" fun vs => do
      match ← commonest vs with
      | v :: _ => pure v
      | [] => noMeasure "no mode for empty data",
    ofData "multimode" fun vs => do listOf (← commonest vs),
    withNames "statistics.quantiles" ["data"] 1 ["n", "method"] fun args => do
      let n ← asIndex (((args[1]?).join).getD (.int 4))
      sharesOf (← itemsOf (Value.ofOption (args[0]?).join)) n
        (((args[2]?).join).getD (.text "exclusive")),
    ofDataAnd "variance" "xbar" (varianceOf "variance" 2),
    ofDataAnd "pvariance" "mu" (varianceOf "pvariance" 1),
    ofDataAnd "stdev" "xbar" (deviationOf "stdev" 2),
    ofDataAnd "pstdev" "mu" (deviationOf "pstdev" 1),
    some_ "statistics.covariance" 2 2 fun args => do
      let (count, xy, _, _) ← products "covariance" (args.getD 0 .none) (args.getD 1 .none)
      pure (.float (xy / Float.ofNat (count - 1))),
    withNames "statistics.linear_regression" ["x", "y"] 2 ["proportional"] fun args => do
      nearestLine (Value.ofOption (args[0]?).join) (Value.ofOption (args[1]?).join)
        (← truth (((args[2]?).join).getD (.bool false))),
    some_ "statistics.correlation" 2 2 fun args =>
      correlationOf (args.getD 0 .none) (args.getD 1 .none)]

end Library

end LiveSketch.Script

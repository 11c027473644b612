import LiveSketch.Script.Value.Arithmetic

/-!
# Functions of floating numbers by exact arithmetic

Functions whose results are computed with whole numbers that stand for many binary digits and are
rounded once at the end, so that they are the floating numbers nearest to the true values.
-/

namespace LiveSketch.Script.Exact

/-- The sum of quotients, as numerator and denominator. -/
def sumRatios (parts : List (Int × Nat)) : Int × Nat :=
  let den := parts.foldl (fun d r => Nat.lcm d r.2) 1
  (parts.foldl (fun n r => n + r.1 * (den / r.2 : Nat)) 0, den)

/-- The floating number nearest to the sum of bounded floating numbers. -/
def sumOf (xs : List Float) : Float :=
  let ratios := xs.map ratioParts
  let den := ratios.foldl (fun d r => max d r.2) 1
  -- all denominators are powers of two, so the greatest is a multiple of each
  quotientOf (ratios.foldl (fun n r => n + r.1 * (den / r.2 : Nat)) 0) den

/-! ## Series -/

/-- A quotient with so many binary digits behind the point. -/
def fixed (bits : Nat) (num : Int) (den : Nat) : Int := num * 2 ^ bits / den

/-- The floating number nearest to a number with so many binary digits behind the point. -/
def rounded (bits : Nat) (n : Int) : Float := quotientOf n (2 ^ bits)

/-- The sum of terms, each made of the one before it, until they vanish. -/
def series (next : Nat → Int → Int) (value : Nat → Int → Int) : Nat → Nat → Int → Int → Int
  | 0, _, _, total => total
  | fuel + 1, k, term, total =>
    if term.natAbs ≤ 1 then total
    else series next value fuel (k + 1) (next k term) (total + value k term)

/-- Half of the logarithm of (1 + z) / (1 - z), for a fixed `z` below a half. -/
def halfLog (bits : Nat) (z : Int) : Int :=
  let square := z * z / 2 ^ bits
  series (fun _ t => t * square / 2 ^ bits) (fun k t => t / (2 * k + 1)) (4 * bits) 0 z 0

def logTwo (bits : Nat) : Int := 2 * halfLog bits (fixed bits 1 3)

/-- The logarithm of a positive quotient. -/
def logRatio (bits num den : Nat) : Int :=
  let power : Int := (num.log2 : Int) - (den.log2 : Int)
  let num' := num * 2 ^ (-power).toNat
  let den' := den * 2 ^ power.toNat
  -- the quotient without its power of two is between a half and two
  let z := fixed bits ((num' : Int) - den') (num' + den')
  2 * halfLog bits z + power * logTwo bits

/-- The exponential of a fixed number, less one. -/
def expLessOne (bits : Nat) (x : Int) : Int :=
  series (fun k t => t * x / ((k + 2 : Nat) * 2 ^ bits)) (fun _ t => t) (40 * bits) 0 x 0

/-- How many binary digits in front of those of one the first digit of a small quotient is. -/
def depthOf (num den : Nat) : Nat := ((den.log2 : Int) - (num.log2 : Int)).toNat

/-- The exponential of a bounded floating number, less one. -/
def expm1 (x : Float) : Float :=
  let (num, den) := ratioParts x
  let bits := 200 + 3 * (num.natAbs / den) + 2 * depthOf num.natAbs den
  rounded bits (expLessOne bits (fixed bits num den))

/-- The logarithm of a bounded floating number above minus one, plus one. -/
def log1p (x : Float) : Float :=
  let (num, den) := ratioParts x
  let bits := 200 + 2 * depthOf num.natAbs den
  rounded bits (logRatio bits (num + den).toNat den)

/-- The inverse tangent of one divided by a whole number. -/
def inverseTangent (bits n : Nat) : Int :=
  series (fun _ t => -t / (n * n : Nat)) (fun k t => t / (2 * k + 1)) (4 * bits) 0 (fixed bits 1 n) 0

/-- The length of a half circle of radius one. -/
def halfCircle (bits : Nat) : Int := 4 * (4 * inverseTangent bits 5 - inverseTangent bits 239)

/-- The error function of a fixed number. -/
def errorFixed (bits : Nat) (x : Int) : Int :=
  let square := x * x / 2 ^ bits
  let sum := series (fun k t => -t * square / ((k + 1 : Nat) * 2 ^ bits)) (fun k t => t / (2 * k + 1))
    (40 * bits) 0 x 0
  let rootOfHalfCircle := ((halfCircle bits).toNat * 2 ^ bits).sqrt
  2 * sum * 2 ^ bits / (rootOfHalfCircle : Int)

def erf (x : Float) : Float :=
  if x.abs ≥ 6.0 then withSign 1.0 x
  else if x == 0.0 then x
  else
    let (num, den) := ratioParts x
    let bits := 300 + 2 * depthOf num.natAbs den
    rounded bits (errorFixed bits (fixed bits num den))

/-- One less the error function. -/
def erfc (x : Float) : Float :=
  if x ≤ -6.0 then 2.0
  else if x ≥ 27.5 then 0.0
  else
    let (num, den) := ratioParts x
    let size := num.natAbs / den + 1
    let bits := 300 + 5 * size * size
    rounded bits (2 ^ bits - errorFixed bits (fixed bits num den))

/-! ## The gamma function -/

/-- Where the approximation of the gamma function is centred. -/
def gammaCentre : Float := 6.024680040776729583740234375

/-- The coefficients of the approximation, those of the numerator and of the denominator. -/
def gammaCoefficients : List (Float × Float) :=
  [(23531376880.410759688572007674451636754734846804940, 0.0),
    (42919803642.649098768957899047001988850926355848959, 39916800.0),
    (35711959237.355668049440185451547166705960488635843, 120543840.0),
    (17921034426.037209699919755754458931112671403265390, 150917976.0),
    (6039542586.3520280050642916443072979210699388420708, 105258076.0),
    (1439720407.3117216736632230727949123939715485786372, 45995730.0),
    (248874557.86205415651146038641322942321632125127801, 13339535.0),
    (31426415.585400194380614231628318205362874684987640, 2637558.0),
    (2876370.6289353724412254090516208496135991145378768, 357423.0),
    (186056.26539522349504029498971604569928220784236328, 32670.0),
    (8071.6720023658162106380029022722506138218516325024, 1925.0),
    (210.82427775157934587250973392071336271166969580291, 66.0),
    (2.5066282746310002701649081771338373386264310793408, 1.0)]

/-- The approximation's quotient of two polynomials. -/
def gammaQuotient (x : Float) : Float :=
  let (num, den) :=
    if x < 5.0 then
      gammaCoefficients.foldr (fun (a, b) (n, d) => (n * x + a, d * x + b)) (0.0, 0.0)
    else gammaCoefficients.foldl (fun (n, d) (a, b) => (n / x + a, d / x + b)) (0.0, 0.0)
  num / den

/-- The number that a half circle of radius one is long, as a floating number. -/
def pi : Float := 3.141592653589793

def sineOfHalfCircles (x : Float) : Float :=
  let y := floatRest x.abs 2.0
  let n := (2.0 * y).round
  let r :=
    if n == 0.0 then Float.sin (pi * y)
    else if n == 1.0 then Float.cos (pi * (y - 0.5))
    else if n == 2.0 then Float.sin (pi * (1.0 - y))
    else if n == 3.0 then -Float.cos (pi * (y - 1.5))
    else Float.sin (pi * (y - 2.0))
  if isNegative x then -r else r

/-- The product of the whole numbers up to one. -/
def factorial (n : Nat) : Nat := (List.range n).foldl (fun p k => p * (k + 1)) 1

/-- The gamma function of a bounded number that is neither zero nor a negative whole number. -/
def gamma (x : Float) : Float :=
  let size := x.abs
  let centre := gammaCentre - 0.5
  if x == x.floor && x ≤ 23.0 && 0.0 < x then floatOfInt (factorial (truncated x - 1).toNat)
  else if size < 1e-20 then 1.0 / x
  else if 200.0 < size then if x < 0.0 then 0.0 / sineOfHalfCircles x else 1.0 / 0.0
  else
    let y := size + centre
    let z := if centre < size then (y - size) - centre else (y - centre) - size
    let z := z * gammaCentre / y
    if x < 0.0 then
      let r := -pi / sineOfHalfCircles size / size * Float.exp y / gammaQuotient size
      let r := r - z * r
      if size < 140.0 then r / Float.pow y (size - 0.5)
      else
        let half := Float.pow y (size / 2.0 - 0.25)
        r / half / half
    else
      let r := gammaQuotient size / Float.exp y
      let r := r + z * r
      if size < 140.0 then r * Float.pow y (size - 0.5)
      else
        let half := Float.pow y (size / 2.0 - 0.25)
        r * half * half

/-- The logarithm of the size of the gamma function, for a bounded number that is neither zero nor a
negative whole number. -/
def logGamma (x : Float) : Float :=
  let size := x.abs
  if x == 1.0 || x == 2.0 then 0.0
  else if size < 1e-20 then -(Float.log size)
  else
    let r := Float.log (gammaQuotient size) - gammaCentre
    let r := r + (size - 0.5) * (Float.log (size + gammaCentre - 0.5) - 1.0)
    if x < 0.0 then
      1.144729885849400174143427351353058711647 - Float.log (sineOfHalfCircles size).abs -
        Float.log size - r
    else r

end LiveSketch.Script.Exact

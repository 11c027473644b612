import LiveSketch.Arithmetic

/-!
# Shortest decimals

The decimal a binary floating number is written as: the fewest digits that read back as the same
number, and of those the nearest to it.

A positive finite number is `mantissa · 2^exponent`. The reals that round to it form an interval,
which holds its ends when the mantissa is even. On the grid of decimals with `count` digits the
number has two neighbours; the first count for which one of them lies in the interval wins, and of
two hits the nearer.
-/

namespace LiveSketch

/-- A floating number taken apart. `finite` is `mantissa · 2^exponent` with its sign. -/
inductive FloatParts where
  | nan
  | infinite (negative : Bool)
  | finite (negative : Bool) (mantissa : Nat) (exponent : Int)
deriving DecidableEq, Repr

/-- Takes a floating number apart. -/
def floatParts (x : Float) : FloatParts :=
  let bits := x.toBits.toNat
  let negative := bits / 2 ^ 63 == 1
  let power : Nat := bits / 2 ^ 52 % 2048
  let fraction := bits % 2 ^ 52
  if power == 2047 then
    if fraction == 0 then .infinite negative else .nan
  else if power == 0 then .finite negative fraction (-1074)
  else .finite negative (fraction + 2 ^ 52) ((power : Int) - 1075)

/-- Digits and the place of the point: the value is `0.d₁d₂… · 10^point`. -/
structure Decimal where
  digits : List Nat
  point : Int
deriving DecidableEq, Repr, Inhabited

/-- The decimal digits of a number, most significant first. -/
def decimalDigits (n : Nat) : List Nat :=
  (Nat.toDigits 10 n).map fun c => c.toNat - '0'.toNat

def dropEndZeros (digits : List Nat) : List Nat :=
  (digits.reverse.dropWhile (· == 0)).reverse

/-- The place of the point of `num / den`: the least `p` with `num / den < 10^p`. -/
def pointOf (num den : Nat) : Int :=
  if den ≤ num then (decimalDigits (num / den)).length
  else 1 - ((decimalDigits (den / num)).length : Int)

/-- The decimal with `count` digits that reads back as `mantissa · 2^exponent`, if there is one. -/
def decimalOfCount (mantissa : Nat) (exponent : Int) (count : Nat) : Option Decimal :=
  -- all numbers below are quarters of the unit in the last place
  let isLeast := mantissa == 2 ^ 52 && exponent > -1074
  let low := 4 * mantissa - (if isLeast then 1 else 2)
  let high := 4 * mantissa + 2
  let scale := 2 ^ (exponent - 2).toNat
  let den := 2 ^ (2 - exponent).toNat
  let point := pointOf (4 * mantissa * scale) den
  let step := point - count
  let up := scale * 10 ^ (-step).toNat
  let down := den * 10 ^ step.toNat
  let value := 4 * mantissa * up
  let fits (k : Nat) : Bool :=
    if mantissa % 2 == 0 then low * up ≤ k * down && k * down ≤ high * up
    else low * up < k * down && k * down < high * up
  let below := value / down
  let belowGap := value - below * down
  let aboveGap := (below + 1) * down - value
  let chosen :=
    if fits below && fits (below + 1) then
      if belowGap < aboveGap then some below
      else if aboveGap < belowGap then some (below + 1)
      else some (if below % 2 == 0 then below else below + 1)
    else if fits below then some below
    else if fits (below + 1) then some (below + 1)
    else none
  chosen.map fun k =>
    let digits := decimalDigits k
    { digits := dropEndZeros digits, point := point + (digits.length - count : Int) }

/-- The shortest decimal that reads back as `mantissa · 2^exponent`; 17 digits always do. -/
def shortestDecimal (mantissa : Nat) (exponent : Int) : Decimal :=
  ((List.range 17).findSome? fun k => decimalOfCount mantissa exponent (k + 1)).getD ⟨[], 0⟩

def digitText (digits : List Nat) : String :=
  String.ofList (digits.map fun d => Char.ofNat ('0'.toNat + d))

/-- A decimal in positional notation, always with a point and a digit on both sides. -/
def Decimal.positional (d : Decimal) : String :=
  let zeros (n : Nat) := List.replicate n 0
  if d.point ≤ 0 then "0." ++ digitText (zeros (-d.point).toNat ++ d.digits)
  else
    let whole := d.point.toNat
    let padded := d.digits ++ zeros (whole - d.digits.length)
    let rest := padded.drop whole
    digitText (padded.take whole) ++ "." ++ digitText (if rest.isEmpty then [0] else rest)

/-- A decimal in scientific notation: the exponent has a sign and at least two digits. -/
def Decimal.scientific (d : Decimal) : String :=
  let exponent := d.point - 1
  let size := toString exponent.natAbs
  let padded := if size.length < 2 then "0" ++ size else size
  digitText (d.digits.take 1) ++ (if d.digits.length ≤ 1 then "" else ".") ++
    digitText (d.digits.drop 1) ++ "e" ++ (if exponent < 0 then "-" else "+") ++ padded

/-- The text of a floating number: positional from 10^-4 up to below 10^16, scientific outside. -/
def floatText (x : Float) : String :=
  match floatParts x with
  | .nan => "nan"
  | .infinite negative => if negative then "-inf" else "inf"
  | .finite negative mantissa exponent =>
    let d := shortestDecimal mantissa exponent
    let size :=
      if mantissa == 0 then "0.0"
      else if -4 < d.point ∧ d.point ≤ 16 then d.positional
      else d.scientific
    if negative then "-" ++ size else size

end LiveSketch

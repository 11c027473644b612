import LiveSketch.Script.Value.Exact

/-!
# Functions of complex numbers

Roots, exponentials, and the circular and hyperbolic functions of complex numbers, each made of
functions of its parts. Turning a number by a quarter leads from a hyperbolic function to the circular
one of its name.
-/

namespace LiveSketch.Script.Complex

/-- The number turned forward by a quarter. -/
def turned (z : Complex) : Complex := ⟨-z.im, z.re⟩

/-- The number turned back by a quarter. -/
def turnedBack (z : Complex) : Complex := ⟨z.im, -z.re⟩

def angle (z : Complex) : Float := Float.atan2 z.im z.re

/-- The number at a distance and an angle. -/
def ofPolar (r phi : Float) : Complex :=
  if phi == 0.0 then ⟨r, r * phi⟩ else ⟨r * Float.cos phi, r * Float.sin phi⟩

/-- The square root whose real part is not negative. -/
def sqrt (z : Complex) : Complex :=
  if z.re == 0.0 && z.im == 0.0 then ⟨0.0, z.im⟩
  else if z.im.isInf then ⟨1.0 / 0.0, z.im⟩
  else
    let a := z.re.abs / 8.0
    let b := z.im.abs
    let s := 2.0 * Float.sqrt (a + Exact.vectorLength [a, b / 8.0])
    let d := b / (2.0 * s)
    if 0.0 ≤ z.re then ⟨s, withSign d z.im⟩ else ⟨d, withSign s z.im⟩

def exp (z : Complex) : Complex :=
  if 708.0 < z.re then
    let l := Float.exp (z.re - 1.0)
    ⟨l * Float.cos z.im * 2.718281828459045, l * Float.sin z.im * 2.718281828459045⟩
  else
    let l := Float.exp z.re
    ⟨l * Float.cos z.im, l * Float.sin z.im⟩

/-- The logarithm of a number that is not zero. -/
def log (z : Complex) : Complex :=
  let a := z.re.abs
  let b := z.im.abs
  let h := Exact.vectorLength [a, b]
  let high := max a b
  let low := min a b
  let re := if 0.71 ≤ h && h ≤ 1.73 then Exact.log1p ((high - 1.0) * (high + 1.0) + low * low) / 2.0
    else Float.log h
  ⟨re, z.angle⟩

def sinh (z : Complex) : Complex :=
  ⟨Float.cos z.im * Float.sinh z.re, Float.sin z.im * Float.cosh z.re⟩

def cosh (z : Complex) : Complex :=
  ⟨Float.cos z.im * Float.cosh z.re, Float.sin z.im * Float.sinh z.re⟩

def tanh (z : Complex) : Complex :=
  let x := Float.tanh z.re
  let y := Float.tan z.im
  let c := 1.0 / Float.cosh z.re
  let d := 1.0 + x * y * (x * y)
  ⟨x * (1.0 + y * y) / d, y / d * c * c⟩

def sin (z : Complex) : Complex := z.turned.sinh.turnedBack

def cos (z : Complex) : Complex := z.turned.cosh

def tan (z : Complex) : Complex := z.turned.tanh.turnedBack

/-- The inverse hyperbolic sine. -/
def asinh (z : Complex) : Complex :=
  let s := sqrt ⟨1.0 + z.im, -z.re⟩
  let t := sqrt ⟨1.0 - z.im, z.re⟩
  ⟨Float.asinh (s.re * t.im - t.re * s.im), Float.atan2 z.im (s.re * t.re - s.im * t.im)⟩

/-- The inverse hyperbolic cosine. -/
def acosh (z : Complex) : Complex :=
  let s := sqrt ⟨z.re - 1.0, z.im⟩
  let t := sqrt ⟨z.re + 1.0, z.im⟩
  ⟨Float.asinh (s.re * t.re + s.im * t.im), 2.0 * Float.atan2 s.im t.re⟩

/-- The inverse hyperbolic tangent. -/
def atanh (z : Complex) : Complex :=
  if isNegative z.re then
    let w := positive ⟨-z.re, -z.im⟩
    ⟨-w.re, -w.im⟩
  else positive z
where
  /-- The value where the real part is not negative. -/
  positive (z : Complex) : Complex :=
    let b := z.im.abs
    let away := 1.0 - z.re
    let x := 4.0 * z.re / (away * away + b * b)
    ⟨(if x == 0.0 then x else Exact.log1p x) / 4.0,
      -(Float.atan2 (-2.0 * z.im) ((1.0 - z.re) * (1.0 + z.re) - b * b)) / 2.0⟩

def asin (z : Complex) : Complex := z.turned.asinh.turnedBack

def acos (z : Complex) : Complex :=
  let s := sqrt ⟨1.0 - z.re, -z.im⟩
  let t := sqrt ⟨1.0 + z.re, z.im⟩
  ⟨2.0 * Float.atan2 s.re t.re, Float.asinh (t.re * s.im - t.im * s.re)⟩

def atan (z : Complex) : Complex := z.turned.atanh.turnedBack

end LiveSketch.Script.Complex

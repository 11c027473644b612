import LiveSketch.Decimal.Shortest
import LiveSketch.Script.Value.Basic
import LiveSketch.Tree.Node

/-!
# Numbers

What operators do with whole, floating and complex numbers. Whole numbers have no bounds; a quotient
of two of them is the floating number nearest to it.
-/

namespace LiveSketch.Script

/-- Why an operator breaks off: the type of the fault and its words. -/
structure Trouble where
  type : String
  arguments : List Value

namespace Trouble

def plain (type words : String) : Trouble := ⟨type, [.text words]⟩

def zero (words : String) : Trouble := plain "ZeroDivisionError" words

/-- A result that no floating number comes near. -/
def outOfRange : Trouble :=
  ⟨"OverflowError", [.int 34, .text "Numerical result out of range"]⟩

end Trouble

/-! ## Whole numbers -/

/-- The number whose binary digits are the other ones. -/
def bitNot (a : Int) : Int := -a - 1

/-- The binary digits that both numbers have. -/
def bitAnd (a b : Int) : Int :=
  match decide (a < 0), decide (b < 0) with
  | false, false => (a.toNat &&& b.toNat : Nat)
  | true, false => (b.toNat - (b.toNat &&& (bitNot a).toNat) : Nat)
  | false, true => (a.toNat - (a.toNat &&& (bitNot b).toNat) : Nat)
  | true, true => bitNot ((bitNot a).toNat ||| (bitNot b).toNat : Nat)

/-- The binary digits that one of the numbers has. -/
def bitOr (a b : Int) : Int := bitNot (bitAnd (bitNot a) (bitNot b))

/-- The binary digits that just one of the numbers has. -/
def bitXor (a b : Int) : Int := bitAnd (bitOr a b) (bitNot (bitAnd a b))

/-- The floating number nearest to a quotient of two natural numbers. -/
def ratioOf (num den : Nat) : Float :=
  if num = 0 then 0.0
  else
    -- at least 66 binary digits of the quotient, and one more for what is cut off
    let shift : Int := 66 + (den.log2 : Int) - (num.log2 : Int)
    let num := num * 2 ^ shift.toNat
    let den := den * 2 ^ (-shift).toNat
    let whole := num / den
    let sticky := if num % den = 0 then 0 else 1
    let exponent := -shift
    -- the mantissa has 53 digits, or fewer where the exponent can go no lower
    let cut : Nat := max (whole.log2 + 1 - 53 : Nat) (-1074 - exponent).toNat
    let kept := whole / 2 ^ cut
    let rest := 2 * (whole % 2 ^ cut) + sticky
    let half := 2 ^ cut
    let kept := if half < rest || (rest = half && kept % 2 = 1) then kept + 1 else kept
    let mantissa := Float.ofNat kept
    Float.scaleB mantissa (exponent + cut)

/-- The floating number nearest to a quotient. -/
def quotientOf (a b : Int) : Float :=
  let q := ratioOf a.natAbs b.natAbs
  if (a < 0) != (b < 0) then -q else q

/-- The floating number nearest to a whole number. -/
def floatOfInt (n : Int) : Float :=
  if n.natAbs < 2 ^ 53 then Float.ofInt n else quotientOf n 1

def binaryLength (n : Int) : Nat := if n = 0 then 0 else n.natAbs.log2 + 1

/-- The floating number is infinite or no number. -/
def isUnbounded (x : Float) : Bool := x.isInf || x.isNaN

/-- The whole number that a bounded floating number is, without its fraction. -/
def truncated (x : Float) : Int :=
  match floatParts x with
  | .finite negative mantissa exponent =>
    let size := if 0 ≤ exponent then mantissa * 2 ^ exponent.toNat
      else mantissa / 2 ^ (-exponent).toNat
    if negative then -(size : Int) else size
  | _ => 0

/-- A bounded floating number as a quotient of whole numbers. -/
def ratioParts (x : Float) : Int × Nat :=
  match floatParts x with
  | .finite negative mantissa exponent =>
    let num := mantissa * 2 ^ exponent.toNat
    let den := 2 ^ (-exponent).toNat
    let g := Nat.gcd num den
    let num := (num / (if g = 0 then 1 else g) : Nat)
    (if negative then -(num : Int) else num, if num = 0 then 1 else den / (if g = 0 then 1 else g))
  | _ => (0, 1)

/-- The whole number nearest to a bounded floating number; a half goes to the even one. -/
def roundedEven (x : Float) : Int :=
  let (num, den) := ratioParts x
  let low := Int.fdiv num den
  let rest := 2 * (num - low * den)
  if rest < den then low
  else if rest > den then low + 1
  else if low % 2 = 0 then low else low + 1

/-! ## Floating numbers -/

/-- The sign of a floating number is negative. -/
def isNegative (x : Float) : Bool := 2 ^ 63 ≤ x.toBits.toNat

/-- The size of one number with the sign of another. -/
def withSign (x y : Float) : Float :=
  if isNegative x == isNegative y then x else -x

/-- What is left of a floating number after so many times another, towards zero. -/
def floatRest (x y : Float) : Float :=
  match floatParts x, floatParts y with
  | .finite negative m e, .finite _ n f =>
    if n = 0 then 0.0 / 0.0
    else
      let low := min e f
      let a := m * 2 ^ (e - low).toNat
      let b := n * 2 ^ (f - low).toNat
      let rest := a % b
      let r := if rest = 0 then 0.0
        else if 0 ≤ low then ratioOf (rest * 2 ^ low.toNat) 1
        else ratioOf rest (2 ^ (-low).toNat)
      if negative then -r else r
  | .finite .., .infinite _ => x
  | _, _ => 0.0 / 0.0

/-- The rest of a division towards the lower number, and its quotient. -/
def floatDivMod (x y : Float) : Float × Float :=
  let rest := floatRest x y
  let quotient := (x - rest) / y
  let (rest, quotient) :=
    if rest != 0.0 then
      if (y < 0.0) != (rest < 0.0) then (rest + y, quotient - 1.0) else (rest, quotient)
    else (withSign 0.0 y, quotient)
  let floored :=
    if quotient != 0.0 then
      let f := quotient.floor
      if quotient - f > 0.5 then f + 1.0 else f
    else withSign 0.0 (x / y)
  (floored, rest)

/-- A power of floating numbers; a negative base has none for a broken exponent. -/
def floatPower (x y : Float) : Except Trouble (Option Float) :=
  if y == 0.0 || x == 1.0 then .ok (some 1.0)
  else if x == 0.0 && y < 0.0 then
    .error (.zero "0.0 cannot be raised to a negative power")
  else
    let r := Float.pow x y
    if x.isNaN || y.isNaN then .ok (some r)
    else if r.isNaN && x < 0.0 then .ok none
    else if r.isInf && !x.isInf && !y.isInf then .error .outOfRange
    else .ok (some r)

/-! ## Roots -/

namespace Exact

/-- The floating number nearest to the square root of a quotient. -/
def sqrtOf (num den : Nat) : Float :=
  if num = 0 then 0.0
  else
    -- scale so that the root has at least 66 binary digits; an even shift keeps the root exact
    let shift : Int := 2 * ((136 + (den.log2 : Int) - (num.log2 : Int)) / 2)
    let num := num * 2 ^ shift.toNat
    let den := den * 2 ^ (-shift).toNat
    let whole := num / den
    let root := whole.sqrt
    -- a last digit stands for whatever is cut off
    let sticky := if root * root = whole && num % den = 0 then 0 else 1
    let mantissa := 2 * root + sticky
    let half := shift / 2 + 1
    if 0 ≤ half then ratioOf mantissa (2 ^ half.toNat) else ratioOf (mantissa * 2 ^ (-half).toNat) 1

/-- The floating number nearest to the length of a vector with bounded parts. -/
def lengthOf (xs : List Float) : Float :=
  let ratios := xs.map ratioParts
  let den := ratios.foldl (fun d r => max d r.2) 1
  let squares := ratios.foldl (fun n r => n + (r.1.natAbs * (den / r.2)) ^ 2) 0
  sqrtOf squares (den * den)

def vectorLength (xs : List Float) : Float :=
  if xs.any Float.isInf then 1.0 / 0.0
  else if xs.any Float.isNaN then 0.0 / 0.0
  else lengthOf xs

end Exact

/-! ## Complex numbers -/

/-- A complex number. -/
structure Complex where
  re : Float
  im : Float

namespace Complex

/-- The quotient of complex numbers, divided by the larger part first. -/
def div (a b : Complex) : Except Trouble Complex :=
  let size (x : Float) : Float := x.abs
  if b.re == 0.0 && b.im == 0.0 then .error (.zero "complex division by zero")
  else if size b.re >= size b.im then
    let ratio := b.im / b.re
    let den := b.re + b.im * ratio
    .ok ⟨(a.re + a.im * ratio) / den, (a.im - a.re * ratio) / den⟩
  else if size b.im >= size b.re then
    let ratio := b.re / b.im
    let den := b.re * ratio + b.im
    .ok ⟨(a.re * ratio + a.im) / den, (a.im * ratio - a.re) / den⟩
  else .ok ⟨0.0 / 0.0, 0.0 / 0.0⟩

def mul (a b : Complex) : Complex := ⟨a.re * b.re - a.im * b.im, a.re * b.im + a.im * b.re⟩

def size (a : Complex) : Float := Exact.vectorLength [a.re, a.im]

def natPower : Nat → Complex → Nat → Complex → Complex
  | 0, _, _, r => r
  | fuel + 1, p, n, r =>
    if n = 0 then r
    else natPower fuel (mul p p) (n / 2) (if n % 2 = 1 then mul r p else r)

def pow (a b : Complex) : Except Trouble Complex :=
  if b.re == 0.0 && b.im == 0.0 then .ok ⟨1.0, 0.0⟩
  else if a.re == 0.0 && a.im == 0.0 then
    if b.im != 0.0 || b.re < 0.0 then
      .error (.zero "0.0 to a negative or complex power")
    else .ok ⟨0.0, 0.0⟩
  else if b.im == 0.0 && b.re == b.re.floor && b.re.abs ≤ 100.0 then
    let n := truncated b.re
    let p := natPower 8 a n.natAbs ⟨1.0, 0.0⟩
    if 0 ≤ n then .ok p else div ⟨1.0, 0.0⟩ p
  else
    let size := a.size
    let angle := Float.atan2 a.im a.re
    let length := Float.pow size b.re
    let turn := angle * b.re
    let (length, turn) := if b.im != 0.0 then
        (length / Float.exp (angle * b.im), turn + b.im * Float.log size)
      else (length, turn)
    .ok ⟨length * Float.cos turn, length * Float.sin turn⟩

end Complex

/-! ## Operators between numbers -/

/-- A number in the narrowest of the three kinds. -/
inductive Numeric where
  | int (n : Int)
  | float (x : Float)
  | complex (z : Complex)

namespace Numeric

def of? : Value → Option Numeric
  | .int n => some (int n)
  | .bool b => some (int (if b then 1 else 0))
  | .float x => some (float x)
  | .complex re im => some (complex ⟨re, im⟩)
  | _ => none

end Numeric

/-- The most binary digits of a number that is worked out. -/
def maxDigits : Nat := 2 ^ 32

/-- A number of too many digits. -/
def Trouble.tooLarge : Trouble := ⟨"MemoryError", []⟩

def intPower (a b : Int) : Except Trouble Value :=
  if 0 ≤ b then
    if a.natAbs ≤ 1 then
      .ok (.int (if b = 0 then 1 else if a = -1 then (if b % 2 = 0 then 1 else -1) else a))
    else if maxDigits < binaryLength a * b.toNat then .error .tooLarge
    else .ok (.int (a ^ b.toNat))
  else do
    match ← floatPower (floatOfInt a) (floatOfInt b) with
    | some r => .ok (.float r)
    | none => .ok .none

/-- An operator between whole numbers. -/
def intOperator (op : BinaryOperator) (a b : Int) : Except Trouble (Option Value) :=
  match op with
  | .add => .ok (some (.int (a + b)))
  | .sub => .ok (some (.int (a - b)))
  | .mult => .ok (some (.int (a * b)))
  | .div =>
    if b = 0 then .error (.zero "division by zero")
    else
      let q := quotientOf a b
      if q.isInf then .error (.plain "OverflowError" "integer division result too large for a float")
      else .ok (some (.float q))
  | .floorDiv =>
    if b = 0 then .error (.zero "integer division or modulo by zero")
    else .ok (some (.int (Int.fdiv a b)))
  | .mod =>
    if b = 0 then .error (.zero "integer modulo by zero") else .ok (some (.int (Int.fmod a b)))
  | .pow => (intPower a b).map some
  | .leftShift =>
    if b < 0 then .error (.plain "ValueError" "negative shift count")
    else if a = 0 then .ok (some (.int 0))
    else if 2 ^ 63 ≤ b then .error (.plain "OverflowError" "too many digits in integer")
    else if maxDigits < b then .error .tooLarge
    else .ok (some (.int (a * 2 ^ b.toNat)))
  | .rightShift =>
    if b < 0 then .error (.plain "ValueError" "negative shift count")
    else .ok (some (.int (a >>> (min b (binaryLength a + 1)).toNat)))
  | .bitOr => .ok (some (.int (bitOr a b)))
  | .bitXor => .ok (some (.int (bitXor a b)))
  | .bitAnd => .ok (some (.int (bitAnd a b)))
  | .matMult => .ok none

def floatOperator (op : BinaryOperator) (a b : Float) : Except Trouble (Option Value) :=
  match op with
  | .add => .ok (some (.float (a + b)))
  | .sub => .ok (some (.float (a - b)))
  | .mult => .ok (some (.float (a * b)))
  | .div =>
    if b == 0.0 then .error (.zero "float division by zero") else .ok (some (.float (a / b)))
  | .floorDiv =>
    if b == 0.0 then .error (.zero "float floor division by zero")
    else .ok (some (.float (floatDivMod a b).1))
  | .mod =>
    if b == 0.0 then .error (.zero "float modulo") else .ok (some (.float (floatDivMod a b).2))
  | .pow => do
    match ← floatPower a b with
    | some r => .ok (some (.float r))
    | none =>
      let z ← Complex.pow ⟨a, 0.0⟩ ⟨b, 0.0⟩
      .ok (some (.complex z.re z.im))
  | _ => .ok none

def complexOperator (op : BinaryOperator) (a b : Complex) : Except Trouble (Option Value) :=
  let value (z : Complex) : Option Value := some (.complex z.re z.im)
  match op with
  | .add => .ok (value ⟨a.re + b.re, a.im + b.im⟩)
  | .sub => .ok (value ⟨a.re - b.re, a.im - b.im⟩)
  | .mult => .ok (value (a.mul b))
  | .div => (a.div b).map value
  | .pow => (a.pow b).map value
  | _ => .ok none

/-- The floating number that a whole number is, unless it is too large. -/
def boundedFloat (n : Int) : Except Trouble Float :=
  let x := floatOfInt n
  if x.isInf then .error (.plain "OverflowError" "int too large to convert to float") else .ok x

/-- An operator between numbers, if it has a meaning for them. -/
def numberOperator (op : BinaryOperator) : Numeric → Numeric → Except Trouble (Option Value)
  | .int a, .int b => intOperator op a b
  | .float a, .float b => floatOperator op a b
  | .int a, .float b => do floatOperator op (← boundedFloat a) b
  | .float a, .int b => do floatOperator op a (← boundedFloat b)
  | .complex a, .complex b => complexOperator op a b
  | .complex a, .int b => do complexOperator op a ⟨← boundedFloat b, 0.0⟩
  | .int a, .complex b => do complexOperator op ⟨← boundedFloat a, 0.0⟩ b
  | .complex a, .float b => complexOperator op a ⟨b, 0.0⟩
  | .float a, .complex b => complexOperator op ⟨a, 0.0⟩ b

/-- The order of a whole and a floating number, unless the latter is no number. -/
def compareIntFloat (n : Int) (x : Float) : Option Ordering :=
  match floatParts x with
  | .nan => none
  | .infinite negative => some (if negative then .gt else .lt)
  | .finite .. =>
    let (num, den) := ratioParts x
    some (compare (n * den) num)

/-- The order of floating numbers, unless one of them is no number. -/
def compareFloats (x y : Float) : Option Ordering :=
  if x < y then some .lt else if x == y then some .eq else if x > y then some .gt else none

/-- The order of numbers: nothing for complex numbers, and `none` inside where one is no number. -/
def compareNumbers : Numeric → Numeric → Option (Option Ordering)
  | .int a, .int b => some (some (compare a b))
  | .float a, .float b => some (compareFloats a b)
  | .int a, .float b => some (compareIntFloat a b)
  | .float a, .int b => some ((compareIntFloat b a).map Ordering.swap)
  | _, _ => none

def equalNumbers (a b : Numeric) : Bool :=
  match a, b with
  | .complex a, .complex b => a.re == b.re && a.im == b.im
  | .complex z, .float x | .float x, .complex z => z.re == x && z.im == 0.0
  | .complex z, .int n | .int n, .complex z => compareIntFloat n z.re == some .eq && z.im == 0.0
  | a, b => compareNumbers a b == some (some .eq)

end LiveSketch.Script

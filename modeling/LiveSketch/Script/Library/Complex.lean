import LiveSketch.Script.Library.Mathematics
import LiveSketch.Script.Value.Complex

/-!
# Mathematics of complex numbers

The functions of complex numbers that scripts can import.
-/

namespace LiveSketch.Script

namespace Library

open Run

/-- The complex number that a value stands for. -/
def asComplex (v : Value) : Run Complex := do
  match ← unwrap v with
  | .complex re im => pure ⟨re, im⟩
  | _ => match ← callSpecial? v "__complex__" [] with
    | some (.complex re im) => pure ⟨re, im⟩
    | _ => return ⟨← asFloat v, 0.0⟩

def complexValue (z : Complex) : Value := .complex z.re z.im

/-- A function of one complex number; `isDefined` says where it has a value. -/
def ofComplex (name : String) (f : Complex → Complex) (isDefined : Complex → Bool) :
    String × Native :=
  one ("cmath." ++ name) fun v => do
    let z ← asComplex v
    if !isDefined z then outsideDomain
    let isBounded := !isUnbounded z.re && !isUnbounded z.im
    let w := f z
    if isBounded && (w.re.isInf || w.im.isInf || w.re.isNaN || w.im.isNaN) then outsideRange
    pure (complexValue w)

def complexTest (name : String) (f : Complex → Bool) : String × Native :=
  one ("cmath." ++ name) fun v => do return .bool (f (← asComplex v))

def complexShelf : Shelf :=
  let always (_ : Complex) : Bool := true
  let notZero (z : Complex) : Bool := z.re != 0.0 || z.im != 0.0
  let offOne (z : Complex) : Bool := !(z.re.abs == 1.0 && z.im == 0.0)
  [("sqrt", Complex.sqrt), ("exp", Complex.exp), ("sin", Complex.sin), ("cos", Complex.cos),
    ("tan", Complex.tan), ("sinh", Complex.sinh), ("cosh", Complex.cosh), ("tanh", Complex.tanh),
    ("asin", Complex.asin), ("acos", Complex.acos), ("asinh", Complex.asinh),
    ("acosh", Complex.acosh)].map (fun (n, f) => ofComplex n f always) ++
  [ofComplex "atanh" Complex.atanh offOne,
    ofComplex "atan" Complex.atan fun z => offOne z.turned,
    ofComplex "log10" (fun z =>
      let w := z.log
      ⟨w.re / 2.302585092994046, w.im / 2.302585092994046⟩) notZero,
    complexTest "isnan" fun z => z.re.isNaN || z.im.isNaN,
    complexTest "isinf" fun z => z.re.isInf || z.im.isInf,
    complexTest "isfinite" fun z => !isUnbounded z.re && !isUnbounded z.im,
    some_ "cmath.log" 1 2 fun args => do
      let z ← asComplex (args.getD 0 .none)
      if !notZero z then outsideDomain
      match args[1]? with
      | none => pure (complexValue z.log)
      | some base => do
        let b ← asComplex base
        if !notZero b then outsideDomain
        operate .div (complexValue z.log) (complexValue b.log),
    one "cmath.phase" fun v => do return .float (← asComplex v).angle,
    one "cmath.polar" fun v => do
      let z ← asComplex v
      pure (.tuple [.float z.size, .float z.angle]),
    some_ "cmath.rect" 2 2 fun args => do
      let r ← asFloat (args.getD 0 .none)
      let phi ← asFloat (args.getD 1 .none)
      pure (complexValue (Complex.ofPolar r phi)),
    withNames "cmath.isclose" ["a", "b"] 2 ["rel_tol", "abs_tol"] fun args => do
      match args with
      | [some a, some b, r, s] => do
        let relative ← asFloat (r.getD (.float 1e-9))
        let absolute ← asFloat (s.getD (.float 0.0))
        if relative < 0.0 || absolute < 0.0 then wrongValue "tolerances must be non-negative"
        let z ← asComplex a
        let w ← asComplex b
        if z.re == w.re && z.im == w.im then return .bool true
        let apart := Complex.size ⟨z.re - w.re, z.im - w.im⟩
        return .bool (apart ≤ relative * w.size || apart ≤ relative * z.size || apart ≤ absolute)
      | _ => nothing]

end Library

end LiveSketch.Script

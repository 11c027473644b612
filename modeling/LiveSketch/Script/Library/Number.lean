import LiveSketch.Script.Library.Basic
import LiveSketch.Script.Number
import LiveSketch.Text.Whole

/-!
# Numbers

How scripts make numbers of other values, round them, and take them apart.
-/

namespace LiveSketch.Script

namespace Library

open Run

/-! ## Reading -/

/-- The value of a digit in bases up to thirty-six. -/
def digitIn? (base : Nat) (c : Char) : Option Nat :=
  let value := match digitValue? c with
    | some d => some d
    | none =>
      let n := c.toLower.toNat
      if 97 ≤ n && n ≤ 122 then some (n - 87) else none
  value.filter (· < base)

/-- The number of a run of digits, single underscores between them left out. -/
def digitsIn (base : Nat) : List Char → Option Nat → Option Nat
  | [], n => n
  | '_' :: c :: rest, some n => do
    let d ← digitIn? base c
    digitsIn base rest (some (base * n + d))
  | c :: rest, n => do
    let d ← digitIn? base c
    digitsIn base rest (some (base * n.getD 0 + d))

/-- The letter that stands for a base after a zero. -/
def baseLetter (base : Nat) : Option Char :=
  if base = 16 then some 'x' else if base = 8 then some 'o' else if base = 2 then some 'b' else none

/-- Reads a whole number in a base; base zero takes what the number says itself. -/
def wholeInBase (text : String) (base : Nat) : Option Int := do
  let cs := trimBlanks text.toList
  let (negative, cs) := match cs with
    | '-' :: rest => (true, rest)
    | '+' :: rest => (false, rest)
    | cs => (false, cs)
  let (base, digits) := match cs with
    | '0' :: c :: rest =>
      let letter := c.toLower
      let afterMark := match rest with
        | '_' :: more => more
        | rest => rest
      if base = 0 then
        match [16, 8, 2].find? fun b => baseLetter b == some letter with
        | some b => (b, afterMark)
        | none => (10, cs)
      else if baseLetter base == some letter then (base, afterMark) else (base, cs)
    | cs => (if base = 0 then 10 else base, cs)
  let n ← digitsIn base digits none
  pure (if negative then -(n : Int) else n)

/-- A floating number in text, as digits with underscores between them are left out. -/
def floatIn (text : String) : Option Float :=
  let cs := (trimBlanks text.toList).map fun c => match digitValue? c with
    | some d => Char.ofNat (48 + d)
    | none => c
  let (negative, body) := match cs with
    | '-' :: rest => (true, rest)
    | '+' :: rest => (false, rest)
    | cs => (false, cs)
  let word := (String.ofList body).toLower
  let size :=
    if word == "inf" || word == "infinity" then some (1.0 / 0.0)
    else if word == "nan" then some (0.0 / 0.0)
    else
      let isFine := decimalShape body
      if isFine then some (floatOfDecimal (body.filter (· != '_'))) else none
  size.map fun x => if negative then -x else x
where
  /-- Digits with single underscores between them; at least one where one is due. -/
  run (cs : List Char) : Option (List Char × Bool) :=
    let part := cs.takeWhile fun c => c.isDigit || c == '_'
    if part.head? == some '_' || part.getLast? == some '_' then none
    else if (part.zip (part.drop 1)).any fun (a, b) => a == '_' && b == '_' then none
    else some (cs.drop part.length, !part.isEmpty)
  /-- The characters have the shape of a decimal number. -/
  decimalShape (cs : List Char) : Bool :=
    match run cs with
    | none => false
    | some (rest, before) =>
      let afterPoint := match rest with
        | '.' :: rest => run rest
        | rest => some (rest, false)
      match afterPoint with
      | none => false
      | some (rest, after) =>
        (before || after) && match rest with
          | [] => true
          | e :: rest =>
            let rest := match rest with
              | '-' :: r => r
              | '+' :: r => r
              | r => r
            (e == 'e' || e == 'E') && match run rest with
              | some ([], true) => true
              | _ => false

/-- The whole number of a floating number that must be bounded. -/
def wholeOfFloat (x : Float) : Run Int := do
  if x.isNaN then wrongValue "cannot convert float NaN to integer"
  if x.isInf then raise "OverflowError" "cannot convert float infinity to integer"
  pure (truncated x)

/-- A text with so many digits as are allowed, or a fault. -/
def readInt (shownText text : String) (base : Nat) : Run Int := do
  let digits := (text.toList.filter Char.isDigit).length
  if maxWholeDigits < digits && (base = 10 || base = 0) then
    wrongValue (tooManyDigits digits)
  match wholeInBase text base with
  | some n => pure n
  | none =>
    wrongValue ("invalid literal for int() with base " ++ toString base ++ ": " ++ shownText)

/-- Makes a whole number of a value. -/
def makeInt (args : List (Option Value)) : Run Value := do
  match args with
  | [none, none] => pure (.int 0)
  | [some v, none] =>
    match ← unwrap v with
    | .text s => return .int (← readInt (quoted s) s 10)
    | .bytes bs =>
      return .int (← readInt (bytesShown bs) (String.ofList (bs.map fun b => Char.ofNat b.toNat)) 10)
    | .float x => return .int (← wholeOfFloat x)
    | w => match w.int? with
      | some n => pure (.int n)
      | none =>
        for name in ["__int__", "__index__", "__trunc__"] do
          match ← callSpecial? v name [] with
          | some r => match r.int? with
            | some n => return .int n
            | none => wrongType (name ++ " returned non-int (type " ++ (← typeName r) ++ ")")
          | none => pure ()
        wrongType ("int() argument must be a string, a bytes-like object or a real number, not '" ++
          (← typeName v) ++ "'")
  | [some v, some base] => do
    let base ← asIndex base
    if base ≠ 0 ∧ (base < 2 ∨ 36 < base) then wrongValue "int() base must be >= 2 and <= 36, or 0"
    match ← unwrap v with
    | .text s => return .int (← readInt (quoted s) s base.toNat)
    | .bytes bs => return .int (← readInt (bytesShown bs)
        (String.ofList (bs.map fun b => Char.ofNat b.toNat)) base.toNat)
    | _ => wrongType "int() can't convert non-string with explicit base"
  | _ => wrongType "int() missing string argument"

/-- Makes a floating number of a value. -/
def makeFloat (v : Value) : Run Value := do
  match ← unwrap v with
  | .text s => match floatIn s with
    | some x => pure (.float x)
    | none => wrongValue ("could not convert string to float: " ++ quoted s)
  | _ => match ← float? v with
    | some x => pure (.float x)
    | none =>
      wrongType ("float() argument must be a string or a real number, not '" ++ (← typeName v) ++ "'")

/-- Makes a complex number of values. -/
def makeComplex (args : List (Option Value)) : Run Value := do
  let part (v : Value) : Run Complex := do
    match ← unwrap v with
    | .complex re im => pure ⟨re, im⟩
    | _ => match ← float? v with
      | some x => pure ⟨x, 0.0⟩
      | none => wrongType ("complex() first argument must be a string or a number, not '" ++
          (← typeName v) ++ "'")
  match args with
  | [some (.text s), none] =>
    let cs := (trimBlanks s.toList).filter fun c => c != '(' && c != ')'
    let isImaginary := cs.getLast?.any fun c => c == 'j' || c == 'J'
    if !isImaginary then
      match floatIn (String.ofList cs) with
      | some x => return .complex x 0.0
      | none => wrongValue "complex() arg is a malformed string"
    else
      let body := cs.dropLast
      let signs := (List.range body.length).filter fun k =>
        0 < k && (body[k]? == some '+' || body[k]? == some '-') &&
          !(body[k - 1]? == some 'e' || body[k - 1]? == some 'E')
      let (re, im) := match signs.getLast? with
        | some k => (body.take k, body.drop k)
        | none => ([], body)
      let im := if im == ['+'] || im == [] then ['1'] else if im == ['-'] then ['-', '1'] else im
      match (if re.isEmpty then some 0.0 else floatIn (String.ofList re)), floatIn (String.ofList im) with
      | some x, some y => pure (.complex x y)
      | _, _ => wrongValue "complex() arg is a malformed string"
  | [none, none] => pure (.complex 0.0 0.0)
  | [some a, none] => do
    let z ← part a
    pure (.complex z.re z.im)
  | [a, some b] => do
    let z ← part (a.getD (.int 0))
    let w ← part b
    pure (.complex (z.re - w.im) (z.im + w.re))
  | _ => pure (.complex 0.0 0.0)

/-! ## Rounding and parts -/

/-- A whole number rounded to tens; a half goes to the even one. -/
def roundedTens (n : Int) (tens : Nat) : Int :=
  let unit : Int := 10 ^ tens
  let low := Int.fdiv n unit
  let rest := 2 * (n - low * unit)
  let low := if rest < unit then low else if unit < rest then low + 1
    else if low % 2 = 0 then low else low + 1
  low * unit

def rounded (v digits : Value) : Run Value := do
  match ← callSpecial? v "__round__" (if digits.isNone then [] else [digits]) with
  | some r => return r
  | none => pure ()
  match ← unwrap v with
  | .float x =>
    if digits.isNone then
      if x.isNaN then wrongValue "cannot convert float NaN to integer"
      if x.isInf then raise "OverflowError" "cannot convert float infinity to integer"
      pure (.int (roundedEven x))
    else
      let places ← asIndex digits
      let r := if 323 < places then x else if places < -308 then withSign 0.0 x else roundedTo places x
      if r.isInf && !x.isInf then raise "OverflowError" "rounded value too large to represent"
      pure (.float r)
  | w => match w.int? with
    | some n =>
      if digits.isNone then pure (.int n)
      else
        let places ← asIndex digits
        let isAllOff := 0 < -places ∧ binaryLength n < (-places).toNat
        pure (.int (if 0 ≤ places then n else if isAllOff then 0 else roundedTens n (-places).toNat))
    | none => wrongType ("type " ++ (← typeName v) ++ " doesn't define __round__ method")

def absolute (v : Value) : Run Value := do
  match ← callSpecial? v "__abs__" [] with
  | some r => return r
  | none => pure ()
  match ← unwrap v with
  | .float x => pure (.float x.abs)
  | .complex re im => pure (.float (Complex.size ⟨re, im⟩))
  | w => match w.int? with
    | some n => pure (.int n.natAbs)
    | none => wrongType ("bad operand type for abs(): '" ++ (← typeName v) ++ "'")

def quotientAndRest (a b : Value) : Run Value := do
  match ← askOperator a "__divmod__" b with
  | some r => return r
  | none => pure ()
  match ← askOperator b "__rdivmod__" a with
  | some r => return r
  | none => pure ()
  match Numeric.of? (← unwrap a), Numeric.of? (← unwrap b) with
  | some (.int x), some (.int y) =>
    if y = 0 then raise "ZeroDivisionError" "integer division or modulo by zero"
    else pure (.tuple [.int (Int.fdiv x y), .int (Int.fmod x y)])
  | some (.complex _), some _ | some _, some (.complex _) =>
    wrongType "can't take floor of complex number."
  | some _, some _ => do
    let x ← asFloat a
    let y ← asFloat b
    if y == 0.0 then raise "ZeroDivisionError" "float divmod()"
    else
      let (q, r) := floatDivMod x y
      pure (.tuple [.float q, .float r])
  | _, _ =>
    wrongType ("unsupported operand type(s) for divmod(): '" ++ (← typeName a) ++ "' and '" ++
      (← typeName b) ++ "'")

def power (a b m : Value) : Run Value := do
  if m.isNone then operate .pow a b
  else match a.int?, b.int?, m.int? with
    | some a, some b, some m =>
      if m = 0 then wrongValue "pow() 3rd argument cannot be 0"
      else if b < 0 then
        match inverse a m with
        | some i => pure (.int (modPower i (-b).toNat m))
        | none => wrongValue "base is not invertible for the given modulus"
      else pure (.int (modPower a b.toNat m))
    | _, _, _ => wrongType "pow() 3rd argument not allowed unless all arguments are integers"
where
  /-- A power by a modulus, by squaring. -/
  modPower (a : Int) (n : Nat) (m : Int) : Int :=
    let rec go : Nat → Int → Nat → Int → Int
      | 0, _, _, r => r
      | fuel + 1, a, n, r =>
        if n = 0 then r
        else go fuel (Int.fmod (a * a) m) (n / 2) (if n % 2 = 1 then Int.fmod (r * a) m else r)
    go (n.log2 + 2) (Int.fmod a m) n (Int.fmod 1 m)
  /-- The number that a number times gives one by a modulus. -/
  inverse (a m : Int) : Option Int :=
    let rec go : Nat → Int → Int → Int → Int → Option Int
      | 0, _, _, _, _ => none
      | fuel + 1, r, s, r', s' =>
        if r' = 0 then (if r = 1 then some s else if r = -1 then some (-s) else none)
        else
          let q := Int.fdiv r r'
          go fuel r' s' (r - q * r') (s - q * s')
    (go 10000 (Int.fmod a m) 1 m 0).map fun i => Int.fmod i m

/-- A whole number in a base, with what stands in front. -/
def inBase (v : Value) (base : Nat) (front : String) : Run Value := do
  let n ← asIndex v
  pure (.text ((if n < 0 then "-" else "") ++ front ++ String.ofList (Nat.toDigits base n.natAbs)))

def numberShelf : Shelf :=
  [withNames "int" ["x", "base"] 0 [] makeInt,
    some_ "float" 0 1 fun args => match args with
      | [v] => makeFloat v
      | _ => pure (.float 0.0),
    withNames "complex" ["real", "imag"] 0 [] makeComplex,
    some_ "bool" 0 1 fun args => match args with
      | [v] => do return .bool (← truth v)
      | _ => pure (.bool false),
    one "abs" absolute,
    withNames "round" ["number", "ndigits"] 1 [] fun args => match args with
      | [some v, d] => rounded v (Value.ofOption d)
      | _ => nothing,
    some_ "divmod" 2 2 fun args => match args with
      | [a, b] => quotientAndRest a b
      | _ => nothing,
    withNames "pow" ["base", "exp", "mod"] 2 [] fun args => match args with
      | [some a, some b, m] => power a b (Value.ofOption m)
      | _ => nothing,
    one "bin" fun v => inBase v 2 "0b",
    one "oct" fun v => inBase v 8 "0o",
    one "hex" fun v => inBase v 16 "0x",
    method0 "int.bit_length" fun v => do return .int (binaryLength (← asIndex v)),
    method0 "int.bit_count" fun v => do
      return .int ((Nat.toDigits 2 (← asIndex v).natAbs).filter (· == '1')).length,
    method0 "int.conjugate" fun v => do return .int (← asIndex v),
    method0 "int.as_integer_ratio" fun v => do return .tuple [.int (← asIndex v), .int 1],
    method0 "float.is_integer" fun v => do
      let x ← asFloat v
      return .bool (!isUnbounded x && x == x.floor),
    method0 "float.conjugate" fun v => do return .float (← asFloat v),
    method0 "float.as_integer_ratio" fun v => do
      let x ← asFloat v
      if x.isNaN then wrongValue "cannot convert NaN to integer ratio"
      if x.isInf then raise "OverflowError" "cannot convert Infinity to integer ratio"
      let (num, den) := ratioParts x
      return .tuple [.int num, .int den],
    method0 "complex.conjugate" fun v => do
      match ← unwrap v with
      | .complex re im => pure (.complex re (-im))
      | v => pure v]

end Library

end LiveSketch.Script

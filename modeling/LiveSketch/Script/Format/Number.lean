import LiveSketch.Script.Value.Arithmetic

/-!
# Numbers with so many digits

A floating number with a number of decimal places, or with a number of digits. The decimal nearest
to the exact value is taken, and of two at the same distance the one with the even last digit.
-/

namespace LiveSketch.Script

/-- The natural number nearest to a quotient; a half goes to the even one. -/
def roundedRatio (num den : Nat) : Nat :=
  let low := num / den
  let rest := 2 * (num % den)
  if rest < den then low else if den < rest then low + 1 else if low % 2 = 0 then low else low + 1

/-- A natural number with at least so many digits. -/
def paddedNat (width n : Nat) : String :=
  let digits := Nat.toDigits 10 n
  String.ofList (List.replicate (width - digits.length) '0' ++ digits)

/-- The size of a bounded floating number as a quotient. -/
def sizeRatio (x : Float) : Nat × Nat :=
  let (num, den) := ratioParts x
  (num.natAbs, den)

/-- The digits before and after the point, with so many places. -/
def fixedDigits (places : Nat) (x : Float) : String × String :=
  let (num, den) := sizeRatio x
  let text := paddedNat (places + 1) (roundedRatio (num * 10 ^ places) den)
  (String.ofList (text.toList.take (text.length - places)),
    String.ofList (text.toList.drop (text.length - places)))

/-- So many significant digits, and the power of ten of the first one. -/
def significantDigits (count : Nat) (x : Float) : List Char × Int :=
  let (num, den) := sizeRatio x
  if num = 0 then (List.replicate count '0', 0)
  else
    let exponent := pointOf num den - 1
    let shift : Int := count - 1 - exponent
    let n := roundedRatio (num * 10 ^ shift.toNat) (den * 10 ^ (-shift).toNat)
    let digits := Nat.toDigits 10 n
    if count < digits.length then (digits.take count, exponent + 1) else (digits, exponent)

/-- The text of an exponent: a sign and at least two digits. -/
def exponentText (letter : Char) (exponent : Int) : String :=
  String.singleton letter ++ (if exponent < 0 then "-" else "+") ++ paddedNat 2 exponent.natAbs

/-- The parts of a number in text: before the point, after it, and the exponent. -/
structure NumberText where
  whole : String
  fraction : String
  exponent : String
deriving Inhabited

def fixedText (places : Nat) (x : Float) : NumberText :=
  let (whole, fraction) := fixedDigits places x
  ⟨whole, fraction, ""⟩

/-- A number in scientific notation with a number of places. -/
def scientificText (letter : Char) (places : Nat) (x : Float) : NumberText :=
  let (digits, exponent) := significantDigits (places + 1) x
  ⟨String.ofList (digits.take 1), String.ofList (digits.drop 1), exponentText letter exponent⟩

def withoutEndZeros (text : String) : String :=
  String.ofList ((text.toList.reverse.dropWhile (· == '0')).reverse)

/-- A number with so many significant digits: positional where the exponent is small. With
`keepsPoint` one digit stays behind the point. -/
def generalText (letter : Char) (precision : Nat) (keepsZeros keepsPoint : Bool) (x : Float) :
    NumberText :=
  let precision := if precision = 0 then 1 else precision
  let (digits, exponent) := significantDigits precision x
  let limit : Int := if keepsPoint then (precision : Int) - 1 else precision
  let cut (s : String) : String := if keepsZeros then s else withoutEndZeros s
  if exponent < -4 || limit ≤ exponent then
    ⟨String.ofList (digits.take 1), cut (String.ofList (digits.drop 1)),
      exponentText letter exponent⟩
  else
    let text := fixedText ((precision : Int) - 1 - exponent).toNat x
    let fraction := cut text.fraction
    ⟨text.whole, if keepsPoint && fraction.isEmpty then "0" else fraction, ""⟩

/-- The shortest text that reads back, in parts. -/
def shortestText (x : Float) : NumberText :=
  let text := (floatText (if isNegative x then -x else x)).toList
  let whole := text.takeWhile Char.isDigit
  let rest := text.drop whole.length
  match rest with
  | '.' :: rest =>
    let fraction := rest.takeWhile Char.isDigit
    ⟨String.ofList whole, String.ofList fraction, String.ofList (rest.drop fraction.length)⟩
  | _ => ⟨String.ofList whole, "", String.ofList rest⟩

/-- A number rounded to so many places, which may be less than none. -/
def roundedTo (places : Int) (x : Float) : Float :=
  if isUnbounded x || x == 0.0 then x
  else
    let (num, den) := ratioParts x
    let size :=
      if 0 ≤ places then
        ratioOf (roundedRatio (num.natAbs * 10 ^ places.toNat) den) (10 ^ places.toNat)
      else ratioOf (roundedRatio num.natAbs (den * 10 ^ (-places).toNat) * 10 ^ (-places).toNat) 1
    if isNegative x then -size else size

end LiveSketch.Script

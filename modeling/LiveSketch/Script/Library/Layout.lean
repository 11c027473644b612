import LiveSketch.Script.Library.Bytes
import LiveSketch.Script.Library.Number

/-!
# Numbers laid out

Whole numbers as bytes in either order, and floating numbers to the base of sixteen.
-/

namespace LiveSketch.Script

namespace Library

open Run

/-! ## Whole numbers as bytes -/

def lowBytes : Nat → Nat → List UInt8
  | 0, _ => []
  | count + 1, n => UInt8.ofNat (n % 256) :: lowBytes count (n / 256)

/-- The number of bytes, the least significant first. -/
def ofLowBytes (bs : List UInt8) : Nat := bs.foldr (fun b n => b.toNat + 256 * n) 0

/-- The least significant byte comes first in this order. -/
def isLittle (v : Value) : Run Bool := do
  match ← unwrap v with
  | .text "little" => pure true
  | .text "big" => pure false
  | .text _ => wrongValue "byteorder must be either 'little' or 'big'"
  | _ => wrongType ("argument 'byteorder' must be str, not " ++ (← typeName v))

def bytesOfInt (n : Int) (count : Int) (little signed : Bool) : Run Value := do
  if count < 0 then wrongValue "length argument must be non-negative"
  if n < 0 && !signed then raise "OverflowError" "can't convert negative int to unsigned"
  let all : Int := 2 ^ (8 * count.toNat)
  let fits := if signed then -all ≤ 2 * n && 2 * n < all else n < all
  if !fits then raise "OverflowError" "int too big to convert"
  let bs := lowBytes count.toNat (if n < 0 then n + all else n).toNat
  pure (.bytes (if little then bs else bs.reverse))

def intOfBytes (bs : List UInt8) (little signed : Bool) : Int :=
  let n : Int := ofLowBytes (if little then bs else bs.reverse)
  let all : Int := 2 ^ (8 * bs.length)
  if signed && all ≤ 2 * n then n - all else n

/-! ## Floating numbers to the base of sixteen -/

/-- The text of a floating number to the base of sixteen. -/
def hexFloat (x : Float) : String :=
  if x.isNaN then "nan"
  else
    let sign := if isNegative x then "-" else ""
    if x.isInf then sign ++ "inf"
    else
      let bits := x.toBits.toNat
      let exponent : Nat := bits / 2 ^ 52 % 2 ^ 11
      let places : Nat := bits % 2 ^ 52
      if exponent = 0 && places = 0 then sign ++ "0x0.0p+0"
      else
        let power : Int := if exponent == 0 then -1022 else Int.ofNat exponent - 1023
        sign ++ "0x" ++ (if exponent = 0 then "0" else "1") ++ "." ++ hexText 13 places ++ "p" ++
          (if power < 0 then "-" else "+") ++ toString power.natAbs

/-- Digits to the base of sixteen at the front, and the rest. -/
def hexDigits (cs : List Char) : List Nat × List Char :=
  let digits := cs.takeWhile fun c => (digitIn? 16 c).isSome
  (digits.filterMap (digitIn? 16), cs.drop digits.length)

/-- The floating number of digits to the base of sixteen around a point, times a power of two. -/
def floatOfHex (whole places : List Nat) (power : Int) : Float :=
  let n := (whole ++ places).foldl (fun n d => 16 * n + d) 0
  let shift := power - 4 * places.length
  if n = 0 then 0.0
  else if 1100 < shift + n.log2 then 1.0 / 0.0
  else if shift + n.log2 < -1200 then 0.0
  else quotientOf (n * 2 ^ shift.toNat : Nat) (2 ^ (-shift).toNat : Nat)

/-- Reads a floating number to the base of sixteen. -/
def readHexFloat (text : String) : Option Float := do
  let cs := (trimBlanks text.toList).map Char.toLower
  let (negative, cs) := match cs with
    | '-' :: rest => (true, rest)
    | '+' :: rest => (false, rest)
    | rest => (false, rest)
  let size ← if cs == "inf".toList || cs == "infinity".toList then some (1.0 / 0.0)
    else if cs == "nan".toList then some (0.0 / 0.0)
    else do
      let cs := match cs with
        | '0' :: 'x' :: rest => rest
        | rest => rest
      let (whole, cs) := hexDigits cs
      let (places, cs) := match cs with
        | '.' :: rest => hexDigits rest
        | rest => ([], rest)
      if whole.isEmpty && places.isEmpty then none
      else match cs with
        | [] => some (floatOfHex whole places 0)
        | 'p' :: rest => (wholeIn (String.ofList rest)).map (floatOfHex whole places)
        | _ => none
  pure (if negative then -size else size)

def layoutShelf : Shelf :=
  [methodNames "int.to_bytes" ["length", "byteorder"] 0 ["signed"] fun self args => do
      let count ← asSize (((args[0]?).join).getD (.int 1))
      let little ← isLittle (((args[1]?).join).getD (.text "big"))
      let signed ← truth (((args[2]?).join).getD (.bool false))
      bytesOfInt (← asIndex self) count little signed,
    methodNames "int.from_bytes" ["bytes", "byteorder"] 1 ["signed"] fun _ args => do
      let bs ← match ← makeBytes [(args[0]?).join, none, none] with
        | .bytes bs => pure bs
        | _ => pure []
      let little ← isLittle (((args[1]?).join).getD (.text "big"))
      let signed ← truth (((args[2]?).join).getD (.bool false))
      return .int (intOfBytes bs little signed),
    method0 "float.hex" fun self => do return .text (hexFloat (← asFloat self)),
    method1 "float.fromhex" fun _ v => do
      let text ← textArgument v "bad argument type for built-in operation, not "
      match readHexFloat text with
      | some x =>
        if x.isInf && !text.toList.any (fun c => c == 'n' || c == 'N') then
          raise "OverflowError" "hexadecimal value too large to represent as a float"
        pure (.float x)
      | none => wrongValue "invalid hexadecimal floating-point string",
    method0 "int.__ceil__" fun self => do return .int (← asIndex self),
    method0 "int.__floor__" fun self => do return .int (← asIndex self),
    method0 "int.__trunc__" fun self => do return .int (← asIndex self),
    method0 "float.__ceil__" fun self => do return .int (← wholeOfFloat (← asFloat self).ceil),
    method0 "float.__floor__" fun self => do return .int (← wholeOfFloat (← asFloat self).floor),
    method0 "float.__trunc__" fun self => do return .int (← wholeOfFloat (← asFloat self))]

end Library

end LiveSketch.Script

import LiveSketch.Script.Format.Number
import LiveSketch.Text.Whole

/-!
# Format specifications

How a value is to be written: what fills it up to which width and on which side, how its sign and its
digits are shown, and in which notation.
-/

namespace LiveSketch.Script

/-- A format specification. -/
structure FormatSpec where
  fill : Char
  align : Option Char
  sign : Option Char
  avoidsMinusZero : Bool
  alternate : Bool
  width : Nat
  grouping : Option Char
  precision : Option Nat
  notation? : Option Char
deriving Inhabited

/-- A side on which a value stands. -/
def isAlign (c : Char) : Bool := c == '<' || c == '>' || c == '=' || c == '^'

/-- A number at the beginning, and the rest. -/
def leadingNumber (cs : List Char) : Option Nat × List Char :=
  let digits := cs.takeWhile Char.isDigit
  (if digits.isEmpty then none else (String.ofList digits).toNat?, cs.drop digits.length)

def optional (p : Char → Bool) : List Char → Option Char × List Char
  | c :: rest => if p c then (some c, rest) else (none, c :: rest)
  | [] => (none, [])

/-- A number of a specification is too large to be read. -/
def isTooWide (n : Option Nat) : Bool := n.any (2 ^ 63 ≤ ·)

/-- Reads a specification for a value of a type. -/
def readSpec (text type : String) (defaultAlign : Char) : Except String (FormatSpec × Char) :=
  let cs := text.toList
  let (fill, align, cs) := match cs with
    | f :: a :: rest =>
      if isAlign a then (some f, some a, rest)
      else if isAlign f then (none, some f, a :: rest) else (none, none, cs)
    | [a] => if isAlign a then (none, some a, []) else (none, none, cs)
    | [] => (none, none, [])
  let (sign, cs) := optional (fun c => c == '+' || c == '-' || c == ' ') cs
  let (z, cs) := optional (· == 'z') cs
  let (alternate, cs) := optional (· == '#') cs
  let (zero, cs) := if fill.isNone then optional (· == '0') cs else (none, cs)
  let (fill, align) :=
    if zero.isSome then (some '0', if align.isNone && defaultAlign == '>' then some '=' else align)
    else (fill, align)
  let (width, cs) := leadingNumber cs
  let (comma, cs) := optional (· == ',') cs
  let (underscore, cs) := optional (· == '_') cs
  let (again, _) := optional (· == ',') cs
  if (comma.isSome && underscore.isSome) || (underscore.isSome && again.isSome) then
    .error "Cannot specify both ',' and '_'."
  else
    let dotted := cs.head? == some '.'
    let (precision, cs) := if dotted then leadingNumber (cs.drop 1) else (none, cs)
    if isTooWide width || isTooWide precision then
      .error "Too many decimal digits in format string"
    else if dotted && precision.isNone then .error "Format specifier missing precision"
    else match cs with
      | _ :: _ :: _ =>
        .error ("Invalid format specifier '" ++ text ++ "' for object of type '" ++ type ++ "'")
      | rest =>
        let grouping := comma <|> underscore
        let spec : FormatSpec :=
          ⟨fill.getD ' ', align, sign, z.isSome, alternate.isSome, width.getD 0, grouping, precision,
            rest.head?⟩
        match grouping, rest.head? with
        | some g, some t =>
          let isFine := "defgEG%F".toList.contains t ||
            (g == '_' && "boxX".toList.contains t)
          if isFine then .ok (spec, defaultAlign)
          else .error ("Cannot specify '" ++ String.singleton g ++ "' with '" ++ String.singleton t ++ "'.")
        | _, _ => .ok (spec, defaultAlign)

def filled (spec : FormatSpec) (defaultAlign : Char) (text : String) : String :=
  let missing := spec.width - text.length
  let side (n : Nat) : String := String.ofList (List.replicate n spec.fill)
  match spec.align.getD defaultAlign with
  | '<' => text ++ side missing
  | '^' => side (missing / 2) ++ text ++ side (missing - missing / 2)
  | _ => side missing ++ text

def groupedDigits (size : Nat) (mark : Char) (digits : List Char) : List Char :=
  let rec go : Nat → List Char → List Char
    | _, [] => []
    | k, c :: rest => if k = size then mark :: c :: go 1 rest else c :: go (k + 1) rest
  (go 0 digits.reverse).reverse

/-- The sign in front of a number. -/
def signText (spec : FormatSpec) (negative : Bool) : String :=
  if negative then "-" else match spec.sign with
    | some '+' => "+"
    | some ' ' => " "
    | _ => ""

/-- Zeros in front of digits until the grouped digits are so wide. -/
def padGrouped (size : Nat) (mark : Char) (width : Nat) : Nat → List Char → List Char
  | 0, digits => groupedDigits size mark digits
  | fuel + 1, digits =>
    let grouped := groupedDigits size mark digits
    if grouped.length < width then padGrouped size mark width fuel ('0' :: digits) else grouped

/-- A number with its sign, what stands in front of its digits, and what follows them. -/
def laidOut (spec : FormatSpec) (sign before : String) (digits : List Char) (rest : String)
    (groupSize : Nat) : String :=
  let aligned := spec.align.getD '>'
  let inside := aligned == '='
  let around := sign.length + before.length + rest.length
  let digits := match spec.grouping with
    | some mark =>
      if inside && spec.fill == '0' then
        padGrouped groupSize mark (spec.width - around) (spec.width + 1) digits
      else groupedDigits groupSize mark digits
    | none => digits
  let body := String.ofList digits ++ rest
  let missing := spec.width - (sign.length + before.length + body.length)
  if inside then
    sign ++ before ++ String.ofList (List.replicate missing spec.fill) ++ body
  else filled spec '>' (sign ++ before ++ body)

/-- The words for a notation that a type does not have. -/
def unknownNotation (t : Char) (type : String) : String :=
  "Unknown format code '" ++ String.singleton t ++ "' for object of type '" ++ type ++ "'"

def formatText (specText text : String) : Except String String := do
  let (spec, _) ← readSpec specText "str" '<'
  if spec.sign.isSome then
    throw (if spec.sign == some ' ' then "Space not allowed in string format specifier"
      else "Sign not allowed in string format specifier")
  if spec.avoidsMinusZero then
    throw "Negative zero coercion (z) not allowed in string format specifier"
  if spec.alternate then throw "Alternate form (#) not allowed in string format specifier"
  match spec.notation? with
  | some 's' | none => pure ()
  | some t => throw (unknownNotation t "str")
  if let some g := spec.grouping then throw ("Cannot specify '" ++ String.singleton g ++ "' with 's'.")
  if spec.align == some '=' then throw "'=' alignment not allowed in string format specifier"
  let cut := match spec.precision with
    | some n => String.ofList (text.toList.take n)
    | none => text
  pure (filled spec '<' cut)

/-- A bounded or unbounded floating number by a specification whose notation is known. -/
def floatBySpec (spec : FormatSpec) (x : Float) : Except String String := do
  if spec.precision.any (2 ^ 31 ≤ ·) then throw "precision too big"
  let t := spec.notation?
  let isPercent := t == some '%'
  let x := if isPercent then x * 100.0 else x
  let isCapital := t == some 'E' || t == some 'F' || t == some 'G'
  let letter := if isCapital then 'E' else 'e'
  if isUnbounded x then
    let word := if x.isNaN then "nan" else "inf"
    let word := if isCapital then word.map Char.toUpper else word
    let negative := isNegative x && !x.isNaN
    pure (laidOut { spec with grouping := none } (signText spec negative) "" word.toList
      (if isPercent then "%" else "") 3)
  else
    let text := match t with
      | some 'e' | some 'E' => scientificText letter (spec.precision.getD 6) x
      | some 'f' | some 'F' | some '%' => fixedText (spec.precision.getD 6) x
      | some 'g' | some 'G' | some 'n' =>
        generalText letter (spec.precision.getD 6) spec.alternate false x
      | _ => match spec.precision with
        | some p => generalText letter p spec.alternate true x
        | none => shortestText x
    let isZero := (text.whole ++ text.fraction).toList.all (· == '0')
    let negative := isNegative x && !(spec.avoidsMinusZero && isZero)
    let point := if text.fraction.isEmpty && !spec.alternate then "" else "."
    pure (laidOut spec (signText spec negative) "" text.whole.toList
      (point ++ text.fraction ++ text.exponent ++ (if isPercent then "%" else "")) 3)

/-- Writes a floating number by a specification. -/
def formatFloat (specText : String) (x : Float) : Except String String := do
  let (spec, _) ← readSpec specText "float" '>'
  match spec.notation? with
  | none => floatBySpec spec x
  | some t =>
    if "eEfFgGn%".toList.contains t then floatBySpec spec x
    else throw (unknownNotation t "float")

/-- The digits of a natural number in a base. -/
def baseDigits (base n : Nat) : List Char := Nat.toDigits base n

/-- The number has more decimal digits than may be written. -/
def isTooLong (n : Int) : Bool := 14000 < n.natAbs.log2 && 10 ^ maxWholeDigits ≤ n.natAbs

/-- The words that refuse to write a number of too many decimal digits. -/
def tooLongWords : String :=
  "Exceeds the limit (4300 digits) for integer string conversion; use " ++
    "sys.set_int_max_str_digits() to increase the limit"

/-- The words that refuse a number for being out of a range. -/
def rangeWords : List String :=
  ["%c arg not in range(0x110000)", "int too large to convert to float"]

/-- Writes a whole number by a specification. -/
def formatInt (specText type : String) (n : Int) : Except String String := do
  let (spec, _) ← readSpec specText type '>'
  let t := spec.notation?.getD 'd'
  if "eEfFgG%".toList.contains t then
    let x := floatOfInt n
    if x.isInf then throw "int too large to convert to float"
    floatBySpec spec x
  else if !"bcdoxXn".toList.contains t then throw (unknownNotation t type)
  else
    if spec.precision.isSome then throw "Precision not allowed in integer format specifier"
    if spec.avoidsMinusZero then
      throw "Negative zero coercion (z) not allowed in format specifier with integer presentation type"
    if t == 'c' then
      if spec.sign.isSome then throw "Sign not allowed with integer format specifier 'c'"
      if spec.alternate then throw "Alternate form (#) not allowed with integer format specifier 'c'"
      if n < 0 || 0x110000 ≤ n then throw "%c arg not in range(0x110000)"
      pure (filled spec '>' (String.singleton (Char.ofNat n.toNat)))
    else
      let (base, before, groupSize) := match t with
        | 'b' => (2, "0b", 4)
        | 'o' => (8, "0o", 4)
        | 'x' => (16, "0x", 4)
        | 'X' => (16, "0X", 4)
        | _ => (10, "", 3)
      if base == 10 && isTooLong n then throw tooLongWords
      let digits := baseDigits base n.natAbs
      let digits := if t == 'X' then digits.map Char.toUpper else digits
      pure (laidOut spec (signText spec (n < 0)) (if spec.alternate then before else "") digits "" groupSize)

end LiveSketch.Script

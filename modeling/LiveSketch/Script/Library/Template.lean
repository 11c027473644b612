import LiveSketch.Script.Library.Core

/-!
# Texts with places for values

A template holds marks for values that are to be written into it: braces with a name and a format, or
percent signs with a notation.
-/

namespace LiveSketch.Script

namespace Library

open Run

/-! ## Braces -/

/-- A part of a template: plain text, or a place for a value. -/
inductive TemplatePart where
  | plain (s : String)
  | place (field conversion spec : String)

/-- The characters up to the brace that closes the one before them, and those after it. -/
def upToBrace : Nat → List Char → List Char → Option (List Char × List Char)
  | _, _, [] => none
  | depth, taken, c :: rest =>
    if c == '\x7d' then
      if depth = 0 then some (taken.reverse, rest) else upToBrace (depth - 1) (c :: taken) rest
    else if c == '\x7b' then upToBrace (depth + 1) (c :: taken) rest
    else upToBrace depth (c :: taken) rest

/-- The characters before the mark that ends a field's name, outside of square brackets. -/
def fieldName : Bool → List Char → List Char → List Char × List Char
  | _, taken, [] => (taken.reverse, [])
  | inside, taken, c :: rest =>
    if !inside && (c == '!' || c == ':') then (taken.reverse, c :: rest)
    else fieldName (if c == '[' then true else if c == ']' then false else inside) (c :: taken) rest

def templateParts : Nat → List Char → Except String (List TemplatePart)
  | 0, _ => .ok []
  | fuel + 1, cs =>
    let plain := cs.takeWhile fun c => c != '\x7b' && c != '\x7d'
    let rest := cs.drop plain.length
    let text := TemplatePart.plain (String.ofList plain)
    match rest with
    | [] => .ok [text]
    | '\x7b' :: '\x7b' :: rest => do
      return text :: .plain "\x7b" :: (← templateParts fuel rest)
    | '\x7d' :: '\x7d' :: rest => do
      return text :: .plain "\x7d" :: (← templateParts fuel rest)
    | '\x7d' :: _ => .error "Single '\x7d' encountered in format string"
    | ['\x7b'] => .error "Single '\x7b' encountered in format string"
    | _ :: rest =>
      match upToBrace 0 [] rest with
      | none => .error "expected '\x7d' before end of string"
      | some (inner, rest) =>
        let (field, more) := fieldName false [] inner
        let (conversion, more) := match more with
          | '!' :: c :: more => (String.singleton c, more)
          | more => ("", more)
        let spec := match more with
          | ':' :: spec => String.ofList spec
          | _ => ""
        if field.contains '\x7b' then .error "unexpected '\x7b' in field name"
        else do
          return text :: .place (String.ofList field) conversion spec :: (← templateParts fuel rest)

/-- How the fields of a template are counted: not at all yet, by themselves, or by their numbers. -/
inductive Counting where
  | open_ | automatic (next : Nat) | manual

/-- The first part of a field's name, and what follows it. -/
def fieldHead (field : String) : String × List Char :=
  let head := field.toList.takeWhile fun c => c != '.' && c != '['
  (String.ofList head, field.toList.drop head.length)

/-- Follows members and items from a value. -/
def follow : Nat → Value → List Char → Run Value
  | 0, v, _ => pure v
  | fuel + 1, v, cs => do
    match cs with
    | [] => pure v
    | '.' :: rest => do
      let name := rest.takeWhile fun c => c != '.' && c != '['
      if name.isEmpty then wrongValue "Empty attribute in format string"
      follow fuel (← getMember v (String.ofList name)) (rest.drop name.length)
    | '[' :: rest => do
      let key := rest.takeWhile (· != ']')
      if key.length = rest.length then wrongValue "Missing ']' in format string"
      if key.isEmpty then wrongValue "Empty attribute in format string"
      let index := if key.all Char.isDigit then Value.int ((String.ofList key).toNat?.getD 0)
        else .text (String.ofList key)
      follow fuel (← getItem v index) (rest.drop (key.length + 1))
    | _ => wrongValue "Only '.' or '[' may follow ']' in format field specifier"

def placedValue (args : List Value) (k : Nat) : Run Value :=
  match args[k]? with
  | some v => pure v
  | none =>
    raise "IndexError"
      ("Replacement index " ++ toString k ++ " out of range for positional args tuple")

/-- The value of a field without a name, counted by itself. -/
def countedValue (args : List Value) (counting : Counting) : Run (Value × Counting) := do
  match counting with
  | .manual =>
    wrongValue "cannot switch from manual field specification to automatic field numbering"
  | .open_ => return (← placedValue args 0, Counting.automatic 1)
  | .automatic k => return (← placedValue args k, Counting.automatic (k + 1))

/-- The value of a field with a number. -/
def numberedValue (args : List Value) (counting : Counting) (k : Nat) : Run (Value × Counting) := do
  match counting with
  | .automatic _ =>
    wrongValue "cannot switch from automatic field numbering to manual field specification"
  | _ => return (← placedValue args k, Counting.manual)

/-- The value of a field, and how fields are counted after it. -/
def fieldValue (args : List Value) (named : String → Run Value) (counting : Counting)
    (field : String) : Run (Value × Counting) := do
  let (head, rest) := fieldHead field
  let (v, counting) ←
    if head.isEmpty then countedValue args counting
    else match head.toList.all Char.isDigit, head.toNat? with
      | true, some k => numberedValue args counting k
      | _, _ => do pure (← named head, counting)
  return (← follow 50 v rest, counting)

/-- Writes values into a template, whose formats may hold places themselves. -/
def fillTemplate (args : List Value) (named : String → Run Value) :
    Nat → Counting → String → Run (String × Counting)
  | 0, _, _ => wrongValue "Max string recursion exceeded"
  | fuel + 1, counting, template => do
    let parts ← match templateParts (template.length + 1) template.toList with
      | .ok parts => pure parts
      | .error words => wrongValue words
    parts.foldlM (fun ((out, counting) : String × Counting) part => do
      match part with
      | .plain s => pure (out ++ s, counting)
      | .place field conversion spec => do
        let (v, counting) ← fieldValue args named counting field
        let v ← match conversion with
          | "" => pure v
          | "r" => do pure (.text (← shown v))
          | "s" => do pure (.text (← plainText v))
          | "a" => native "ascii" [v]
          | c => wrongValue ("Unknown conversion specifier '" ++ c ++ "'")
        let (spec, counting) ← if spec.toList.contains '\x7b' then
            fillTemplate args named fuel counting spec
          else pure (spec, counting)
        return (out ++ (← formatted v spec), counting)) ("", counting)

/-! ## Percent signs -/

/-- A place after a percent sign. -/
structure PercentPlace where
  key : Option String
  flags : List Char
  width : Option (Option Nat)
  precision : Option (Option Nat)

/-- A number or a star, and the rest; a star stands for a value that says the number. -/
def numberOrStar (cs : List Char) : Option (Option Nat) × List Char :=
  match cs with
  | '*' :: rest => (some none, rest)
  | cs =>
    let (n, rest) := leadingNumber cs
    (n.map some, rest)

/-- Reads what stands between a percent sign and the notation. -/
def percentPlace (cs : List Char) : Run (PercentPlace × List Char) := do
  let (key, cs) ← match cs with
    | '(' :: rest => do
      let name := rest.takeWhile (· != ')')
      if name.length = rest.length then wrongValue "incomplete format key"
      pure (some (String.ofList name), rest.drop (name.length + 1))
    | cs => pure (none, cs)
  let flags := cs.takeWhile fun c => "-+ #0".toList.contains c
  let (width, cs) := numberOrStar (cs.drop flags.length)
  let (precision, cs) := match cs with
    | '.' :: rest =>
      let (p, rest) := numberOrStar rest
      (some (p.getD (some 0)), rest)
    | cs => (none, cs)
  let cs := cs.dropWhile fun c => c == 'h' || c == 'l' || c == 'L'
  pure (⟨key, flags, width, precision⟩, cs)

/-- Text filled up to a width by flags. -/
def padded (p : PercentPlace) (width : Nat) (sign body : String) (mayZero : Bool) : String :=
  let missing := width - (sign.length + body.length)
  let blanks := String.ofList (List.replicate missing ' ')
  if p.flags.contains '-' then sign ++ body ++ blanks
  else if p.flags.contains '0' && mayZero then
    sign ++ String.ofList (List.replicate missing '0') ++ body
  else blanks ++ sign ++ body

/-- The sign of a number by flags. -/
def signOf (p : PercentPlace) (negative : Bool) : String :=
  if negative then "-" else if p.flags.contains '+' then "+" else if p.flags.contains ' ' then " " else ""

/-- A whole number in a notation. -/
def percentInt (p : PercentPlace) (width : Nat) (precision : Option Nat) (c : Char) (v : Value) :
    Run String := do
  let n ← match ← unwrap v with
    | .float x =>
      if c == 'd' || c == 'i' || c == 'u' then wholeOfFloat x
      else wrongType ("%" ++ String.singleton c ++ " format: an integer is required, not float")
    | _ => match ← index? v with
      | some n => pure n
      | none => match ← callSpecial? v "__int__" [] with
        | some (.int n) => pure n
        | _ =>
          let what := if c == 'd' || c == 'i' || c == 'u' then "a real number" else "an integer"
          wrongType ("%" ++ String.singleton c ++ " format: " ++ what ++ " is required, not " ++
            (← typeName v))
  let base := if c == 'x' || c == 'X' then 16 else if c == 'o' then 8 else 10
  if base == 10 && isTooLong n then wrongValue tooLongWords
  let digits := Nat.toDigits base n.natAbs
  let digits := if c == 'X' then digits.map Char.toUpper else digits
  let digits := List.replicate (precision.getD 0 - digits.length) '0' ++ digits
  let front := if p.flags.contains '#' then
      (if base = 16 then "0" ++ String.singleton c else if base = 8 then "0o" else "") else ""
  pure (padded p width (signOf p (n < 0) ++ front) (String.ofList digits) true)

/-- A value in the notation after a percent sign. -/
def percentValue (p : PercentPlace) (width : Nat) (precision : Option Nat) (c : Char) (v : Value)
    (place : Nat) : Run String := do
  let cut (s : String) : String := match precision with
    | some n => String.ofList (s.toList.take n)
    | none => s
  if c == 's' then return padded p width "" (cut (← plainText v)) false
  else if c == 'r' then return padded p width "" (cut (← shown v)) false
  else if c == 'a' then
    match ← native "ascii" [v] with
    | .text s => return padded p width "" (cut s) false
    | _ => return ""
  else if "diuxXo".toList.contains c then percentInt p width precision c v
  else if "eEfFgG".toList.contains c then
    let x ← asFloat v
    let spec : FormatSpec :=
      ⟨' ', none, none, false, p.flags.contains '#', 0, none, some (precision.getD 6), some c⟩
    match floatBySpec spec (if isNegative x then -x else x) with
    | .ok s => pure (padded p width (signOf p (isNegative x && !x.isNaN)) s (!isUnbounded x))
    | .error words => wrongValue words
  else if c == 'c' then
    match ← unwrap v with
    | .text s =>
      if s.length = 1 then pure (padded p width "" s false) else wrongType "%c requires int or char"
    | w => match w.int? with
      | some n =>
        if n < 0 || 0x110000 ≤ n then raise "OverflowError" "%c arg not in range(0x110000)"
        pure (padded p width "" (String.singleton (Char.ofNat n.toNat)) false)
      | none => wrongType "%c requires int or char"
  else
    wrongValue ("unsupported format character '" ++ String.singleton c ++ "' (0x" ++
      hexText 1 c.toNat ++ ") at index " ++ toString place)

/-- The values that are still to be written. -/
structure PercentState where
  left : List Value

/-- The value can be asked for items by name, also where it refuses. -/
def takesKeys (v : Value) : Run Bool := do
  match ← unwrap v with
  | .tuple _ | .text _ => pure false
  | .bytes _ | .range _ _ _ => pure true
  | w => match ← dataOf w with
    | .list _ | .dict _ | .members _ => pure true
    | _ => return (← ownSpecial? v "__getitem__").isSome

/-- Writes values into a text with percent signs. -/
def fillPercent (length : Nat) (v : Value) : Nat → PercentState → List Char → Run (String × PercentState)
  | 0, s, _ => pure ("", s)
  | fuel + 1, s, cs => do
    let plain := cs.takeWhile (· != '%')
    match cs.drop plain.length with
    | [] => pure (String.ofList plain, s)
    | _ :: '%' :: rest => do
      let (more, s) ← fillPercent length v fuel s rest
      pure (String.ofList plain ++ "%" ++ more, s)
    | _ :: rest => do
      let (p, rest) ← percentPlace rest
      let next (s : PercentState) : Run (Value × PercentState) := do
        match s.left with
        | w :: left => pure (w, { s with left := left })
        | [] => wrongType "not enough arguments for format string"
      let number (n : Option (Option Nat)) (what : String) (most : Nat) (read : Value → Run Int)
          (s : PercentState) : Run (Option Int × PercentState) := do
        match n with
        | none => pure (none, s)
        | some (some n) =>
          if most < n then wrongValue (what ++ " too big")
          pure (some n, s)
        | some none => do
          let (w, s) ← next s
          if w.int?.isNone then wrongType "* wants int"
          return (some (← read w), s)
      let (width, s) ← number p.width "width" maxSize.toNat asSize s
      let (precision, s) ← number p.precision "precision" (2 ^ 31 - 1) asSmall s
      let p := if (width.getD 0) < 0 then { p with flags := '-' :: p.flags } else p
      match rest with
      | [] => wrongValue "incomplete format"
      | c :: rest => do
        let (w, s) ← match p.key with
          | none => next s
          | some key => do
            if !(← takesKeys v) then wrongType "format requires a mapping"
            pure (← getItem v (.text key), { s with left := [] })
        let text ← percentValue p (width.getD 0).natAbs (precision.map Int.toNat) c w
          (length - rest.length - 1)
        let (more, s) ← fillPercent length v fuel s rest
        pure (String.ofList plain ++ text ++ more, s)

/-- Writes values into a text with percent signs: those of a tuple, the entries of a mapping, or one
value. -/
def percentFilled (template : String) (v : Value) : Run String := do
  let items := match ← unwrap v with
    | .tuple vs => vs
    | _ => [v]
  let (out, s) ← fillPercent template.length v (template.length + 1) ⟨items⟩ template.toList
  if !s.left.isEmpty && !(← takesKeys v) then
    wrongType "not all arguments converted during string formatting"
  pure out

end Library

end LiveSketch.Script

import LiveSketch.Fault.Datum

/-!
# Reading data from the wire

An editor sends plain data as text: the constants, numbers, texts in double quotes, rows and entries.
What follows a value is handed back, and a value that breaks off is none.
-/

namespace LiveSketch.Wire

/-- A blank between the parts of a value. -/
def isGap (c : Char) : Bool := c == ' ' || c == '\t' || c == '\n' || c == '\r'

/-- Without the blanks in front. -/
def skipGaps (cs : List Char) : List Char := cs.dropWhile isGap

/-! ## Numbers -/

/-- The number that decimal digits stand for. -/
def numberOf (digits : List Char) : Nat := digits.foldl (fun n c => 10 * n + (c.toNat - 48)) 0

/-- Digits at the front, and the rest. -/
def digitsOf (cs : List Char) : List Char × List Char := (cs.takeWhile Char.isDigit, cs.dropWhile Char.isDigit)

def exponentOf? (cs : List Char) : Option (Int × List Char) :=
  match cs with
  | e :: rest =>
    if e == 'e' || e == 'E' then
      let (negative, rest) := match rest with
        | '-' :: r => (true, r)
        | '+' :: r => (false, r)
        | r => (false, r)
      let (digits, rest) := digitsOf rest
      if digits.isEmpty then none
      else some (if negative then -(numberOf digits : Int) else numberOf digits, rest)
    else none
  | [] => none

/-- A number: whole, unless it has a point or an exponent. -/
def readNumber (cs : List Char) : Option (Datum × List Char) :=
  let (negative, cs) := match cs with
    | '-' :: r => (true, r)
    | r => (false, r)
  let (whole, cs) := digitsOf cs
  if whole.isEmpty then none
  else
    let (places, cs) := match cs with
      | '.' :: r => digitsOf r
      | r => ([], r)
    let (exponent, rest) := (exponentOf? cs).getD (0, cs)
    if places.isEmpty && (exponentOf? cs).isNone then
      let n : Int := numberOf whole
      some (.int (if negative then -n else n), rest)
    else
      let scale : Int := exponent - places.length
      let size := Float.ofScientific (numberOf (whole ++ places)) (scale < 0) scale.natAbs
      some (.float (if negative then -size else size), rest)

/-! ## Texts -/

/-- The value of four hexadecimal digits, and the rest. -/
def unitOf? : List Char → Option (Nat × List Char)
  | a :: b :: c :: d :: rest => do
    let digit (c : Char) : Option Nat :=
      if c.isDigit then some (c.toNat - 48)
      else if 'a' ≤ c && c ≤ 'f' then some (c.toNat - 87)
      else if 'A' ≤ c && c ≤ 'F' then some (c.toNat - 55)
      else none
    some (4096 * (← digit a) + 256 * (← digit b) + 16 * (← digit c) + (← digit d), rest)
  | _ => none

/-- The character after a backslash, and the rest. Two halves of a pair make one character. -/
def escapeOf? : List Char → Option (Char × List Char)
  | 'n' :: rest => some ('\n', rest)
  | 't' :: rest => some ('\t', rest)
  | 'r' :: rest => some ('\r', rest)
  | 'b' :: rest => some ('\x08', rest)
  | 'f' :: rest => some ('\x0c', rest)
  | 'u' :: rest => do
    let (unit, rest) ← unitOf? rest
    match rest with
    | '\\' :: 'u' :: more =>
      if 0xD800 ≤ unit && unit < 0xDC00 then do
        let (low, more) ← unitOf? more
        some (Char.ofNat (0x10000 + 0x400 * (unit - 0xD800) + (low - 0xDC00)), more)
      else some (Char.ofNat unit, rest)
    | _ => some (Char.ofNat unit, rest)
  | c :: rest => if c == '\\' || c == '/' || c == '\x22' then some (c, rest) else none
  | [] => none

/-- The rest of a text up to its closing quote, and what follows. -/
def readText : Nat → List Char → Option (List Char × List Char)
  | 0, _ => none
  | fuel + 1, cs =>
    match cs with
    | '\x22' :: rest => some ([], rest)
    | '\\' :: rest => do
      let (c, rest) ← escapeOf? rest
      let (more, rest) ← readText fuel rest
      some (c :: more, rest)
    | c :: rest => do
      let (more, rest) ← readText fuel rest
      some (c :: more, rest)
    | [] => none

/-! ## Values -/

/-- A word at the front, and the rest. -/
def afterWord? (word : String) (cs : List Char) : Option (List Char) :=
  if word.toList.isPrefixOf cs then some (cs.drop word.length) else none

mutual

def readValue : Nat → List Char → Option (Datum × List Char)
  | 0, _ => none
  | fuel + 1, cs =>
    match skipGaps cs with
    | '\x22' :: rest => (readText (rest.length + 1) rest).map fun (s, rest) => (.text (String.ofList s), rest)
    | '[' :: rest => match skipGaps rest with
      | ']' :: rest => some (.list [], rest)
      | rest => (readItems fuel rest).map fun (items, rest) => (.list items, rest)
    | '\x7b' :: rest => match skipGaps rest with
      | '\x7d' :: rest => some (.dict [], rest)
      | rest => (readEntries fuel rest).map fun (entries, rest) => (.dict entries, rest)
    | cs =>
      (afterWord? "null" cs).map (Datum.none, ·) <|> (afterWord? "true" cs).map (Datum.bool true, ·) <|>
        (afterWord? "false" cs).map (Datum.bool false, ·) <|> readNumber cs

/-- The values of a row up to its end, and the rest. -/
def readItems : Nat → List Char → Option (List Datum × List Char)
  | 0, _ => none
  | fuel + 1, cs => do
    let (item, rest) ← readValue fuel cs
    match skipGaps rest with
    | ']' :: rest => some ([item], rest)
    | ',' :: rest => do
      let (items, rest) ← readItems fuel rest
      some (item :: items, rest)
    | _ => none

def readEntries : Nat → List Char → Option (List (Datum × Datum) × List Char)
  | 0, _ => none
  | fuel + 1, cs =>
    match skipGaps cs with
    | '\x22' :: rest => do
      let (name, rest) ← readText (rest.length + 1) rest
      match skipGaps rest with
      | ':' :: rest => do
        let (value, rest) ← readValue fuel rest
        let entry : Datum × Datum := (.text (String.ofList name), value)
        match skipGaps rest with
        | '\x7d' :: rest => some ([entry], rest)
        | ',' :: rest => do
          let (entries, rest) ← readEntries fuel rest
          some (entry :: entries, rest)
        | _ => none
      | _ => none
    | _ => none

end

/-- The value that a text holds, with nothing after it. -/
def readAll (text : String) : Option Datum := do
  let cs := text.toList
  let (v, rest) ← readValue (cs.length + 1) cs
  if (skipGaps rest).isEmpty then some v else none

end LiveSketch.Wire

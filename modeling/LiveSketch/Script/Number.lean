import LiveSketch.Decimal.Shortest
import LiveSketch.Text.Quoted

/-!
# Numbers in a script

How far a number reaches from its first character, and what can be wrong with it. Counts are
characters from the start of the number.
-/

namespace LiveSketch.Script

/-- What scanning a number came to. -/
inductive NumberScan where
  /-- A number of so many characters; a keyword that follows at once is only warned of. -/
  | found (length : Nat) (warned : Option String)
  /-- Something is wrong after so many characters. -/
  | wrong (length : Nat) (message : String)
  /-- Zeros lead a number of so many characters; they and one more digit end here. -/
  | leadingZeros (length zerosEnd : Nat)
deriving DecidableEq, Repr, Inhabited

def isDigit (c : Char) : Bool := '0' ≤ c && c ≤ '9'

/-- A character that goes on in a word, as far as its first byte tells. -/
def isWordChar (c : Char) : Bool :=
  ('a' ≤ c && c ≤ 'z') || ('A' ≤ c && c ≤ 'Z') || isDigit c || c == '_' || 128 ≤ c.toNat

/-- Digits of a base, with single underscores between them: how many characters, or after how many
an underscore stands alone. -/
def digitTail (isGood : Char → Bool) : List Char → Nat → Except Nat Nat
  | '_' :: c :: rest, n =>
    if isGood c then digitTail isGood rest (n + 2) else .error (n + 1)
  | ['_'], n => .error (n + 1)
  | c :: rest, n => if isGood c then digitTail isGood rest (n + 1) else .ok n
  | [], n => .ok n

/-- The word goes on with these characters and ends there. -/
def endsWord (cs : List Char) (word : String) : Bool :=
  cs.take word.length == word.toList && !((cs.drop word.length).head?.any isWordChar)

/-- The characters begin with a keyword that may follow a number. -/
def keywordFollows : List Char → Bool
  | 'a' :: rest => endsWord rest "nd"
  | 'e' :: rest => endsWord rest "lse"
  | 'f' :: rest => endsWord rest "or"
  | 'i' :: c :: _ => c == 'f' || c == 'n' || c == 's'
  | 'o' :: rest => endsWord rest "r"
  | 'n' :: rest => endsWord rest "ot"
  | _ => false

/-- The words that refuse a number. -/
def badLiteral (kind : String) : String := "invalid " ++ kind ++ " literal"

/-- Ends a number of `n` characters before `rest`: a keyword that follows at once is warned of, and
any other word is an error. -/
def numberEnd (kind : String) (rest : List Char) (n : Nat) : NumberScan :=
  if keywordFollows rest then .found n (some (badLiteral kind))
  else if rest.head?.any isWordChar then .wrong n (badLiteral kind)
  else .found n none

/-- Ends a decimal number that may be imaginary. -/
def decimalEnd (cs : List Char) (n : Nat) : NumberScan :=
  match cs.drop n with
  | 'j' :: rest | 'J' :: rest => numberEnd "imaginary" rest (n + 1)
  | rest => numberEnd "decimal" rest n

/-- An exponent, if there is one. The letter alone ends the number before it. -/
def exponentFrom (cs : List Char) (n : Nat) : NumberScan :=
  match cs.drop n with
  | e :: rest =>
    if e == 'e' || e == 'E' then
      let signed := rest.head?.any fun c => c == '+' || c == '-'
      let digits := if signed then rest.drop 1 else rest
      let before := if signed then n + 2 else n + 1
      if digits.head?.any isDigit then
        match digitTail isDigit digits before with
        | .ok m => decimalEnd cs m
        | .error m => .wrong m (badLiteral "decimal")
      else if signed then .wrong before (badLiteral "decimal")
      else if keywordFollows (e :: rest) then .found n (some (badLiteral "decimal"))
      else .wrong n (badLiteral "decimal")
    else decimalEnd cs n
  | [] => decimalEnd cs n

/-- The digits after a point, `n` characters in. -/
def fractionFrom (cs : List Char) (n : Nat) : NumberScan :=
  if (cs.drop n).head?.any isDigit then
    match digitTail isDigit (cs.drop n) n with
    | .ok m => exponentFrom cs m
    | .error m => .wrong m (badLiteral "decimal")
  else exponentFrom cs n

/-- A decimal number from its first digit. -/
def decimalFrom (cs : List Char) : NumberScan :=
  match digitTail isDigit cs 0 with
  | .error m => .wrong m (badLiteral "decimal")
  | .ok n => if (cs.drop n).head? = some '.' then fractionFrom cs (n + 1) else exponentFrom cs n

/-- The bases with a letter of their own. -/
structure Base where
  name : String
  size : Nat
deriving DecidableEq, Repr

/-- The value of a digit in bases up to sixteen. -/
def hexValue? (c : Char) : Option Nat :=
  if isDigit c then some (c.toNat - '0'.toNat)
  else if 'a' ≤ c && c ≤ 'f' then some (c.toNat - 'a'.toNat + 10)
  else if 'A' ≤ c && c ≤ 'F' then some (c.toNat - 'A'.toNat + 10)
  else none

def Base.hasDigit (b : Base) (c : Char) : Bool := (hexValue? c).any (· < b.size)

/-- The base of a letter after a zero. -/
def baseOf? (c : Char) : Option Base :=
  if c == 'x' || c == 'X' then some ⟨"hexadecimal", 16⟩
  else if c == 'o' || c == 'O' then some ⟨"octal", 8⟩
  else if c == 'b' || c == 'B' then some ⟨"binary", 2⟩
  else none

/-- A decimal digit where a digit of the base is due. -/
def badDigit (b : Base) (c : Char) (n : Nat) : NumberScan :=
  .wrong (n + 1) ("invalid digit '" ++ c.toString ++ "' in " ++ b.name ++ " literal")

/-- A number in a base, after its two first characters. -/
def basedFrom (b : Base) (cs : List Char) : NumberScan :=
  let wrongAt (n : Nat) : NumberScan :=
    match (cs.drop n).head? with
    | some c => if isDigit c then badDigit b c n else .wrong n (badLiteral b.name)
    | none => .wrong n (badLiteral b.name)
  let first := if (cs.drop 2).head? = some '_' then 3 else 2
  if !(cs.drop first).head?.any b.hasDigit then wrongAt first
  else match digitTail b.hasDigit (cs.drop first) first with
    | .error n => wrongAt n
    | .ok n =>
      if (cs.drop n).head?.any isDigit then wrongAt n else numberEnd b.name (cs.drop n) n

/-- A number that begins with a zero and has no base. -/
def zeroFrom (cs : List Char) : NumberScan :=
  match digitTail (· == '0') cs 0 with
  | .error n =>
    -- an underscore before another digit goes on in the number
    if (cs.drop n).head?.any isDigit then leading n else .wrong n (badLiteral "decimal")
  | .ok n => if (cs.drop n).head?.any isDigit then leading n else rest n
where
  /-- After zeros alone. -/
  rest (n : Nat) : NumberScan :=
    if (cs.drop n).head? = some '.' then fractionFrom cs (n + 1) else exponentFrom cs n
  /-- After zeros and another digit: only a fraction, an exponent or an imaginary unit is left. -/
  leading (n : Nat) : NumberScan :=
    match digitTail isDigit (cs.drop n) n with
    | .error m => .wrong m (badLiteral "decimal")
    | .ok m =>
      if (cs.drop m).head?.any fun c => ['.', 'e', 'E', 'j', 'J'].contains c then rest m
      else .leadingZeros m (n + 1)

/-- Scans a number from its first character, a digit or a point. -/
def scanNumber (cs : List Char) : NumberScan :=
  match cs with
  | '.' :: _ => fractionFrom cs 1
  | '0' :: c :: _ => match baseOf? c with
    | some b => basedFrom b cs
    | none => zeroFrom cs
  | _ => decimalFrom cs

/-! ## Values -/

/-- The value a number is written for. -/
inductive NumberValue where
  | whole (n : Nat)
  | real (x : Float)
  | imaginary (x : Float)
deriving Inhabited

/-- The number that digits of a base stand for. -/
def digitsValue (base : Nat) (cs : List Char) : Nat :=
  cs.foldl (fun n c => match hexValue? c with
    | some d => base * n + d
    | none => n) 0

/-- The floating number nearest to a decimal. -/
def floatOfDecimal (cs : List Char) : Float :=
  let before := cs.takeWhile isDigit
  let rest := cs.drop before.length
  let after := if rest.head? = some '.' then (rest.drop 1).takeWhile isDigit else []
  let rest := if rest.head? = some '.' then rest.drop (after.length + 1) else rest
  let power : Int := match rest with
    | _ :: '-' :: ds => -(digitsValue 10 ds : Int)
    | _ :: '+' :: ds => digitsValue 10 ds
    | _ :: ds => digitsValue 10 ds
    | [] => 0
  let digits := digitsValue 10 (before ++ after)
  let exponent := power - after.length
  let size := (decimalDigits digits).length
  if digits = 0 || exponent + size < -400 then 0.0
  else if 400 < exponent + size then 1.0 / 0.0
  else if 0 ≤ exponent then Float.ofScientific digits false exponent.toNat
  else Float.ofScientific digits true (-exponent).toNat

/-- The value of a number without its underscores. -/
def numberValue (text : String) : NumberValue :=
  let cs := text.toList.filter (· != '_')
  match cs with
  | '0' :: c :: digits => match baseOf? c with
    | some b => .whole (digitsValue b.size digits)
    | none => plain cs
  | _ => plain cs
where
  /-- A decimal number. -/
  plain (cs : List Char) : NumberValue :=
    if cs.getLast?.any fun c => c == 'j' || c == 'J' then .imaginary (floatOfDecimal cs.dropLast)
    else if cs.all isDigit then .whole (digitsValue 10 cs)
    else .real (floatOfDecimal cs)

end LiveSketch.Script

import LiveSketch.Text.Classes

/-!
# Whole numbers in text

A whole number is written with an optional sign and decimal digits of any script; single underscores
may stand between digits and blanks around the whole.
-/

namespace LiveSketch

/-- The most digits a number may be written with. -/
def maxWholeDigits : Nat := 4300

/-- The words that refuse to read a number of too many digits. -/
def tooManyDigits (count : Nat) : String :=
  "Exceeds the limit (4300 digits) for integer string conversion: value has " ++ toString count ++
    " digits; use sys.set_int_max_str_digits() to increase the limit"

/-- The values of a run of digits in which single underscores may stand between two digits. -/
def digitRun : List Char → Option (List Nat)
  | [] => none
  | [c] => (digitValue? c).map fun d => [d]
  | c :: '_' :: rest => do
    let d ← digitValue? c
    pure (d :: (← digitRun rest))
  | c :: rest => do
    let d ← digitValue? c
    pure (d :: (← digitRun rest))

/-- The number that digits stand for, most significant first. -/
def numberOf (digits : List Nat) : Nat := digits.foldl (fun n d => 10 * n + d) 0

/-- Reads an unsigned number. -/
def naturalIn (cs : List Char) : Option Nat := do
  let digits ← digitRun cs
  if maxWholeDigits < digits.length then none else some (numberOf digits)

def wholeIn (text : String) : Option Int :=
  match trimBlanks text.toList with
  | '-' :: rest => (naturalIn rest).map fun n => -(n : Int)
  | '+' :: rest => (naturalIn rest).map Int.ofNat
  | cs => (naturalIn cs).map Int.ofNat

end LiveSketch

import LiveSketch.Arithmetic
import LiveSketch.Tree.Walk

/-!
# Constants in expressions

An expression of constants alone is a constant itself, unless working it out fails or would be too
large. Only as much of its value is kept as later warnings ask for.
-/

namespace LiveSketch.Script

/-- A constant. -/
inductive Constant where
  | none | ellipsis
  | bool (b : Bool)
  | int (n : Int)
  | float (x : Float)
  | complex
  | text (cs : List Char)
  | bytes (bs : List UInt8)
  | tuple (items : List Constant)
deriving Inhabited

namespace Constant

def ofLiteral : Literal → Option Constant
  | .none => some none
  | .ellipsis => some ellipsis
  | .bool b => some (bool b)
  | .int n => some (int n)
  | .float x => some (float x)
  | .imaginary _ => some complex
  | .text s => some (text s.toList)
  | .bytes bs => some (bytes bs)
  | .other _ => Option.none

def typeName : Constant → String
  | none => "NoneType"
  | ellipsis => "ellipsis"
  | bool _ => "bool"
  | int _ => "int"
  | float _ => "float"
  | complex => "complex"
  | text _ => "str"
  | bytes _ => "bytes"
  | tuple _ => "tuple"

def isSingle : Constant → Bool
  | none | ellipsis | bool _ => true
  | _ => false

def isTrue : Constant → Bool
  | none => false
  | ellipsis | complex => true
  | bool b => b
  | int n => n != 0
  | float x => x != 0.0
  | text cs => !cs.isEmpty
  | bytes bs => !bs.isEmpty
  | tuple items => !items.isEmpty

def int? : Constant → Option Int
  | bool b => some (if b then 1 else 0)
  | int n => some n
  | _ => Option.none

/-- The floating number nearest to a whole one, within their range. -/
def nearest? (n : Int) : Option Float :=
  let x := Float.ofInt n
  if x.isFinite then some x else Option.none

def float? : Constant → Option Float
  | float x => some x
  | complex | text _ | bytes _ | tuple _ | none | ellipsis => Option.none
  | c => c.int?.bind nearest?

/-! ## Operators -/

/-- The number of binary digits of a number. -/
def bitLength (n : Int) : Nat := if n = 0 then 0 else n.natAbs.log2 + 1

/-- The most binary digits of a number that is worked out ahead. -/
def maxBits : Nat := 128

/-- The most items of a row that is worked out ahead. -/
def maxItems : Nat := 256

/-- The most characters of a text that is worked out ahead. -/
def maxText : Nat := 4096

/-- A power of floating numbers, unless it has no value or leaves their range. -/
def power (a b : Float) : Option Constant :=
  let x := Float.pow a b
  if a == 0.0 && b < 0.0 then Option.none
  else if a < 0.0 && a.isFinite && b.isFinite && b.floor != b then some complex
  else if x.isInf && a.isFinite && b.isFinite then Option.none
  else some (float x)

/-- An operator between whole numbers. -/
def ofInts (op : BinaryOperator) (a b : Int) : Option Constant :=
  match op with
  | .add => some (int (a + b))
  | .sub => some (int (a - b))
  | .mult => if a ≠ 0 ∧ b ≠ 0 ∧ maxBits < bitLength a + bitLength b then Option.none
    else some (int (a * b))
  | .div => do if b = 0 then Option.none else pure (float ((← nearest? a) / (← nearest? b)))
  | .floorDiv => if b = 0 then Option.none else some (int (Int.fdiv a b))
  | .mod => if b = 0 then Option.none else some (int (Int.fmod a b))
  | .pow =>
    if b < 0 then do power (← nearest? a) (← nearest? b)
    else if 0 < a ∧ 0 < b ∧ maxBits / b.toNat < bitLength a then Option.none
    else if maxBits < bitLength a * b.toNat then Option.none
    else some (int (a ^ b.toNat))
  | .leftShift =>
    if b < 0 then Option.none
    else if a ≠ 0 ∧ 0 < b ∧ maxBits < bitLength a + b.toNat then Option.none
    else if a = 0 then some (int 0)
    else some (int (a * 2 ^ b.toNat))
  | .rightShift => if b < 0 then Option.none else some (int (a >>> b.toNat))
  | .bitOr | .bitXor | .bitAnd => some (int 0)
  | .matMult => Option.none

/-- An operator between floating numbers. -/
def ofFloats (op : BinaryOperator) (a b : Float) : Option Constant :=
  match op with
  | .add => some (float (a + b))
  | .sub => some (float (a - b))
  | .mult => some (float (a * b))
  | .div | .floorDiv | .mod => if b == 0.0 then Option.none else some (float (a / b))
  | .pow => power a b
  | _ => Option.none

/-- A row so many times over, within a limit. -/
def times {α : Type} (xs : List α) (n : Int) (limit : Nat) : Option (List α) :=
  if xs.length ≠ 0 ∧ 0 < n ∧ limit < n.toNat * xs.length then Option.none
  else some (List.replicate n.toNat xs).flatten

def binary (op : BinaryOperator) (a b : Constant) : Option Constant :=
  match op, a, b with
  | .add, text a, text b => some (text (a ++ b))
  | .add, bytes a, bytes b => some (bytes (a ++ b))
  | .add, tuple a, tuple b => some (tuple (a ++ b))
  | .mult, text a, b => do return text (← times a (← b.int?) maxText)
  | .mult, b, text a => do return text (← times a (← b.int?) maxText)
  | .mult, bytes a, b => do return bytes (← times a (← b.int?) maxText)
  | .mult, b, bytes a => do return bytes (← times a (← b.int?) maxText)
  | .mult, tuple a, b => do return tuple (← times a (← b.int?) maxItems)
  | .mult, b, tuple a => do return tuple (← times a (← b.int?) maxItems)
  | op, complex, b => if b.float?.isSome && op != .mod && op != .floorDiv then some complex
    else match b with
      | complex => some complex
      | _ => Option.none
  | op, a, complex =>
    if a.float?.isSome && op != .mod && op != .floorDiv then some complex else Option.none
  | op, a, b =>
    match a.int?, b.int? with
    | some x, some y => ofInts op x y
    | _, _ => do ofFloats op (← a.float?) (← b.float?)

def unary (op : UnaryOperator) (a : Constant) : Option Constant :=
  match op, a with
  | .not, a => some (bool (!a.isTrue))
  | .plus, complex | .minus, complex => some complex
  | .plus, a => a.int?.map int <|> a.float?.map float
  | .minus, a => a.int?.map (fun n => int (-n)) <|> a.float?.map (fun x => float (-x))
  | .invert, a => a.int?.map fun n => int (-n - 1)

/-- The place an index means in a row of so many. -/
def placeIn (length : Nat) (index : Int) : Option Nat :=
  let k := if index < 0 then index + length else index
  if 0 ≤ k ∧ k < length then some k.toNat else Option.none

def item (a index : Constant) : Option Constant := do
  let k ← index.int?
  match a with
  | text cs => (cs[← placeIn cs.length k]?).map fun c => text [c]
  | bytes bs => (bs[← placeIn bs.length k]?).map fun b => int b.toNat
  | tuple items => items[← placeIn items.length k]?
  | _ => Option.none

end Constant

/-- The constant that an expression of so many levels is. -/
def constantIn : Nat → Node → Option Constant
  | 0, _ => none
  | fuel + 1, n =>
    match n.form with
    | .constant l => Constant.ofLiteral l
    | .name "__debug__" .load => some (.bool true)
    | .tuple elements .load => (elements.mapM (constantIn fuel)).map .tuple
    | .unary op operand => do Constant.unary op (← constantIn fuel operand)
    | .binary left op right => do
      Constant.binary op (← constantIn fuel left) (← constantIn fuel right)
    | .subscript value index .load => do
      Constant.item (← constantIn fuel value) (← constantIn fuel index)
    | _ => none

def constantOf? (n : Node) : Option Constant := constantIn n.height n

end LiveSketch.Script

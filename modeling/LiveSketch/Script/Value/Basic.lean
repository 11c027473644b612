/-!
# Values of scripts

What a running script computes with. Numbers, texts, tuples and the like are values in themselves;
whatever can change is a reference to an object, which the machine's store holds.
-/

namespace LiveSketch.Script

/-- A value. -/
inductive Value where
  | none
  | ellipsis
  | notImplemented
  | bool (b : Bool)
  | int (n : Int)
  | float (x : Float)
  | complex (re im : Float)
  | text (s : String)
  | bytes (bs : List UInt8)
  | tuple (items : List Value)
  | range (start stop step : Int)
  | slice (lower upper step : Value)
  /-- A class of the language itself. -/
  | type (name : String)
  /-- A function of the language itself, by its full name. -/
  | native (name : String)
  /-- A function of the language itself, by its full name, with its first argument. -/
  | method (self : Value) (name : String)
  /-- A function with its first argument. -/
  | bound (self function : Value)
  /-- What a script draws on. -/
  | canvas
  /-- A call of the canvas that is still to be made. -/
  | canvasCall (name : String)
  /-- An object of the store. -/
  | ref (address : Nat)
deriving Inhabited

namespace Value

/-- The value of a text's characters. -/
def chars (cs : List Char) : Value := text (String.ofList cs)

/-- The whole number of a value, counting truth values. -/
def int? : Value → Option Int
  | int n => some n
  | bool b => some (if b then 1 else 0)
  | _ => Option.none

def isBool : Value → Bool
  | bool _ => true
  | _ => false

def isNone : Value → Bool
  | none => true
  | _ => false

def address? : Value → Option Nat
  | ref a => some a
  | _ => Option.none

def ofOption : Option Value → Value
  | some v => v
  | Option.none => none

/-- The same value or the same object. Equal numbers and texts count as the same. -/
def same : Value → Value → Bool
  | none, none | ellipsis, ellipsis | notImplemented, notImplemented | canvas, canvas => true
  | bool a, bool b => a == b
  | int a, int b => a == b
  | float a, float b => a.toBits == b.toBits
  | text a, text b => a == b
  | bytes a, bytes b => a == b
  | tuple as, tuple bs => sameAll as bs
  | type a, type b => a == b
  | native a, native b => a == b
  | canvasCall a, canvasCall b => a == b
  | method a n, method b m => same a b && n == m
  | bound a f, bound b g => same a b && same f g
  | ref a, ref b => a == b
  | _, _ => false
where
  /-- Rows of the same values. -/
  sameAll : List Value → List Value → Bool
    | [], [] => true
    | a :: as, b :: bs => same a b && sameAll as bs
    | _, _ => false

end Value

/-! ## Keys -/

/-- What a value is known by in a dictionary or a set: equal values have equal keys. -/
inductive Key where
  | none
  | int (n : Int)
  | float (bits : UInt64)
  | complex (re im : UInt64)
  | text (s : String)
  | bytes (bs : List UInt8)
  | tuple (items : List Key)
  | frozen (items : List Key)
  | named (s : String)
  | object (address : Nat)
  /-- An object that says itself what it is equal to, by its own hash. -/
  | hashed (n : Int)
deriving BEq, Hashable, Inhabited

end LiveSketch.Script

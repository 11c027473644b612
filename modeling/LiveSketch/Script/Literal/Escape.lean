import LiveSketch.Script.Number
import LiveSketch.Script.Token

/-!
# Escapes in strings

A backslash and what follows it stand for one character. One that stands for nothing is kept as it
is, and the first of these in a string is worth a warning.
-/

namespace LiveSketch.Script

/-- What a string's body comes to, and the first escape in it that stands for nothing. -/
structure Decoded (α : Type) where
  units : List α
  odd : Option String
deriving Repr

namespace Decoded

variable {α : Type}

def cons (a : α) (d : Decoded α) : Decoded α := { d with units := a :: d.units }

/-- With units in front that an odd escape gave. -/
def consOdd (as : List α) (odd : String) (d : Decoded α) : Decoded α :=
  { units := as ++ d.units, odd := some odd }

end Decoded

/-- The character that a letter after a backslash stands for. -/
def plainEscape? (c : Char) : Option Char :=
  if c == '\\' || c == '\x27' || c == '\x22' then some c
  else if c == 'a' then some '\x07'
  else if c == 'b' then some '\x08'
  else if c == 't' then some '\t'
  else if c == 'n' then some '\n'
  else if c == 'v' then some '\x0b'
  else if c == 'f' then some '\x0c'
  else if c == 'r' then some '\r'
  else none

def isOctal (c : Char) : Bool := '0' ≤ c && c ≤ '7'

/-- The number of hexadecimal digits after a letter. -/
def hexDigitCount? (c : Char) : Option Nat :=
  if c == 'x' then some 2 else if c == 'u' then some 4 else if c == 'U' then some 8 else none

/-- The octal digits at the front, three at most. -/
def octalDigits (cs : List Char) : List Char := (cs.take 3).takeWhile isOctal

def oddEscapeWords (odd : String) : String :=
  (if odd.toList.head?.any fun c => '4' ≤ c && c ≤ '7' then "invalid octal escape sequence '\\"
    else "invalid escape sequence '\\") ++ odd ++ "'"

/-! ## Text -/

/-- How much a character counts in the place of a wrong escape: one outside of ASCII is counted as
its escape. -/
def spelledWidth (c : Char) : Nat := if c.toNat < 128 then 1 else 10

/-- How much characters count. -/
def spelledLength (cs : List Char) : Nat := (cs.map spelledWidth).sum

/-- The words for a wrong escape from a place up to before another. -/
def wrongEscape (start stop : Nat) (reason : String) : String :=
  "(unicode error) 'unicodeescape' codec can't decode bytes in position " ++ toString start ++ "-" ++
    toString (stop - 1) ++ ": " ++ reason

/-- Decodes the body of a text from a place, in so many steps. -/
def decodeTextFrom : Nat → Nat → List Char → Except String (Decoded Char)
  | 0, _, _ => .ok ⟨[], none⟩
  | _, _, [] => .ok ⟨[], none⟩
  | fuel + 1, pos, '\\' :: rest =>
    match rest with
    | [] => .ok ⟨['\\'], none⟩
    | '\n' :: after => decodeTextFrom fuel (pos + 2) after
    | c :: after =>
      if 128 ≤ c.toNat then
        (decodeTextFrom fuel (pos + 16) after).map fun d => (d.cons c).cons '\\'
      else match plainEscape? c, hexDigitCount? c with
        | some e, _ => (decodeTextFrom fuel (pos + 2) after).map (Decoded.cons e)
        | none, some count =>
          let digits := (after.take count).takeWhile fun c => (hexValue? c).isSome
          let stop := pos + 2 + digits.length
          if digits.length < count then
            .error (wrongEscape pos stop ("truncated \\" ++ c.toString ++
              String.ofList (List.replicate count 'X') ++ " escape"))
          else
            let n := digitsValue 16 digits
            if 0x10ffff < n then .error (wrongEscape pos stop "illegal Unicode character")
            else (decodeTextFrom fuel stop (after.drop count)).map (Decoded.cons (Char.ofNat n))
        | none, none =>
          if isOctal c then
            let digits := octalDigits rest
            let n := digitsValue 8 digits
            (decodeTextFrom fuel (pos + 1 + digits.length) (rest.drop digits.length)).map fun d =>
              if 255 < n then d.consOdd [Char.ofNat n] (String.ofList digits)
              else d.cons (Char.ofNat n)
          else if c == 'N' then .error (wrongName pos after)
          else (decodeTextFrom fuel (pos + 2) after).map (Decoded.consOdd ['\\', c] c.toString)
  | fuel + 1, pos, c :: rest =>
    (decodeTextFrom fuel (pos + spelledWidth c) rest).map (Decoded.cons c)
where
  /-- The words for a character by a name that is not known. -/
  wrongName (pos : Nat) : List Char → String
    | '\x7b' :: after =>
      let name := after.takeWhile (· != '\x7d')
      let stop := pos + 3 + spelledLength name
      if name.length = after.length then wrongEscape pos stop "malformed \\N character escape"
      else if name.isEmpty then wrongEscape pos stop "malformed \\N character escape"
      else wrongEscape pos (stop + 1) "unknown Unicode character name"
    | _ => wrongEscape pos (pos + 2) "malformed \\N character escape"

def decodeText (body : List Char) : Except String (Decoded Char) :=
  decodeTextFrom (body.length + 1) 0 body

/-! ## Bytes -/

/-- Decodes the body of bytes from a place, in so many steps. -/
def decodeBytesFrom : Nat → Nat → List Char → Except String (Decoded UInt8)
  | 0, _, _ => .ok ⟨[], none⟩
  | _, _, [] => .ok ⟨[], none⟩
  | fuel + 1, pos, '\\' :: rest =>
    match rest with
    | [] => .error "(value error) Trailing \\ in string"
    | '\n' :: after => decodeBytesFrom fuel (pos + 2) after
    | c :: after =>
      match plainEscape? c with
      | some e => (decodeBytesFrom fuel (pos + 2) after).map (Decoded.cons e.toNat.toUInt8)
      | none =>
        if c == 'x' then
          let digits := (after.take 2).takeWhile fun c => (hexValue? c).isSome
          if digits.length < 2 then
            .error ("(value error) invalid \\x escape at position " ++ toString pos)
          else (decodeBytesFrom fuel (pos + 4) (after.drop 2)).map
            (Decoded.cons (digitsValue 16 digits).toUInt8)
        else if isOctal c then
          let digits := octalDigits rest
          let n := digitsValue 8 digits
          (decodeBytesFrom fuel (pos + 1 + digits.length) (rest.drop digits.length)).map fun d =>
            if 255 < n then d.consOdd [n.toUInt8] (String.ofList digits) else d.cons n.toUInt8
        else (decodeBytesFrom fuel (pos + 2) after).map
          (Decoded.consOdd ['\\'.toNat.toUInt8, c.toNat.toUInt8] c.toString)
  | fuel + 1, pos, c :: rest =>
    (decodeBytesFrom fuel (pos + 1) rest).map (Decoded.cons c.toNat.toUInt8)

def decodeBytes (body : List Char) : Except String (Decoded UInt8) :=
  decodeBytesFrom (body.length + 1) 0 body

end LiveSketch.Script

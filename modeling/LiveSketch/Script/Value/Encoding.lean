import LiveSketch.Script.Value.Arithmetic

/-!
# Texts as bytes

The encodings in which a text can be written as bytes and read back, and what happens to characters
and bytes that an encoding does not have.
-/

namespace LiveSketch.Script

/-- An encoding. -/
inductive Encoding where
  | utf8 | ascii | latin

namespace Encoding

def named? (name : String) : Option Encoding :=
  let plain := String.ofList (name.toList.map fun c => if c == '_' || c == ' ' then '-' else c.toLower)
  if ["utf-8", "utf8", "u8"].contains plain then some .utf8
  else if ["ascii", "us-ascii", "646"].contains plain then some .ascii
  else if ["latin-1", "latin1", "iso-8859-1", "iso8859-1", "8859", "l1"].contains plain then some .latin
  else none

/-- The name of an encoding in the words of faults. -/
def name : Encoding → String
  | utf8 => "utf-8"
  | ascii => "ascii"
  | latin => "latin-1"

/-- The first number that an encoding of single bytes does not have. -/
def limit : Encoding → Nat
  | utf8 => 0x110000
  | ascii => 0x80
  | latin => 0x100

end Encoding

/-- Characters as bytes in the general encoding. -/
def utf8Bytes (cs : List Char) : List UInt8 := (String.ofList cs).toUTF8.toList

/-- What stands for characters that an encoding does not have. -/
def encodeStray (errors : String) (c : Char) : Option (List UInt8) :=
  let digits (width : Nat) : List Char :=
    let ds := Nat.toDigits 16 c.toNat
    List.replicate (width - ds.length) '0' ++ ds
  match errors with
  | "ignore" => some []
  | "replace" => some [0x3F]
  | "xmlcharrefreplace" => some (utf8Bytes ("&#".toList ++ Nat.toDigits 10 c.toNat ++ [';']))
  | "backslashreplace" =>
    some (utf8Bytes (if c.toNat < 0x100 then "\\x".toList ++ digits 2
      else if c.toNat < 0x10000 then "\\u".toList ++ digits 4 else "\\U".toList ++ digits 8))
  | _ => none

def bytesOfText (text encoding errors : String) : Except Trouble (List UInt8) :=
  match Encoding.named? encoding with
  | none => .error (.plain "LookupError" ("unknown encoding: " ++ encoding))
  | some .utf8 => .ok (utf8Bytes text.toList)
  | some e =>
    let fits (c : Char) : Bool := c.toNat < e.limit
    let rec go (place : Nat) : List Char → Except Trouble (List UInt8)
      | [] => .ok []
      | c :: rest => do
        if fits c then return UInt8.ofNat c.toNat :: (← go (place + 1) rest)
        match encodeStray errors c with
        | some bs => return bs ++ (← go (place + 1) rest)
        | none =>
          let stray := (c :: rest).takeWhile fun c => !fits c
          .error ⟨"UnicodeEncodeError", [.text e.name, .text text, .int place, .int (place + stray.length),
            .text ("ordinal not in range(" ++ toString e.limit ++ ")")]⟩
    go 0 text.toList

/-- The bytes that may follow the first byte of a character: the range of the second one, and how many
there are. -/
def followers? (b : Nat) : Option (Nat × Nat × Nat) :=
  if b < 0xC2 then none
  else if b < 0xE0 then some (0x80, 0xBF, 1)
  else if b = 0xE0 then some (0xA0, 0xBF, 2)
  else if b = 0xED then some (0x80, 0x9F, 2)
  else if b < 0xF0 then some (0x80, 0xBF, 2)
  else if b = 0xF0 then some (0x90, 0xBF, 3)
  else if b < 0xF4 then some (0x80, 0xBF, 3)
  else if b = 0xF4 then some (0x80, 0x8F, 3)
  else none

/-- The bytes of a character after its first one: those that fit, and whether they are all there. -/
def continued (low high : Nat) : Nat → List UInt8 → List Nat × Option String
  | 0, _ => ([], none)
  | _ + 1, [] => ([], some "unexpected end of data")
  | n + 1, b :: rest =>
    if low ≤ b.toNat && b.toNat ≤ high then
      let (bs, trouble) := continued 0x80 0xBF n rest
      (b.toNat :: bs, trouble)
    else ([], some "invalid continuation byte")

/-- The first character of bytes in the general encoding with its length, or the length of what is no
character and why. -/
def firstChar (b : UInt8) (rest : List UInt8) : (Char × Nat) ⊕ (Nat × String) :=
  let n := b.toNat
  if n < 0x80 then .inl (Char.ofNat n, 1)
  else match followers? n with
    | none => .inr (1, "invalid start byte")
    | some (low, high, count) =>
      match continued low high count rest with
      | (bs, some trouble) => .inr (1 + bs.length, trouble)
      | (bs, none) =>
        let front := if count = 1 then n - 0xC0 else if count = 2 then n - 0xE0 else n - 0xF0
        .inl (Char.ofNat (bs.foldl (fun code b => 64 * code + (b - 0x80)) front), 1 + count)

/-- What stands for bytes that are no character. -/
def decodeStray (errors : String) (bs : List UInt8) : Option (List Char) :=
  match errors with
  | "ignore" => some []
  | "replace" => some [Char.ofNat 0xFFFD]
  | "backslashreplace" => some (bs.flatMap fun b =>
      let ds := Nat.toDigits 16 b.toNat
      "\\x".toList ++ List.replicate (2 - ds.length) '0' ++ ds)
  | _ => none

def textOfBytes (bytes : List UInt8) (encoding errors : String) : Except Trouble String :=
  match Encoding.named? encoding with
  | none => .error (.plain "LookupError" ("unknown encoding: " ++ encoding))
  | some e =>
    let first (b : UInt8) (rest : List UInt8) : (Char × Nat) ⊕ (Nat × String) :=
      match e with
      | .utf8 => firstChar b rest
      | .latin => .inl (Char.ofNat b.toNat, 1)
      | .ascii => if b.toNat < 0x80 then .inl (Char.ofNat b.toNat, 1)
          else .inr (1, "ordinal not in range(128)")
    let rec go : Nat → Nat → List UInt8 → Except Trouble (List Char)
      | 0, _, _ | _, _, [] => .ok []
      | fuel + 1, place, b :: rest =>
        match first b rest with
        | .inl (c, size) => do return c :: (← go fuel (place + size) (rest.drop (size - 1)))
        | .inr (size, reason) =>
          match decodeStray errors ((b :: rest).take size) with
          | some cs => do return cs ++ (← go fuel (place + size) (rest.drop (size - 1)))
          | none => .error ⟨"UnicodeDecodeError", [.text e.name, .bytes bytes, .int place,
              .int (place + size), .text reason]⟩
    (go bytes.length 0 bytes).map String.ofList

end LiveSketch.Script

import LiveSketch.Arithmetic

/-!
# SHA-1

The 160-bit digest of a message: the message is padded to blocks of 64 bytes, and each block is
mixed into five words in 80 rounds.
-/

namespace LiveSketch

namespace Sha1

/-- The five words that a digest is made of. -/
structure State where
  a : UInt32
  b : UInt32
  c : UInt32
  d : UInt32
  e : UInt32
deriving DecidableEq, Repr

/-- The words before the first block. -/
def initial : State := ⟨0x67452301, 0xEFCDAB89, 0x98BADCFE, 0x10325476, 0xC3D2E1F0⟩

/-- Turns a word to the left by `n` bits, `0 < n < 32`. -/
def rotate (x : UInt32) (n : UInt32) : UInt32 := (x <<< n) ||| (x >>> (32 - n))

/-- The bytes of a number, most significant first. -/
def bigEndian (count n : Nat) : List UInt8 :=
  (List.range count).reverse.map fun k => UInt8.ofNat (n / 256 ^ k)

/-- The message with a one bit, zeros, and its length in bits, a multiple of 64 bytes long. -/
def pad (message : List UInt8) : List UInt8 :=
  let zeros := (119 - message.length % 64) % 64
  message ++ 0x80 :: (List.replicate zeros 0 ++ bigEndian 8 (message.length * 8))

/-- The words of a run of bytes, four bytes each. -/
def wordsOf : List UInt8 → List UInt32
  | p :: q :: r :: s :: rest =>
    (p.toUInt32 <<< 24 ||| q.toUInt32 <<< 16 ||| r.toUInt32 <<< 8 ||| s.toUInt32) :: wordsOf rest
  | _ => []

/-- The 80 words of a block's schedule, from its 16. -/
def schedule (block : Array UInt32) : Array UInt32 :=
  (List.range 64).foldl (fun w k =>
    let back (n : Nat) := w.getD (k + 16 - n) 0
    w.push (rotate (back 3 ^^^ back 8 ^^^ back 14 ^^^ back 16) 1)) block

/-- The mixing function and the constant of a round. -/
def roundRule (t : Nat) (b c d : UInt32) : UInt32 × UInt32 :=
  if t < 20 then ((b &&& c) ||| (~~~b &&& d), 0x5A827999)
  else if t < 40 then (b ^^^ c ^^^ d, 0x6ED9EBA1)
  else if t < 60 then ((b &&& c) ||| (b &&& d) ||| (c &&& d), 0x8F1BBCDC)
  else (b ^^^ c ^^^ d, 0xCA62C1D6)

def round (s : State) (t : Nat) (word : UInt32) : State :=
  let (mixed, constant) := roundRule t s.b s.c s.d
  ⟨rotate s.a 5 + mixed + s.e + constant + word, s.a, rotate s.b 30, s.c, s.d⟩

/-- Mixes one block into the words. -/
def absorb (s : State) (block : List UInt32) : State :=
  let w := schedule block.toArray
  let m := (List.range 80).foldl (fun m t => round m t (w.getD t 0)) s
  ⟨s.a + m.a, s.b + m.b, s.c + m.c, s.d + m.d, s.e + m.e⟩

def blocks : Nat → List UInt32 → List (List UInt32)
  | 0, _ => []
  | count + 1, words => words.take 16 :: blocks count (words.drop 16)

/-- The five words of a message's digest. -/
def digest (message : List UInt8) : State :=
  let words := wordsOf (pad message)
  (blocks (words.length / 16) words).foldl absorb initial

/-- A word in base 16, eight small digits. -/
def wordText (x : UInt32) : String :=
  let digits := Nat.toDigits 16 x.toNat
  String.ofList (List.replicate (8 - digits.length) '0' ++ digits)

def hex (message : List UInt8) : String :=
  let s := digest message
  String.join ([s.a, s.b, s.c, s.d, s.e].map wordText)

end Sha1

end LiveSketch

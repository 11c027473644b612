import LiveSketch.Digest.Sha1

/-!
# SHA-512

The 512-bit digest of a message: the message is padded to blocks of 128 bytes, and each block is
mixed into eight words in 80 rounds. The words before the first block and the constants of the
rounds are the first 64 bits after the point of the square and cube roots of the first primes.
-/

namespace LiveSketch

namespace Sha512

/-- The greatest number below 2 to the `bits` whose `k`th power is at most `n`, digit by digit. -/
def rootFloor (k n : Nat) (bits : Nat) : Nat :=
  (List.range bits).reverse.foldl (fun r b => if (r + 2 ^ b) ^ k ≤ n then r + 2 ^ b else r) 0

/-- The first 64 bits after the point of the `k`th root of a number. -/
def rootWord (k n : Nat) : UInt64 := UInt64.ofNat (rootFloor k (n * 2 ^ (64 * k)) 70)

def isPrime (n : Nat) : Bool := 2 ≤ n && (List.range n).all fun d => d < 2 || n % d ≠ 0

def primes : List Nat := (List.range 410).filter isPrime

/-- The words before the first block. -/
def initial : List UInt64 := (primes.take 8).map (rootWord 2)

def constants : List UInt64 := primes.map (rootWord 3)

/-- Turns a word to the right by `n` bits, `0 < n < 64`. -/
def rotate (x n : UInt64) : UInt64 := (x >>> n) ||| (x <<< (64 - n))

/-- The message with a one bit, zeros, and its length in bits, a multiple of 128 bytes long. -/
def pad (message : List UInt8) : List UInt8 :=
  let zeros := (239 - message.length % 128) % 128
  message ++ 0x80 :: (List.replicate zeros 0 ++ Sha1.bigEndian 16 (message.length * 8))

/-- The word that bytes make, the most significant first. -/
def wordOf (bytes : List UInt8) : UInt64 := bytes.foldl (fun w b => w <<< 8 ||| b.toUInt64) 0

/-- The first `count` pieces of a row, `size` items each. -/
def pieces {α : Type} (size : Nat) : Nat → List α → List (List α)
  | 0, _ => []
  | count + 1, items => items.take size :: pieces size count (items.drop size)

/-- The 80 words of a block's schedule, from its 16. -/
def schedule (block : Array UInt64) : Array UInt64 :=
  (List.range 64).foldl (fun w k =>
    let back (n : Nat) := w.getD (k + 16 - n) 0
    let near := rotate (back 2) 19 ^^^ rotate (back 2) 61 ^^^ back 2 >>> 6
    let far := rotate (back 15) 1 ^^^ rotate (back 15) 8 ^^^ back 15 >>> 7
    w.push (near + back 7 + far + back 16)) block

/-- One round, with the sum of its constant and its word. -/
def round (s : List UInt64) (added : UInt64) : List UInt64 :=
  match s with
  | [a, b, c, d, e, f, g, h] =>
    let first := h + (rotate e 14 ^^^ rotate e 18 ^^^ rotate e 41) + ((e &&& f) ^^^ (~~~e &&& g)) + added
    let second := (rotate a 28 ^^^ rotate a 34 ^^^ rotate a 39) +
      ((a &&& b) ^^^ (a &&& c) ^^^ (b &&& c))
    [first + second, a, b, c, d + first, e, f, g]
  | s => s

/-- Mixes one block into the words. -/
def absorb (rounds s block : List UInt64) : List UInt64 :=
  let sums := rounds.zipWith (· + ·) (schedule block.toArray).toList
  s.zipWith (· + ·) (sums.foldl round s)

/-- The eight words of a message's digest. -/
def words (message : List UInt8) : List UInt64 :=
  let padded := pad message
  let row := (pieces 8 (padded.length / 8) padded).map wordOf
  (pieces 16 (row.length / 16) row).foldl (absorb constants) initial

/-- The 64 bytes of a message's digest. -/
def digest (message : List UInt8) : List UInt8 :=
  (words message).flatMap fun w => Sha1.bigEndian 8 w.toNat

end Sha512

end LiveSketch

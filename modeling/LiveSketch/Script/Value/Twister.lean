import LiveSketch.Arithmetic

/-!
# A source of random numbers

The Mersenne twister of 32-bit words: a row of 624 words that is mixed when all of them have been
given out.
-/

namespace LiveSketch.Script

/-- The words of the source, and how many of them have been given out. -/
structure Twister where
  words : Array UInt32
  index : Nat
deriving Inhabited

namespace Twister

/-- How many words there are. -/
def size : Nat := 624

def wordAt (ws : Array UInt32) (k : Nat) : UInt32 := ws.getD (k % size) 0

/-- The words that start from one number. -/
def ofWord (seed : UInt32) : Array UInt32 :=
  (List.range (size - 1)).foldl (fun ws k =>
    let before := ws.getD k 0
    ws.push ((1812433253 : UInt32) * (before ^^^ (before >>> 30)) + UInt32.ofNat (k + 1))) #[seed]

/-- Mixes keys into words, from the place `i` of the words and `j` of the keys on. -/
def mixKeys (keys : Array UInt32) : Nat → Nat → Nat → Array UInt32 → Array UInt32 × Nat
  | 0, i, _, ws => (ws, i)
  | fuel + 1, i, j, ws =>
    let before := ws.getD (i - 1) 0
    let word := (ws.getD i 0 ^^^ ((before ^^^ (before >>> 30)) * 1664525)) + keys.getD j 0 + UInt32.ofNat j
    let ws := ws.setIfInBounds i word
    let (ws, i) := if size ≤ i + 1 then (ws.setIfInBounds 0 word, 1) else (ws, i + 1)
    mixKeys keys fuel i (if keys.size ≤ j + 1 then 0 else j + 1) ws

def mixWords : Nat → Nat → Array UInt32 → Array UInt32
  | 0, _, ws => ws
  | fuel + 1, i, ws =>
    let before := ws.getD (i - 1) 0
    let word := (ws.getD i 0 ^^^ ((before ^^^ (before >>> 30)) * 1566083941)) - UInt32.ofNat i
    let ws := ws.setIfInBounds i word
    let (ws, i) := if size ≤ i + 1 then (ws.setIfInBounds 0 word, 1) else (ws, i + 1)
    mixWords fuel i ws

/-- The digits of a number to the base of two to the power of 32, the least first. -/
def digitsOf : Nat → Nat → List UInt32
  | 0, _ => []
  | fuel + 1, n => if n = 0 then [] else UInt32.ofNat (n % 2 ^ 32) :: digitsOf fuel (n / 2 ^ 32)

/-- The source that starts from a number. -/
def ofSeed (seed : Nat) : Twister :=
  let keys := (digitsOf (seed.log2 / 32 + 1) seed).toArray
  let keys := if keys.isEmpty then #[0] else keys
  let (ws, i) := mixKeys keys (max size keys.size) 1 0 (ofWord 19650218)
  let ws := mixWords (size - 1) i ws
  ⟨ws.setIfInBounds 0 0x80000000, size⟩

def mixed (ws : Array UInt32) : Array UInt32 :=
  (List.range size).foldl (fun ws k =>
    let joint := (wordAt ws k &&& 0x80000000) ||| (wordAt ws (k + 1) &&& 0x7FFFFFFF)
    let odd : UInt32 := if joint &&& 1 = 1 then 0x9908B0DF else 0
    ws.setIfInBounds k (wordAt ws (k + 397) ^^^ (joint >>> 1) ^^^ odd)) ws

/-- The next word, and the source after it. -/
def next (t : Twister) : UInt32 × Twister :=
  let t : Twister := if size ≤ t.index then ⟨mixed t.words, 0⟩ else t
  let y := t.words.getD t.index 0
  let y := y ^^^ (y >>> 11)
  let y := y ^^^ ((y <<< 7) &&& 0x9D2C5680)
  let y := y ^^^ ((y <<< 15) &&& 0xEFC60000)
  (y ^^^ (y >>> 18), { t with index := t.index + 1 })

/-- A number of so many binary digits, made of words with the least first. -/
def bits : Nat → Nat → Twister → Nat × Twister
  | 0, _, t => (0, t)
  | fuel + 1, k, t =>
    if k = 0 then (0, t)
    else
      let (w, t) := t.next
      if k ≤ 32 then (w.toNat / 2 ^ (32 - k), t)
      else
        let (rest, t) := bits fuel (k - 32) t
        (w.toNat + 2 ^ 32 * rest, t)

/-- A number of so many binary digits. -/
def number (k : Nat) (t : Twister) : Nat × Twister := bits (k / 32 + 1) k t

/-- A floating number from zero up to but not including one. -/
def float (t : Twister) : Float × Twister :=
  let (a, t) := t.next
  let (b, t) := t.next
  let n := (a >>> 5).toNat * 67108864 + (b >>> 6).toNat
  (Float.ofNat n / 9007199254740992.0, t)

end Twister

end LiveSketch.Script

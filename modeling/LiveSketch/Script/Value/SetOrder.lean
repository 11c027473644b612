import LiveSketch.Script.Value.Arithmetic
import LiveSketch.Script.Value.Table

/-!
# The order of sets

A set hands out its members by their places in a table, which follow from the hashes of the members
and from the order in which they came. Numbers and rows of numbers have hashes that do not depend on
the run; a set with other members hands them out as they came.
-/

namespace LiveSketch.Script

/-- The number that hashes of numbers are taken by. -/
def hashModulus : Nat := 2 ^ 61 - 1

/-- The hash of a whole number. -/
def intHash (n : Int) : Int :=
  let size : Int := (n.natAbs % hashModulus : Nat)
  let h := if n < 0 then -size else size
  if h = -1 then -2 else h

/-- The hash of a floating number, which is that of an equal whole number. -/
def floatHash (x : Float) : Int :=
  match floatParts x with
  | .nan => 0
  | .infinite negative => if negative then -314159 else 314159
  | .finite .. =>
    let (num, den) := ratioParts x
    let turn := (61 - den.log2 % 61) % 61
    let size : Int := (num.natAbs * 2 ^ turn % hashModulus : Nat)
    let h := if num < 0 then -size else size
    if h = -1 then -2 else h

def hashWord (h : Int) : UInt64 := UInt64.ofNat ((h % 2 ^ 64).toNat)

def wordHash (w : UInt64) : Int :=
  let n : Int := w.toNat
  if n < 2 ^ 63 then n else n - 2 ^ 64

def rowHash (hashes : List Int) : Int :=
  let turn (w : UInt64) : UInt64 := (w <<< 31) ||| (w >>> 33)
  let mixed := hashes.foldl
    (fun (acc : UInt64) h => turn (acc + hashWord h * 14029467366897019727) * 11400714785074694791)
    2870177450012600261
  let w := mixed + (UInt64.ofNat hashes.length ^^^ (2870177450012600261 ^^^ 3527539))
  let h := wordHash w
  if h = -1 then 1546275796 else h

/-- The hash of a key, where it does not depend on the run. -/
def keyHash? : Key → Option Int
  | .int n => some (intHash n)
  | .float bits => some (floatHash (Float.ofBits bits))
  | .hashed n => some (intHash n)
  | .tuple items => (all items).map rowHash
  | _ => none
where
  /-- The hashes of keys in a row. -/
  all : List Key → Option (List Int)
    | [] => some []
    | k :: ks => do
      let h ← keyHash? k
      let hs ← all ks
      pure (h :: hs)

/-- The first free place for a hash: some places in a row are tried, then a place further on. -/
def freePlace {α : Type} (places : Array (Option α)) (h : UInt64) : Nat :=
  let mask := places.size - 1
  let rec go : Nat → Nat → UInt64 → Nat
    | 0, place, _ => place
    | fuel + 1, place, rest =>
      let span := if place + 9 ≤ mask then 10 else 1
      match (List.range span).find? fun k => ((places[place + k]?).join).isNone with
      | some k => place + k
      | none =>
        let rest := rest >>> 5
        go fuel (((UInt64.ofNat place * 5 + 1 + rest).toNat) % places.size) rest
  go (4 * places.size + 16) (h.toNat % places.size) h

def placed {α : Type} (hashOf : α → UInt64) (places : Array (Option α)) (entries : List α) :
    Array (Option α) :=
  entries.foldl (fun ps e => ps.set! (freePlace ps (hashOf e)) (some e)) places

/-- The smallest table size above a number. -/
def tableSizeAbove (n : Nat) : Nat :=
  let rec go : Nat → Nat → Nat
    | 0, size => size
    | fuel + 1, size => if size ≤ n then go fuel (2 * size) else size
  go 60 8

/-- Entries with their hashes in the order of their places, when they are put in one by one and the
table grows as it fills. -/
def orderByPlace {α : Type} (entries : List (α × UInt64)) : List α :=
  let final := entries.foldl
    (fun ((ps, used) : Array (Option (α × UInt64)) × Nat) e =>
      let ps := ps.set! (freePlace ps e.2) (some e)
      let used := used + 1
      if used * 5 < (ps.size - 1) * 3 then (ps, used)
      else
        let size := tableSizeAbove (if 50000 < used then used * 2 else used * 4)
        (placed Prod.snd (Array.replicate size none) (ps.toList.filterMap id), used))
    (Array.replicate 8 none, 0)
  (final.1.toList.filterMap id).map Prod.fst

/-- The entries of a set in the order in which it hands them out. -/
def Table.inSetOrder (t : Table) : List Entry :=
  let entries := t.toList
  match entries.mapM fun e => (keyHash? e.key).map fun h => (e, hashWord h) with
  | some hashed => orderByPlace hashed
  | none => entries

end LiveSketch.Script

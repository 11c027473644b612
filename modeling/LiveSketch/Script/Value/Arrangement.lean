/-!
# Arrangements

Rows of places in a pool, one after the other in the order of the places: choices of one place from
each of several pools, rows of different places, and sets of places.
-/

namespace LiveSketch.Script.Arrangement

/-- The choice that comes after another: the last place that can go on goes on, those behind it start
again. Each place comes with the size of its pool. -/
def nextChoice (sizes places : List Nat) : Option (List Nat) :=
  match sizes, places with
  | size :: sizes, place :: places =>
    match nextChoice sizes places with
    | some rest => some (place :: rest)
    | none => if place + 1 < size then some ((place + 1) :: places.map fun _ => 0) else none
  | _, _ => none

/-- The row of `count` different places, all greater than the ones before, that comes after another;
`room` is the first number that is no place. -/
def nextSubset (room : Nat) : List Nat → Option (List Nat)
  | [] => none
  | place :: rest =>
    match nextSubset room rest with
    | some rest => some (place :: rest)
    | none =>
      if place + rest.length + 1 < room then
        some ((List.range (rest.length + 1)).map fun k => place + 1 + k)
      else none

/-- The row of places, none less than the one before, that comes after another. -/
def nextMultiset (room : Nat) : List Nat → Option (List Nat)
  | [] => none
  | place :: rest =>
    match nextMultiset room rest with
    | some rest => some (place :: rest)
    | none => if place + 1 < room then some (List.replicate (rest.length + 1) (place + 1)) else none

/-- The first places, in order, that are not among others. -/
def fresh (room count : Nat) (used : List Nat) : List Nat :=
  ((List.range room).filter fun k => !used.contains k).take count

/-- The row of different places that comes after another one, behind the places in `used`. -/
def nextRow (room : Nat) (used : List Nat) : List Nat → Option (List Nat)
  | [] => none
  | place :: rest =>
    match nextRow room (place :: used) rest with
    | some rest => some (place :: rest)
    | none =>
      match (List.range room).find? fun k => place < k && !used.contains k with
      | some k => some (k :: fresh room rest.length (k :: used))
      | none => none

end LiveSketch.Script.Arrangement

import LiveSketch.Script.Value.Basic
import Std.Data.HashMap

/-!
# Tables

Dictionaries and sets keep their entries in the order of insertion and find them by key. A key that
is put again keeps its place.
-/

namespace LiveSketch.Script

/-- An entry of a table: its key, and the value it was put under with its own value. -/
structure Entry where
  key : Key
  name : Value
  value : Value
deriving Inhabited

/-- Entries in the order of insertion, with gaps where some were removed, and the place of each. -/
structure Table where
  entries : Array (Option Entry)
  places : Std.HashMap Key Nat
deriving Inhabited

namespace Table

def empty : Table := ⟨#[], {}⟩

def toList (t : Table) : List Entry := t.entries.toList.filterMap id

def size (t : Table) : Nat := t.places.size

def entry? (t : Table) (k : Key) : Option Entry := do
  let place ← t.places[k]?
  (t.entries[place]?).join

def get? (t : Table) (k : Key) : Option Value := (t.entry? k).map Entry.value

def contains (t : Table) (k : Key) : Bool := t.places.contains k

def packed (t : Table) : Table :=
  let entries := t.toList
  { entries := (entries.map some).toArray
    places := (entries.zip (List.range entries.length)).foldl
      (fun places (e, place) => places.insert e.key place) {} }

/-- Puts a value under a key. A new key goes to the end. -/
def put (t : Table) (k : Key) (name value : Value) : Table :=
  match t.places[k]? with
  | some place => { t with entries := t.entries.modify place fun e => e.map ({ · with value := value }) }
  | none => ⟨t.entries.push (some ⟨k, name, value⟩), t.places.insert k t.entries.size⟩

def erase (t : Table) (k : Key) : Table :=
  match t.places[k]? with
  | none => t
  | some place =>
    let t : Table := ⟨t.entries.setIfInBounds place none, t.places.erase k⟩
    if 16 < t.entries.size && 2 * t.places.size < t.entries.size then t.packed else t

/-- The table of entries put one after the other. -/
def ofList (entries : List Entry) : Table :=
  entries.foldl (fun t e => t.put e.key e.name e.value) empty

def last? (t : Table) : Option Entry := t.toList.getLast?

def name? (t : Table) (name : String) : Option Value := t.get? (.text name)

def putName (t : Table) (name : String) (value : Value) : Table :=
  t.put (.text name) (.text name) value

/-- The entry at a place or after it, with the next place. -/
def from? (t : Table) (place : Nat) : Option (Entry × Nat) :=
  let rec go : Nat → Nat → Option (Entry × Nat)
    | 0, _ => none
    | fuel + 1, place => match t.entries[place]? with
      | none => none
      | some (some e) => some (e, place + 1)
      | some none => go fuel (place + 1)
  go (t.entries.size + 1 - place) place

end Table

end LiveSketch.Script

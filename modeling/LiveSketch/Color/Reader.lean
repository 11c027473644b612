import LiveSketch.Color.Names
import LiveSketch.Color.Systems
import LiveSketch.Text.Classes
import LiveSketch.Text.Lowercase
import LiveSketch.Text.Quoted

/-!
# Reading colours

A colour is written as a name, as digits to the base of sixteen, or as the parts of a colour system.
-/

namespace LiveSketch.Color

/-- The value of a digit to the base of sixteen, in small letters. -/
def hexDigit? (c : Char) : Option Nat :=
  if '0' ≤ c && c ≤ '9' then some (c.toNat - '0'.toNat)
  else if 'a' ≤ c && c ≤ 'f' then some (c.toNat - 'a'.toNat + 10) else none

/-- The values of digits, if all characters are digits. -/
def hexDigits? (cs : List Char) : Option (List Nat) := cs.mapM hexDigit?

/-- Two digits each as one level. -/
def pairs : List Nat → List Nat
  | a :: b :: rest => (16 * a + b) :: pairs rest
  | _ => []

/-- A number in a colour system: its whole part, its decimal places and how many they are, and
whether it has a point. -/
structure Amount where
  digits : Nat
  places : Nat
  hasPoint : Bool

def digitRun (cs : List Char) : List Nat × List Char :=
  let ds := cs.takeWhile fun c => (digitValue? c).isSome
  (ds.filterMap digitValue?, cs.drop ds.length)

def amount? (cs : List Char) : Option (Amount × List Char) :=
  match digitRun cs with
  | ([], _) => none
  | (ds, rest) =>
    let number (ds : List Nat) : Nat := ds.foldl (fun n d => 10 * n + d) 0
    match rest with
    | '.' :: rest =>
      let (more, rest) := digitRun rest
      some (⟨number (ds ++ more), more.length, true⟩, rest)
    | rest => some (⟨number ds, 0, false⟩, rest)

/-- Reads amounts with commas between them up to a closing bracket, each with whether a percent sign
follows it. -/
def amounts? : Nat → List Char → Option (List (Amount × Bool))
  | 0, _ => none
  | fuel + 1, cs => do
    let (a, rest) ← amount? (cs.dropWhile isBlank)
    let (percent, rest) := match rest with
      | '%' :: rest => (true, rest)
      | rest => (false, rest)
    match rest.dropWhile isBlank with
    | ',' :: rest => return (a, percent) :: (← amounts? fuel rest)
    | [')'] | [')', '\n'] => some [(a, percent)]
    | _ => none

def Amount.toFloat (a : Amount) : Float := Float.ofScientific a.digits true a.places

/-- A level between zero and one as a whole number up to 255. -/
def wholeLevel (x : Float) : Nat := (x * 255.0 + 0.5).floor.toUInt64.toNat

/-- The levels of a colour by hue, saturation and value. -/
def ofValue (h s v : Float) : Parts :=
  if s == 0.0 then ⟨v, v, v⟩
  else
    let k := (h * 6.0).floor
    let low := lowerLevels s v (h * 6.0 - k)
    let level (n : Nat) : Float :=
      if n = 0 then v else if n = 1 then low.first else if n = 2 then low.second else low.third
    match sextant (k.toUInt64.toNat : Int) with
    | [a, b, c] => ⟨level a, level b, level c⟩
    | _ => default

def Parts.levels (c : Parts) : List Nat := [wholeLevel c.first, wholeLevel c.second, wholeLevel c.third]

/-- A colour by the name of a system and its amounts. -/
def inSystem? (system : String) (parts : List (Amount × Bool)) : Option (List Nat) :=
  let whole := parts.all fun p => !p.1.hasPoint
  let percents := parts.map Prod.snd
  match system, parts.map Prod.fst with
  | "rgb", [r, g, b] =>
    if !whole then none
    else if percents == [false, false, false] then some [r.digits, g.digits, b.digits]
    else if percents == [true, true, true] then
      some ([r, g, b].map fun a => (a.digits * 510 + 100) / 200)
    else none
  | "rgba", [r, g, b, a] =>
    if whole && !percents.any id then some [r.digits, g.digits, b.digits, a.digits] else none
  | "hsl", [h, s, l] =>
    if percents != [false, true, true] then none
    else
      let s := s.toFloat / 100.0
      let l := l.toFloat / 100.0
      some (Parts.levels (if s == 0.0 then ⟨l, l, l⟩ else ofLightness (h.toFloat / 360.0) l s))
  | "hsv", [h, s, v] | "hsb", [h, s, v] =>
    if percents != [false, true, true] then none
    else some (Parts.levels (ofValue (h.toFloat / 360.0) (s.toFloat / 100.0) (v.toFloat / 100.0)))
  | _, _ => none

def unknownWords (text : String) : String := "unknown color specifier: " ++ quoted text

/-- The levels of a written colour: red, green and blue, and perhaps how solid it is. -/
def read (text : String) : Except String (List Nat) :=
  if 100 < text.length then .error "color specifier is too long"
  else
    let text := lowerCase text
    let found : Option (List Nat) := match colorNames.lookup text with
      | some n => some (levelsOf n)
      | none => match text.toList with
        | '#' :: rest =>
          let digits := match rest.reverse with
            | '\n' :: front => front.reverse
            | _ => rest
          match hexDigits? digits with
          | none => none
          | some ds =>
            if ds.length = 3 || ds.length = 4 then some (ds.map fun d => 17 * d)
            else if ds.length = 6 || ds.length = 8 then some (pairs ds) else none
        | cs =>
          let system := cs.takeWhile (· != '(')
          match cs.drop system.length with
          | _ :: rest => (amounts? 5 rest).bind (inSystem? (String.ofList system))
          | [] => none
    match found with
    | some levels => .ok levels
    | none => .error (unknownWords text)

end LiveSketch.Color

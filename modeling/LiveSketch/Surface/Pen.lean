import LiveSketch.Entry.Engine

/-!
# Drawing calls

Which calls a canvas accepts. A sheet accepts all of them; pixels know the calls below and look at
the coordinates of those that take some.
-/

namespace LiveSketch

def pixelCalls : List String :=
  ["arc", "bitmap", "chord", "circle", "ellipse", "getfont", "line", "multiline_text",
    "multiline_textbbox", "pieslice", "point", "polygon", "rectangle", "regular_polygon",
    "rounded_rectangle", "shape", "text", "textbbox", "textlength"]

/-- The calls whose first argument is a row of coordinates, with the words that refuse a wrong
number of them. -/
def coordinateCalls : List (String × (Nat → Option String)) :=
  let anyPoints (n : Nat) : Option String :=
    if n % 2 == 1 then some "wrong number of coordinates" else none
  let corners (n : Nat) : Option String :=
    if n % 2 == 1 then some "wrong number of coordinates"
    else if n == 4 then none
    else some "coordinate list must contain exactly 2 coordinates"
  let several (n : Nat) : Option String :=
    if n % 2 == 1 then some "wrong number of coordinates"
    else if n < 4 then some "coordinate list must contain at least 2 coordinates"
    else none
  [("point", anyPoints), ("line", anyPoints), ("polygon", several), ("rectangle", corners),
    ("ellipse", corners), ("arc", corners), ("chord", corners), ("pieslice", corners)]

/-- The coordinates in a row of numbers or of pairs. -/
def coordinateCount? : List Datum → Option Nat
  | [] => some 0
  | .int _ :: rest | .float _ :: rest | .bool _ :: rest => (coordinateCount? rest).map (· + 1)
  | .tuple [_, _] :: rest | .list [_, _] :: rest => (coordinateCount? rest).map (· + 2)
  | _ => none

def callFault (name words : String) : Except Fault Unit := .error (.plain name words)

def pixelsAccept (c : CanvasCall) : Except Fault Unit :=
  if !pixelCalls.contains c.method then
    callFault "AttributeError" ("'ImageDraw' object has no attribute '" ++ c.method ++ "'")
  else match coordinateCalls.find? (·.1 == c.method), c.arguments with
    | some (_, problem), .list items :: _ | some (_, problem), .tuple items :: _ =>
      match coordinateCount? items with
      | some n => match problem n with
        | some words => callFault "ValueError" words
        | none => .ok ()
      | none => callFault "ValueError" "incorrect coordinate type"
    | some _, [] => if c.named.any (·.1 == "xy") then .ok () else
      callFault "TypeError" ("ImageDraw." ++ c.method ++
        "() missing 1 required positional argument: 'xy'")
    | some _, _ :: _ => callFault "TypeError" "argument must be sequence"
    | none, _ => .ok ()

def Canvas.accepts : Canvas → CanvasCall → Except Fault Unit
  | .sheet, _ => .ok ()
  | .pixels _ _ _, c => pixelsAccept c

end LiveSketch

import LiveSketch.Surface.Mode

/-!
# Raster surfaces

A surface remembers the shapes drawn on it, the last first, and a pixel has the color of the first
of them that covers it. A new surface is black and, where there is an alpha channel, transparent.
-/

namespace LiveSketch

/-- The levels of a pixel's channels, each from 0 to 255. -/
abbrev Pixel := List Nat

/-- A shape: whether it covers a pixel. -/
inductive Shape where
  | rectangle (left top right bottom : Int)
  | points (places : List (Int × Int))
deriving DecidableEq, Repr

/-- The shape covers the pixel; rectangles include their corners. -/
def Shape.covers (x y : Int) : Shape → Bool
  | rectangle left top right bottom => left ≤ x && x ≤ right && top ≤ y && y ≤ bottom
  | points places => places.contains (x, y)

/-- What is wrong with a shape's corners. -/
def Shape.problem : Shape → Option String
  | rectangle left top right bottom =>
    if right < left then some "x1 must be greater than or equal to x0"
    else if bottom < top then some "y1 must be greater than or equal to y0"
    else none
  | points _ => none

/-- The points whose coordinates stand in a row. -/
def pointsIn : List Int → List (Int × Int)
  | x :: y :: rest => (x, y) :: pointsIn rest
  | _ => []

/-- The shape of a drawing call: a rectangle of four numbers, or points. -/
def Shape.ofCall? (method : String) (coordinates : List Int) : Option Shape :=
  match method, coordinates with
  | "rectangle", [left, top, right, bottom] => some (.rectangle left top right bottom)
  | "point", coordinates => some (.points (pointsIn coordinates))
  | _, _ => none

/-- The color a shape is filled with: one number, or levels for each channel. -/
inductive Fill where
  | level (n : Int)
  | levels (ns : List Int)
deriving DecidableEq, Repr

def clampLevel (n : Int) : Nat := min n.toNat 255

namespace ColorMode

def channels : ColorMode → Nat
  | rgba => 4
  | rgb => 3
  | gray => 1

/-- The pixel of a fill. A missing alpha is full and a superfluous one is dropped; a single number
for several channels holds them in its bytes, red lowest. -/
def ink (m : ColorMode) (fill : Fill) : Except String Pixel :=
  match m, fill with
  | gray, .level n | gray, .levels [n] => .ok [clampLevel n]
  | gray, .levels _ => .error "color must be int or single-element tuple"
  | m, .level n | m, .levels [n] =>
    .ok (((List.range 4).map fun k => ((n / 256 ^ k) % 256).toNat).take m.channels)
  | m, .levels [r, g, b] => .ok (([r, g, b, 255].map clampLevel).take m.channels)
  | m, .levels [r, g, b, a] => .ok (([r, g, b, a].map clampLevel).take m.channels)
  | _, .levels _ => .error "color must be int, or tuple of one, three or four elements"

end ColorMode

/-- The words that refuse a size. -/
def badSize : String := "Width and height must be >= 0"

/-- A surface with the shapes drawn on it, the last first. -/
structure Raster where
  mode : ColorMode
  width : Nat
  height : Nat
  strokes : List (Shape × Pixel)
deriving DecidableEq, Repr

namespace Raster

def new? (mode : ColorMode) (width height : Int) : Option Raster :=
  if 0 ≤ width ∧ 0 ≤ height then some ⟨mode, width.toNat, height.toNat, []⟩ else none

def draw (r : Raster) (shape : Shape) (fill : Fill) : Except String Raster :=
  (r.mode.ink fill).map fun pixel => { r with strokes := (shape, pixel) :: r.strokes }

/-- Draws a filled shape, unless its corners or its color are wrong. -/
def stroke (r : Raster) (shape : Shape) (fill : Fill) : Except Fault Raster :=
  match shape.problem with
  | some words => .error (.plain "ValueError" words)
  | none => (r.draw shape fill).mapError (Fault.plain "TypeError")

/-- A new surface of a named format. -/
def ofName (mode : String) (width height : Int) : Except Fault Raster :=
  match ColorMode.ofName? mode with
  | none => .error (.plain "ValueError" (ColorMode.unsupported mode))
  | some mode => match new? mode width height with
    | none => .error (.plain "ValueError" badSize)
    | some r => .ok r

/-- The pixel of a new surface. -/
def blank (r : Raster) : Pixel := List.replicate r.mode.channels 0

/-- The pixel at a place; negative places count from the far end. -/
def pixel? (r : Raster) (x y : Int) : Option Pixel :=
  let x := if x < 0 then x + r.width else x
  let y := if y < 0 then y + r.height else y
  if 0 ≤ x ∧ x < r.width ∧ 0 ≤ y ∧ y < r.height then
    some (((r.strokes.find? fun s => s.1.covers x y).map Prod.snd).getD r.blank)
  else none

end Raster

end LiveSketch

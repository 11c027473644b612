import LiveSketch.Color.Reader
import LiveSketch.Script.Library.Core

/-!
# Colours for scripts

Colour systems and written colours as scripts can import them.
-/

namespace LiveSketch.Script

namespace Library

open Run

def partsValue (c : Color.Parts) : Value := .tuple [.float c.first, .float c.second, .float c.third]

def levelsValue (levels : List Nat) : Value := .tuple (levels.map fun (n : Nat) => .int n)

/-- A function of the three parts of a colour, with their values as they were given. -/
def ofParts (name : String) (placed : List String) (f : List Value → Color.Parts → Run Value) :
    String × Native :=
  withNames ("colorsys." ++ name) placed 3 [] fun args => do
    match args with
    | [some a, some b, some c] => do
      f [a, b, c] ⟨← asFloat a, ← asFloat b, ← asFloat c⟩
    | _ => nothing

def greatestOf (vs : List Value) : Run Value := do
  match vs with
  | [] => nothing
  | v :: rest => rest.foldlM (fun m w => do
      return if ← truth (← compare .gt w m) then w else m) v

/-- Red, green and blue of hue, saturation and value; the value is a part as it was given. -/
def valueSystem (h s v : Value) (c : Color.Parts) : Run Value := do
  if c.second == 0.0 then pure (.tuple [v, v, v])
  else
    let k ← makeInt [some (← operate .mult h (.float 6.0)), none]
    let low := Color.lowerLevels c.second c.third (c.first * 6.0 - floatOfInt (k.int?.getD 0))
    let level (n : Nat) : Value :=
      if n = 0 then v else if n = 1 then .float low.first
      else if n = 2 then .float low.second else .float low.third
    discard (operate .sub (.float 1.0) s)
    pure (.tuple ((Color.sextant (k.int?.getD 0)).map level))

def systemShelf : Shelf :=
  let rgb := ["r", "g", "b"]
  [ofParts "rgb_to_yiq" rgb fun _ c => pure (partsValue (Color.toLuma c)),
    ofParts "yiq_to_rgb" ["y", "i", "q"] fun _ c =>
      pure (partsValue (Color.ofLuma c.first c.second c.third)),
    ofParts "rgb_to_hls" rgb fun _ c => do
      match Color.toLightness c with
      | some d => pure (partsValue d)
      | none => raise "ZeroDivisionError" "float division by zero",
    ofParts "hls_to_rgb" ["h", "l", "s"] fun vs c => do
      if c.third == 0.0 then
        let l := vs.getD 1 .none
        pure (.tuple [l, l, l])
      else pure (partsValue (Color.ofLightness c.first c.second c.third)),
    ofParts "rgb_to_hsv" rgb fun vs c => do
      let v ← greatestOf vs
      let high := Color.greatest c
      let low := Color.least c
      if low == high then pure (.tuple [.float 0.0, .float 0.0, v])
      else if high == 0.0 then raise "ZeroDivisionError" "float division by zero"
      else pure (.tuple [.float (Color.hue c), .float ((high - low) / high), v]),
    ofParts "hsv_to_rgb" ["h", "s", "v"] fun vs c =>
      valueSystem (vs.getD 0 .none) (vs.getD 1 .none) (vs.getD 2 .none) c]

/-- The levels of a written colour. -/
def readColor (v : Value) : Run (List Nat) := do
  match ← unwrap v with
  | .text s => match Color.read s with
    | .ok levels => pure levels
    | .error words => wrongValue words
  | _ =>
    match ← sizeOf? v with
    | none => wrongType ("object of type '" ++ (← typeName v) ++ "' has no len()")
    | some _ => raise "AttributeError" ("'" ++ (← typeName v) ++ "' object has no attribute 'lower'")

/-- The brightness of a colour as one level. -/
def brightness (r g b : Nat) : Nat := (r * 19595 + g * 38470 + b * 7471 + 0x8000) / 0x10000

/-- A written colour in a pixel format. -/
def colorInMode (levels : List Nat) (mode : String) : Run Value := do
  let alpha := levels.getD 3 255
  let r := levels.getD 0 0
  let g := levels.getD 1 0
  let b := levels.getD 2 0
  let part (n : Nat) : Float := Float.ofNat n / 255.0
  if mode == "HSV" then
    let c : Color.Parts := ⟨part r, part g, part b⟩
    let high := Color.greatest c
    let isGray := Color.least c == high
    let h := if isGray then 0.0 else Color.hue c
    let s := if isGray then 0.0 else (high - Color.least c) / high
    pure (.tuple ([h, s, high].map fun x => .int (truncated (x * 255.0))))
  else if ["L", "LA", "La", "1", "I", "F", "P", "PA", "I;16"].contains mode then
    let gray := brightness r g b
    pure (if mode.endsWith "A" then levelsValue [gray, alpha] else .int gray)
  else if ["RGB", "RGBA", "RGBX", "CMYK", "YCbCr", "LAB", "RGBa"].contains mode then
    pure (levelsValue (if mode.endsWith "A" then [r, g, b, alpha] else [r, g, b]))
  else raiseWith "KeyError" [.text mode]

def writtenColorShelf : Shelf :=
  [withNames "PIL.ImageColor.getrgb" ["color"] 1 [] fun args => do
      return levelsValue (← readColor (Value.ofOption (args[0]?).join)),
    withNames "PIL.ImageColor.getcolor" ["color", "mode"] 2 [] fun args => do
      let levels ← readColor (Value.ofOption (args[0]?).join)
      colorInMode levels (← textArgument (Value.ofOption (args[1]?).join) "mode must be str, not ")]

def colorShelf : Shelf := systemShelf ++ writtenColorShelf

end Library

end LiveSketch.Script

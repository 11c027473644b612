/-!
# Colour systems

Colours as red, green and blue, as hue, lightness and saturation, as hue, saturation and value, and
as luma and chroma. All parts are numbers between zero and one.
-/

namespace LiveSketch.Color

/-- A colour in three parts. -/
structure Parts where
  first : Float
  second : Float
  third : Float
deriving Inhabited

/-- What is left of a number above the next whole one below it. -/
def fraction (x : Float) : Float :=
  let r := x - x.floor
  if x < 0.0 && r == 1.0 then 0.0 else r

def greatest (c : Parts) : Float :=
  let m := if c.second > c.first then c.second else c.first
  if c.third > m then c.third else m

def least (c : Parts) : Float :=
  let m := if c.second < c.first then c.second else c.first
  if c.third < m then c.third else m

/-- A number brought between zero and one. -/
def clamp (x : Float) : Float := if x < 0.0 then 0.0 else if x > 1.0 then 1.0 else x

/-- The hue of a colour that is not gray. -/
def hue (c : Parts) : Float :=
  let high := greatest c
  let range := high - least c
  let r := (high - c.first) / range
  let g := (high - c.second) / range
  let b := (high - c.third) / range
  let h := if c.first == high then b - g else if c.second == high then 2.0 + r - b else 4.0 + g - r
  fraction (h / 6.0)

/-- A level by its hue, between a low and a high level. -/
def levelAt (low high h : Float) : Float :=
  let h := fraction h
  if h < 1.0 / 6.0 then low + (high - low) * h * 6.0
  else if h < 0.5 then high
  else if h < 2.0 / 3.0 then low + (high - low) * (2.0 / 3.0 - h) * 6.0
  else low

/-- Hue, lightness and saturation of red, green and blue; nothing for a colour whose saturation
would be a division by zero. -/
def toLightness (c : Parts) : Option Parts :=
  let high := greatest c
  let low := least c
  let sum := high + low
  let l := sum / 2.0
  if low == high then some ⟨0.0, l, 0.0⟩
  else
    let whole := if l ≤ 0.5 then sum else 2.0 - sum
    if whole == 0.0 then none else some ⟨hue c, l, (high - low) / whole⟩

/-- Red, green and blue of hue, lightness and saturation, for a colour that is not gray. -/
def ofLightness (h l s : Float) : Parts :=
  let high := if l ≤ 0.5 then l * (1.0 + s) else l + s - l * s
  let low := 2.0 * l - high
  ⟨levelAt low high (h + 1.0 / 3.0), levelAt low high h, levelAt low high (h - 1.0 / 3.0)⟩

/-- Luma and chroma of red, green and blue. -/
def toLuma (c : Parts) : Parts :=
  let y := 0.30 * c.first + 0.59 * c.second + 0.11 * c.third
  ⟨y, 0.74 * (c.first - y) - 0.27 * (c.third - y), 0.48 * (c.first - y) + 0.41 * (c.third - y)⟩

/-- Red, green and blue of luma and chroma. -/
def ofLuma (y i q : Float) : Parts :=
  ⟨clamp (y + 0.9468822170900693 * i + 0.6235565819861433 * q),
    clamp (y - 0.27478764629897834 * i - 0.6356910791873801 * q),
    clamp (y - 1.1085450346420322 * i + 1.7090069284064666 * q)⟩

/-- The places of the three levels of hue, saturation and value: which of them is the value itself
(0), and which are the lower ones. -/
def sextant (k : Int) : List Nat :=
  match k % 6 with
  | 0 => [0, 3, 1]
  | 1 => [2, 0, 1]
  | 2 => [1, 0, 3]
  | 3 => [1, 2, 0]
  | 4 => [3, 1, 0]
  | _ => [0, 1, 2]

/-- The lower levels of hue, saturation and value: full, falling and rising. -/
def lowerLevels (s v f : Float) : Parts :=
  ⟨v * (1.0 - s), v * (1.0 - s * f), v * (1.0 - s * (1.0 - f))⟩

end LiveSketch.Color

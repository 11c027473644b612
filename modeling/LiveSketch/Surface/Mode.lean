import LiveSketch.Entry.Engine

/-!
# Pixel formats

The pixel formats that surfaces support, by name.
-/

namespace LiveSketch

namespace ColorMode

def name : ColorMode → String
  | rgba => "RGBA"
  | rgb => "RGB"
  | gray => "L"

def all : List ColorMode := [rgba, rgb, gray]

def ofName? (name : String) : Option ColorMode := all.find? fun m => m.name == name

/-- The words that refuse an unknown name. -/
def unsupported (name : String) : String :=
  "Unsupported color mode `" ++ name ++ "`, expected one of ('RGBA', 'RGB', 'L')"

end ColorMode

end LiveSketch

import LiveSketch.Text.Classes
import LiveSketch.Text.Identifier
import LiveSketch.Text.Lowercase

/-!
# Upper case and kinds of characters

The upper case of a text, character by character: the capital whose small letter a character is, and
for some characters several capitals. Words start with a capital and go on with small letters.
-/

namespace LiveSketch

/-- Characters whose upper case is not the capital that they are the small letter of. -/
def upperExceptions : List (Nat × List Nat) :=
  [(0xB5, [0x39C]), (0xDF, [0x53, 0x53]), (0x131, [0x49]), (0x149, [0x2BC, 0x4E]), (0x17F, [0x53]),
    (0x1C5, [0x1C4]), (0x1C8, [0x1C7]), (0x1CB, [0x1CA]), (0x1F0, [0x4A, 0x30C]), (0x1F2, [0x1F1]),
    (0x345, [0x399]), (0x390, [0x399, 0x308, 0x301]), (0x3B0, [0x3A5, 0x308, 0x301]),
    (0x3C2, [0x3A3]), (0x3D0, [0x392]), (0x3D1, [0x398]), (0x3D5, [0x3A6]), (0x3D6, [0x3A0]),
    (0x3F0, [0x39A]), (0x3F1, [0x3A1]), (0x3F5, [0x395]), (0x587, [0x535, 0x552]),
    (0x1E96, [0x48, 0x331]), (0x1E97, [0x54, 0x308]), (0x1E98, [0x57, 0x30A]),
    (0x1E99, [0x59, 0x30A]), (0x1E9A, [0x41, 0x2BE]), (0x1E9B, [0x1E60]), (0x1FBE, [0x399]),
    (0xFB00, [0x46, 0x46]), (0xFB01, [0x46, 0x49]), (0xFB02, [0x46, 0x4C]),
    (0xFB03, [0x46, 0x46, 0x49]), (0xFB04, [0x46, 0x46, 0x4C]), (0xFB05, [0x53, 0x54]),
    (0xFB06, [0x53, 0x54])]

/-- The capital that a character is the small letter of, the first if there are several. -/
def capitalOf? (n : Nat) : Option Nat :=
  capitalRuns.findSome? fun (first, last, step, delta) =>
    let capital := (n : Int) - delta
    if first ≤ capital && capital ≤ last && (capital - first) % step == 0 then some capital.toNat
    else none

/-- The upper case of a character. -/
def upperChars (c : Char) : List Char :=
  if c.toNat < 0x80 then [c.toUpper]
  else match upperExceptions.lookup c.toNat with
    | some ns => ns.map Char.ofNat
    | none => [((capitalOf? c.toNat).map Char.ofNat).getD c]

def upperCase (text : String) : String := String.ofList (text.toList.flatMap upperChars)

/-- Characters for two letters, with the one that stands for a capital and a small letter. -/
def digraphs : List (Nat × Nat) :=
  [(0x1C4, 0x1C5), (0x1C7, 0x1C8), (0x1CA, 0x1CB), (0x1F1, 0x1F2)]

/-- The character for a capital and a small letter, for a character of two letters. -/
def titleDigraph? (n : Nat) : Option Nat :=
  digraphs.findSome? fun (first, title) => if first ≤ n && n ≤ first + 2 then some title else none

/-- The letter begins words in its small form. -/
def staysSmall (n : Nat) : Bool := 0x10D0 ≤ n && n ≤ 0x10FF

/-- The first character of a word: one capital, then small letters. -/
def titleChars (c : Char) : List Char :=
  match titleDigraph? c.toNat with
  | some n => [Char.ofNat n]
  | none =>
    if staysSmall c.toNat then [c]
    else match upperChars c with
      | u :: rest => u :: rest.map lowerChar
      | [] => []

/-- A text whose first character is a capital and all others are small. -/
def capitalized (text : String) : String :=
  match text.toList with
  | [] => ""
  | c :: rest => String.ofList (titleChars c ++ lowerAfter [c] rest)

def isCased (c : Char) : Bool :=
  if c.toNat < 0x80 then c.isAlpha else inRanges casedRanges c.toNat

def isCapital (c : Char) : Bool :=
  if c.toNat < 0x80 then c.isUpper else isCased c && lowerChar c != c

/-- The character is a small letter. -/
def isSmall (c : Char) : Bool :=
  if c.toNat < 0x80 then c.isLower else isCased c && lowerChar c == c

/-- Words with a capital at the start and small letters after it; `after` tells whether a cased
character stands before. -/
def titleAfter (after : Bool) (before : List Char) : List Char → List Char
  | [] => []
  | c :: rest =>
    let written := if after then (lowerAfter before (c :: rest)).take 1 else titleChars c
    written ++ titleAfter (isCased c) (c :: before) rest

/-- A text whose words all start with a capital. -/
def titleCase (text : String) : String := String.ofList (titleAfter false [] text.toList)

/-- A text with capitals for small letters, and the other way round. -/
def swappedCase (text : String) : String :=
  String.ofList (text.toList.flatMap fun c =>
    if isCapital c then [lowerChar c] else if isSmall c then upperChars c else [c])

/-- All words of a text start with a capital, and there is one; `after` tells whether a cased
character stands before. -/
def isTitleAfter (after found : Bool) : List Char → Bool
  | [] => found
  | c :: rest =>
    if isCapital c then !after && isTitleAfter true true rest
    else if isSmall c then after && isTitleAfter true found rest
    else isTitleAfter false found rest

/-! ## Letters and numbers -/

/-- Letter-like numbers, which may start a name without being letters. -/
def letterNumberRanges : List (Nat × Nat) :=
  [(0x16EE, 0x16F0), (0x2118, 0x2118), (0x212E, 0x212E), (0x2160, 0x2182), (0x2185, 0x2188),
    (0x3007, 0x3007), (0x3021, 0x3029), (0x3038, 0x303A), (0xA6E6, 0xA6EF), (0x10140, 0x10174),
    (0x10341, 0x10341), (0x1034A, 0x1034A), (0x103D1, 0x103D5), (0x12400, 0x1246E)]

def isLetter (c : Char) : Bool :=
  if c.toNat < 0x80 then c.isAlpha
  else isNameStart c && !inRanges letterNumberRanges c.toNat

/-- Digits that are written as marks: raised, lowered, or in circles. -/
def markedDigitRanges : List (Nat × Nat) :=
  [(0xB2, 0xB3), (0xB9, 0xB9), (0x1369, 0x1371), (0x19DA, 0x19DA), (0x2070, 0x2070),
    (0x2074, 0x2079), (0x2080, 0x2089), (0x2460, 0x2468), (0x2474, 0x247C), (0x2488, 0x2490),
    (0x24EA, 0x24EA), (0x24F5, 0x24FD), (0x24FF, 0x24FF), (0x2776, 0x277E), (0x2780, 0x2788),
    (0x278A, 0x2792), (0x1F100, 0x1F10A)]

/-- The character is a digit, also one written as a mark. -/
def isAnyDigit (c : Char) : Bool := (digitValue? c).isSome || inRanges markedDigitRanges c.toNat

/-- Other characters that stand for numbers. -/
def otherNumberRanges : List (Nat × Nat) :=
  [(0xBC, 0xBE), (0x9F4, 0x9F9), (0x1372, 0x137C), (0x2150, 0x215F), (0x2160, 0x2182),
    (0x2185, 0x2189), (0x2469, 0x2473), (0x247D, 0x2487), (0x2491, 0x249B), (0x24EB, 0x24F4),
    (0x24FE, 0x24FE), (0x277F, 0x277F), (0x2789, 0x2789), (0x2793, 0x2793), (0x3007, 0x3007),
    (0x3021, 0x3029), (0x3192, 0x3195), (0x3220, 0x3229), (0x3280, 0x3289), (0x4E00, 0x4E00),
    (0x4E03, 0x4E03), (0x4E07, 0x4E07), (0x4E09, 0x4E09), (0x4E5D, 0x4E5D), (0x4E8C, 0x4E8C),
    (0x4E94, 0x4E94), (0x516B, 0x516B), (0x516D, 0x516D), (0x5341, 0x5341), (0x5343, 0x5343),
    (0x56DB, 0x56DB), (0x767E, 0x767E)]

/-- The character stands for a number. -/
def isNumeric (c : Char) : Bool := isAnyDigit c || inRanges otherNumberRanges c.toNat

end LiveSketch

import LiveSketch.Text.Printable

/-!
# Quoted text

The quoted form of a text: double quotes when it holds single ones and no double ones, single
quotes otherwise; the quote, the backslash and everything unprintable are escaped.
-/

namespace LiveSketch

/-- A number in base 16 with small letters, padded with zeros to a width. -/
def hexText (width n : Nat) : String :=
  let digits := Nat.toDigits 16 n
  String.ofList (List.replicate (width - digits.length) '0' ++ digits)

def numberEscape (c : Char) : String :=
  if c.toNat ≤ 0xFF then "\\x" ++ hexText 2 c.toNat
  else if c.toNat ≤ 0xFFFF then "\\u" ++ hexText 4 c.toNat
  else "\\U" ++ hexText 8 c.toNat

def quotedChar (quote c : Char) : String :=
  if c == quote || c == '\\' then String.ofList ['\\', c]
  else if c == '\n' then "\\n"
  else if c == '\r' then "\\r"
  else if c == '\t' then "\\t"
  else if isPrintable c then String.singleton c
  else numberEscape c

/-- The quote that a text is put in. -/
def quoteFor (cs : List Char) : Char :=
  if cs.contains '\x27' && !cs.contains '\x22' then '\x22' else '\x27'

def quoted (text : String) : String :=
  let cs := text.toList
  let quote := quoteFor cs
  String.singleton quote ++ String.join (cs.map (quotedChar quote)) ++ String.singleton quote

/-- The quoted form of a text with everything above ASCII escaped. -/
def quotedAscii (text : String) : String :=
  String.join ((quoted text).toList.map fun c =>
    if c.toNat < 0x80 then String.singleton c else numberEscape c)

end LiveSketch

import LiveSketch.Fault.Datum

/-!
# Writing data to the wire

Plain data as text that an editor can read: no blanks, and texts in double quotes.
-/

namespace LiveSketch.Wire

/-- A character inside double quotes. -/
def writtenChar (c : Char) : String :=
  if c == '\x22' || c == '\\' then String.ofList ['\\', c]
  else if c == '\n' then "\\n"
  else if c == '\r' then "\\r"
  else if c == '\t' then "\\t"
  else if c.toNat < 0x20 then "\\u" ++ hexText 4 c.toNat
  else String.singleton c

def writtenText (s : String) : String :=
  "\x22" ++ String.join (s.toList.map writtenChar) ++ "\x22"

mutual

/-- A value as text. Names of entries are texts. -/
def written : Datum → String
  | .none | .object _ => "null"
  | .bool value => if value then "true" else "false"
  | .int value => toString value
  | .float value => if value.isFinite then floatText value else "null"
  | .text value => writtenText value
  | .list items | .tuple items => "[" ++ String.intercalate "," (writtenItems items) ++ "]"
  | .dict entries => "\x7b" ++ String.intercalate "," (writtenEntries entries) ++ "\x7d"

def writtenItems : List Datum → List String
  | [] => []
  | item :: rest => written item :: writtenItems rest

def writtenEntries : List (Datum × Datum) → List String
  | [] => []
  | (name, value) :: rest => (writtenText name.plain ++ ":" ++ written value) :: writtenEntries rest

end

end LiveSketch.Wire

import LiveSketch.Decimal.Shortest
import LiveSketch.Text.Quoted

/-!
# Data that cross the border of a script

The plain values that a script hands to its host: arguments of drawing calls and of faults. Anything
else is known by the name of its type.
-/

namespace LiveSketch

/-- A plain value. Dictionaries keep the order of insertion. -/
inductive Datum where
  | none
  | bool (value : Bool)
  | int (value : Int)
  | float (value : Float)
  | text (value : String)
  | list (items : List Datum)
  | tuple (items : List Datum)
  | dict (entries : List (Datum × Datum))
  | object (type : String)
deriving Inhabited

namespace Datum

def typeName : Datum → String
  | none => "NoneType"
  | bool _ => "bool"
  | int _ => "int"
  | float _ => "float"
  | text _ => "str"
  | list _ => "list"
  | tuple _ => "tuple"
  | dict _ => "dict"
  | object type => type

mutual

/-- The value as it would be written in a script. -/
def shown : Datum → String
  | none => "None"
  | bool value => if value then "True" else "False"
  | int value => toString value
  | float value => floatText value
  | text value => quoted value
  | list items => "[" ++ shownAll items ++ "]"
  | tuple [item] => "(" ++ shown item ++ ",)"
  | tuple items => "(" ++ shownAll items ++ ")"
  | dict entries => "\x7b" ++ shownEntries entries ++ "\x7d"
  | object type => "<" ++ type ++ " object>"

/-- Values in a row, with a comma and a space between them. -/
def shownAll : List Datum → String
  | [] => ""
  | [item] => shown item
  | item :: rest => shown item ++ ", " ++ shownAll rest

/-- The entries of a dictionary in a row. -/
def shownEntries : List (Datum × Datum) → String
  | [] => ""
  | [(key, value)] => shown key ++ ": " ++ shown value
  | (key, value) :: rest => shown key ++ ": " ++ shown value ++ ", " ++ shownEntries rest

end

/-- The value as plain text: a text is itself, anything else as it would be written. -/
def plain : Datum → String
  | text value => value
  | other => other.shown

end Datum

end LiveSketch

import LiveSketch.Script.Format.Spec
import LiveSketch.Script.Machine.Group
import LiveSketch.Script.Machine.Operate
import LiveSketch.Script.Value.SetOrder
import LiveSketch.Text.Quoted

/-!
# Values as text

A value has a text that shows what it is, and a plain text; both can be said by its class.
-/

namespace LiveSketch.Script

/-- The text of a row of bytes, in quotes. -/
def bytesShown (bs : List UInt8) : String :=
  let cs := bs.map fun b => Char.ofNat b.toNat
  let quote := quoteFor cs
  let one (c : Char) : String :=
    if c == quote || c == '\\' then String.ofList ['\\', c]
    else if c == '\n' then "\\n"
    else if c == '\r' then "\\r"
    else if c == '\t' then "\\t"
    else if 0x20 ≤ c.toNat && c.toNat < 0x7F then String.singleton c
    else "\\x" ++ hexText 2 c.toNat
  "b" ++ String.singleton quote ++ String.join (cs.map one) ++ String.singleton quote

/-- The text of a part of a complex number. -/
def partText (x : Float) : String :=
  let text := floatText x
  if text.endsWith ".0" then (text.dropEnd 2).toString else text

/-- The text of a complex number. -/
def complexShown (re im : Float) : String :=
  if re == 0.0 && !isNegative re then partText im ++ "j"
  else
    let imText := partText im
    let sign := if imText.startsWith "-" then "" else "+"
    "(" ++ partText re ++ sign ++ imText ++ "j)"

/-- The text of a value that is known without looking at objects. -/
def shown? : Value → Option String
  | .none => some "None"
  | .ellipsis => some "Ellipsis"
  | .notImplemented => some "NotImplemented"
  | .bool b => some (if b then "True" else "False")
  | .int n => if isTooLong n then none else some (toString n)
  | .float x => some (floatText x)
  | .complex re im => some (complexShown re im)
  | .text s => some (quoted s)
  | .bytes bs => some (bytesShown bs)
  | .range a b c =>
    if isTooLong a || isTooLong b || isTooLong c then none
    else some ("range(" ++ toString a ++ ", " ++ toString b ++
      (if c = 1 then "" else ", " ++ toString c) ++ ")")
  | .type name => some ("<class '" ++ name ++ "'>")
  | _ => none

namespace Run

def addressText (n : Nat) : String := "0x" ++ hexText 12 (0x7F0000000000 + 16 * n)

/-- The text that shows a value, by way of the machine. -/
def innerShown (v : Value) : Run String := do
  match shown? v with
  | some s => pure s
  | none => match ← native "repr" [v] with
    | .text s => pure s
    | _ => pure ""

/-- The texts of values in a row. -/
def rowShown (vs : List Value) : Run String := do
  return ", ".intercalate (← vs.mapM innerShown)

/-- Does something while an object is being shown; another text stands for an object inside itself. -/
def whileShowing (address : Nat) (inside : String) (x : Run String) : Run String := do
  let before := (← getThe World).showing
  if before.contains address then return inside
  modifyThe World fun w => { w with showing := address :: before }
  let restore : Run Unit := modifyThe World fun w => { w with showing := before }
  let s ← orElse x fun fault => do
    restore
    raiseFault fault
  restore
  pure s

/-- The entries of a dictionary as text. -/
def entriesShown (t : Table) : Run String := do
  let entries ← t.toList.mapM fun e => do
    return (← innerShown e.name) ++ ": " ++ (← innerShown e.value)
  return "\x7b" ++ ", ".intercalate entries ++ "\x7d"

/-- The arguments of a fault as text, with its type. -/
def faultShown (type : String) (arguments : List Value) : Run String := do
  return lastPart type ++ "(" ++ (← rowShown arguments) ++ ")"

/-- The text of an object of which nothing is known but its class. -/
def objectShown (v : Value) (address : Nat) : Run String := do
  let cls ← typeOf v
  let name ← match cls with
    | .type t => pure t
    | cls => return "<" ++ (← moduleOfClass cls) ++ "." ++ (← fullNameOfClass cls) ++ " object at " ++
        addressText address ++ ">"
  pure ("<" ++ name ++ " object at " ++ addressText address ++ ">")

/-- The text that shows an object of the store by what it holds. -/
def dataShown (v : Value) (address : Nat) : Run String := do
  let o ← object address
  match o.data with
  | .list items => whileShowing address "[...]" do
    return "[" ++ (← rowShown items.toList) ++ "]"
  | .dict t => whileShowing address "\x7b...\x7d" do
    let text ← entriesShown t
    match o.cls with
    | .type "dict" | .ref _ => pure text
    | .type name => pure (lastPart name ++ "(" ++ text ++ ")")
    | _ => pure text
  | .members owner => do
    let text ← entriesShown (← object owner).attrs
    pure (if o.cls.same (.type "mappingproxy") then "mappingproxy(" ++ text ++ ")" else text)
  | .set t => whileShowing address "set(...)" do
    let name ← nameOfClass o.cls
    let row ← rowShown (t.inSetOrder.map Entry.name)
    if t.size = 0 then pure (name ++ "()")
    else if name == "set" then pure ("\x7b" ++ row ++ "\x7d")
    else pure (name ++ "(\x7b" ++ row ++ "\x7d)")
  | .fault f => faultShown (← nameOfClass o.cls) f.arguments
  | .function f => do
    let name ← functionMember? f o.attrs "__qualname__"
    let name := match name with
      | some (.text s) => s
      | _ => ""
    pure ("<function " ++ name ++ " at " ++ addressText address ++ ">")
  | .cls c => pure ("<class '" ++ (← moduleOfClass v) ++ "." ++ c.fullName ++ "'>")
  | .module name => pure ("<module '" ++ name ++ "'>")
  | .wraps inner => innerShown inner
  | .parts vs => match o.cls with
    | .type "types.UnionType" => do
      let names ← vs.mapM fun p => do
        match p with
        | .type "NoneType" => pure "None"
        | p => if ← isClass p then fullNameOfClass p else innerShown p
      pure (" | ".intercalate names)
    | _ => objectShown v address
  | _ => objectShown v address

/-- The text that shows a function of the language itself. -/
def nativeShown (name : String) : String :=
  let last := lastPart name
  let member (kind : String) := "<" ++ kind ++ " '" ++ last ++ "' of '" ++ ownerPart name ++ "' objects>"
  match nativeType name with
  | "Quitter" => "Use " ++ name ++ "() or Ctrl-D (i.e. EOF) to exit"
  | "_Helper" => "Type help() for interactive help, or help(object) for help about object."
  | "wrapper_descriptor" => member "slot wrapper"
  | "method_descriptor" => member "method"
  | "function" => "<function " ++ last ++ " at " ++ addressText 0 ++ ">"
  | "method" => "<bound method Random." ++ last ++ " of <random.Random object at " ++ addressText 0 ++ ">>"
  | _ => "<built-in function " ++ last ++ ">"

/-- The text that shows a value, as its class or the language says. -/
def shown (v : Value) : Run String := do
  match shown? v with
  | some s => return s
  | none => pure ()
  match v with
  | .tuple [item] => return "(" ++ (← innerShown item) ++ ",)"
  | .tuple items => return "(" ++ (← rowShown items) ++ ")"
  | .slice a b c => return "slice(" ++ (← rowShown [a, b, c]) ++ ")"
  | .native name => return nativeShown name
  | .method self name =>
    return "<built-in method " ++ lastPart name ++ " of " ++ (← typeName self) ++ " object at " ++
      addressText 0 ++ ">"
  | .bound self f =>
    let name ← getMember f "__qualname__"
    let name := match name with
      | .text s => s
      | _ => "?"
    return "<bound method " ++ name ++ " of " ++ (← innerShown self) ++ ">"
  | .ref a =>
    let said ← if ← isClass v then askClass? v "__repr__" [] else callSpecial? v "__repr__" []
    match said with
    | some (.text s) => return s
    | some other =>
      match ← unwrap other with
      | .text s => return s
      | _ => wrongType ("__repr__ returned non-string (type " ++ (← typeName other) ++ ")")
    | none => pure ()
    match (← object a).cls with
    | .type t =>
      if ← knows (t ++ ".__repr__") then
        match ← native (t ++ ".__repr__") [v] with
        | .text s => return s
        | _ => pure ()
    | _ => pure ()
    dataShown v a
  | .int _ | .range _ _ _ => wrongValue tooLongWords
  | .canvas => return "<Canvas object at " ++ addressText 0 ++ ">"
  | .canvasCall name => return "<function " ++ name ++ " at " ++ addressText 0 ++ ">"
  | _ => return "?"

/-- The words of a fault over a text: its message, and its place as far as it is known. -/
def placedWords (v : Value) (message : String) : Run String := do
  let file := match ← getMember v "filename" with
    | .text file => some ((file.splitOn "/").getLastD file)
    | _ => none
  let line := match ← getMember v "lineno" with
    | .int n => some ("line " ++ toString n)
    | _ => none
  let place := ", ".intercalate (file.toList ++ line.toList)
  pure (if place.isEmpty then message else message ++ " (" ++ place ++ ")")

/-- The words of a fault over characters or bytes of some places that an encoding does not have. -/
def encodingWords? (arguments : List Value) : Option String :=
  match arguments with
  | [.text encoding, row, .int start, .int stop, .text reason] =>
    let head (what one : String) : String :=
      "'" ++ encoding ++ "' codec can't " ++ what ++ " " ++
        (if stop = start + 1 then one ++ " in position " ++ toString start
          else (if what == "decode" then "bytes" else "characters") ++ " in position " ++
            toString start ++ "-" ++ toString (stop - 1)) ++ ": " ++ reason
    match row with
    | .bytes bs => (bs[start.toNat]?).map fun b => head "decode" ("byte 0x" ++ hexText 2 b.toNat)
    | .text s => (s.toList[start.toNat]?).map fun c =>
        head "encode" ("character '" ++ numberEscape c ++ "'")
    | _ => none
  | _ => none

/-- The words of a fault by the rules of its type. -/
def faultWordsOf (v : Value) (f : FaultData) : Run String := do
  let one (a : Value) : Run String := do
    match a with
    | .text s => pure s
    | a => match ← native "str" [a] with
      | .text s => pure s
      | w => match ← unwrap w with
        | .text s => pure s
        | _ => pure ""
  if ← isGroup v then return ← groupWords v
  if ← isOfType v "SyntaxError" then return ← placedWords v (← one (← getMember v "msg"))
  if ← isOfType v "UnicodeError" then
    if let some words := encodingWords? f.arguments then return words
  match f.arguments with
  | [] => pure ""
  | [a] =>
    if ← isOfType v "KeyError" then innerShown a else one a
  | vs =>
    if ← isOfType v "OSError" then
      match vs with
      | [number, text] => return "[Errno " ++ (← one number) ++ "] " ++ (← one text)
      | number :: text :: file :: rest =>
        let words := "[Errno " ++ (← one number) ++ "] " ++ (← one text) ++ ": " ++ (← innerShown file)
        match rest with
        | [_, second] => return words ++ " -> " ++ (← innerShown second)
        | _ => pure words
      | _ => pure ""
    else if ← isOfType v "ImportError" then innerShown (.tuple vs)
    else innerShown (.tuple vs)

/-- The plain text of a value, as its class or the language says. -/
def plainText (v : Value) : Run String := do
  match v with
  | .text s => pure s
  | .ref a =>
    match ← callSpecial? v "__str__" [] with
    | some (.text s) => pure s
    | some other =>
      match ← unwrap other with
      | .text s => pure s
      | _ => wrongType ("__str__ returned non-string (type " ++ (← typeName other) ++ ")")
    | none =>
      let o ← object a
      match o.data, o.cls with
      | .fault f, _ => faultWordsOf v f
      | .wraps (.text s), _ => pure s
      | _, .type t =>
        if ← knows (t ++ ".__str__") then
          match ← native (t ++ ".__str__") [v] with
          | .text s => pure s
          | _ => shown v
        else shown v
      | _, _ => shown v
  | _ => shown v

/-- A value written by a format specification. -/
def formatted (v : Value) (spec : String) : Run String := do
  let checked (x : Except String String) : Run String := do
    match x with
    | .ok s => pure s
    | .error words =>
      if rangeWords.contains words then raise "OverflowError" words else wrongValue words
  match ← callSpecial? v "__format__" [.text spec] with
  | some (.text s) => return s
  | some other =>
    wrongType ("__format__ must return a str, not " ++ (← typeName other))
  | none => pure ()
  if spec.isEmpty then return ← plainText v
  match ← unwrap v with
  | .text s => checked (formatText spec s)
  | .int n => checked (formatInt spec "int" n)
  | .bool b => checked (formatInt spec "bool" (if b then 1 else 0))
  | .float x => checked (formatFloat spec x)
  | .complex re im => do
    let part (x : Float) (signed : Bool) : Run String :=
      checked (formatFloat ((if signed then "+" else "") ++ spec) x)
    return (← part re false) ++ (← part im true) ++ "j"
  | _ => wrongType ("unsupported format string passed to " ++ (← typeName v) ++ ".__format__")

end Run

end LiveSketch.Script

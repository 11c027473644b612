import LiveSketch.Script.Machine.World

/-!
# Types

The types of the language and what each extends, and the type of a value. A class of the script
extends types and classes; members are looked up in all of them, in the class's order.
-/

namespace LiveSketch.Script

def faultTypes : List (String × String) :=
  let under (base : String) (names : List String) : List (String × String) := names.map (·, base)
  under "object" ["BaseException"] ++
  under "BaseException" ["Exception", "SystemExit", "KeyboardInterrupt", "GeneratorExit",
    "BaseExceptionGroup"] ++
  under "Exception" ["ArithmeticError", "AssertionError", "AttributeError", "BufferError", "EOFError",
    "ImportError", "LookupError", "MemoryError", "NameError", "OSError", "ReferenceError",
    "RuntimeError", "StopAsyncIteration", "StopIteration", "SyntaxError", "SystemError", "TypeError",
    "ValueError", "Warning"] ++
  under "BaseExceptionGroup" ["ExceptionGroup"] ++
  under "ArithmeticError" ["FloatingPointError", "OverflowError", "ZeroDivisionError"] ++
  under "ImportError" ["ModuleNotFoundError"] ++
  under "LookupError" ["IndexError", "KeyError"] ++
  under "NameError" ["UnboundLocalError"] ++
  under "OSError" ["BlockingIOError", "ChildProcessError", "ConnectionError", "FileExistsError",
    "FileNotFoundError", "InterruptedError", "IsADirectoryError", "NotADirectoryError",
    "PermissionError", "ProcessLookupError", "TimeoutError"] ++
  under "ConnectionError" ["BrokenPipeError", "ConnectionAbortedError", "ConnectionRefusedError",
    "ConnectionResetError"] ++
  under "RuntimeError" ["NotImplementedError", "RecursionError"] ++
  under "SyntaxError" ["IndentationError"] ++
  under "IndentationError" ["TabError"] ++
  under "ValueError" ["UnicodeError", "statistics.StatisticsError"] ++
  under "UnicodeError" ["UnicodeDecodeError", "UnicodeEncodeError", "UnicodeTranslateError"] ++
  under "AttributeError" ["dataclasses.FrozenInstanceError"] ++
  under "Warning" ["BytesWarning", "DeprecationWarning", "EncodingWarning", "FutureWarning",
    "ImportWarning", "PendingDeprecationWarning", "ResourceWarning", "RuntimeWarning",
    "SyntaxWarning", "UnicodeWarning", "UserWarning"]

/-- Names that stand for another type. -/
def typeAliases : List (String × String) :=
  [("IOError", "OSError"), ("EnvironmentError", "OSError")]

/-- The other types that extend something more than the type of all values. -/
def extendingTypes : List (String × String) :=
  [("bool", "int"), ("enum.EnumType", "type"), ("typing.NamedTupleMeta", "type"),
    ("typing._TypedDictMeta", "type"), ("enum.ReprEnum", "enum.Enum"),
    ("enum.Flag", "enum.Enum")]

/-- The types that extend more than one type, with all that they extend in order. -/
def manyBased : List (String × List String) :=
  [("ExceptionGroup", ["BaseExceptionGroup", "Exception", "BaseException", "object"]),
    ("enum.IntEnum", ["int", "enum.ReprEnum", "enum.Enum", "object"]),
    ("enum.StrEnum", ["str", "enum.ReprEnum", "enum.Enum", "object"]),
    ("enum.IntFlag", ["int", "enum.ReprEnum", "enum.Flag", "enum.Enum", "object"])]

/-- The types whose own type is another one than that of all types. -/
def typesOfTypes : List (String × String) :=
  (["Enum", "ReprEnum", "IntEnum", "StrEnum", "Flag", "IntFlag"].map fun n =>
    ("enum." ++ n, "enum.EnumType")) ++
  [("typing.NamedTuple", "typing.NamedTupleMeta"), ("typing.TypedDict", "typing._TypedDictMeta")]

/-- Names of types as hints give them, with the types that are meant. -/
def formTypes : List (String × String) :=
  [("List", "list"), ("Dict", "dict"), ("Set", "set"), ("FrozenSet", "frozenset"),
    ("Tuple", "tuple"), ("Type", "type"), ("DefaultDict", "dict"), ("OrderedDict", "dict")]

/-- The types that say nothing about how objects hold their data. -/
def shapelessTypes : List String :=
  ["enum.Enum", "enum.ReprEnum", "enum.IntEnum", "enum.StrEnum", "enum.Flag", "enum.IntFlag",
    "typing.Generic", "typing.Protocol", "typing.NamedTuple"]

def typeBases : Std.HashMap String String :=
  Std.HashMap.ofList (faultTypes ++ extendingTypes)

/-- The type itself and all that it extends. -/
def typeChain (name : String) : List String :=
  let rec go : Nat → String → List String
    | 0, _ => ["object"]
    | fuel + 1, name =>
      if name == "object" then ["object"] else name :: go fuel ((typeBases[name]?).getD "object")
  match manyBased.lookup name with
  | some chain => name :: chain
  | none => go 10 name

def isFaultType (name : String) : Bool := (typeChain name).contains "BaseException"

/-- The types that are no types of faults and that scripts know by name. -/
def namedTypes : List String :=
  ["bool", "bytearray", "bytes", "classmethod", "complex", "dict", "enumerate", "filter", "float",
    "frozenset", "int", "list", "map", "memoryview", "object", "property", "range", "reversed", "set",
    "slice", "staticmethod", "str", "super", "tuple", "type", "zip"]

/-- The types whose own objects no class can extend. -/
def closedTypes : List String :=
  ["bool", "NoneType", "ellipsis", "NotImplementedType", "function", "generator", "range", "slice",
    "memoryview", "builtin_function_or_method", "method", "wrapper_descriptor", "method_descriptor",
    "method-wrapper", "Canvas"]

def lastPart (name : String) : String := (name.splitOn ".").getLastD name

/-- The part of a dotted name before the last dot. -/
def ownerPart (name : String) : String := ".".intercalate ((name.splitOn ".").dropLast)

/-- The modules whose types are known by their last names alone. -/
def shortNamed : List String :=
  ["dataclasses", "enum", "random", "statistics", "typing", "PIL.Image", "PIL.ImageDraw",
    "PIL.ImageFilter", "PIL.ImageFont"]

/-- The modules whose functions are written as a script's own are. -/
def writtenModules : List String :=
  ["colorsys", "dataclasses", "enum", "functools", "statistics", "typing", "PIL.Image",
    "PIL.ImageChops", "PIL.ImageColor", "PIL.ImageDraw", "PIL.ImageFont", "PIL.ImageOps"]

/-- The common names that stand for objects which can be called, with their types. -/
def sessionTypes : List (String × String) :=
  [("exit", "Quitter"), ("quit", "Quitter"), ("copyright", "_Printer"), ("credits", "_Printer"),
    ("license", "_Printer"), ("help", "_Helper")]

/-- The member of a type is one of the operations that every type has a place for. -/
def isSlot (owner name : String) : Bool :=
  let held := match owner with
    | "dict" => ["__contains__", "__getitem__"]
    | "list" => ["__getitem__"]
    | "set" | "frozenset" => ["__contains__"]
    | _ => []
  name.startsWith "__" && !(held ++ ["__reduce__", "__reduce_ex__", "__getnewargs__", "__format__",
    "__sizeof__", "__dir__", "__round__", "__ceil__", "__floor__", "__trunc__", "__reversed__",
    "__length_hint__", "__complex__", "__bytes__", "__class_getitem__", "__new__",
    "__init_subclass__", "__subclasshook__"]).contains name

/-- The type of a function of the language itself. -/
def nativeType (name : String) : String :=
  let owner := ownerPart name
  let plain := "builtin_function_or_method"
  if owner == "" then (sessionTypes.lookup name).getD plain
  else if namedTypes.contains owner || isFaultType owner then
    if isSlot owner (lastPart name) then "wrapper_descriptor" else "method_descriptor"
  else if ["random.random", "random.getrandbits", "functools.reduce", "functools.cmp_to_key"].contains name then
    plain
  else if owner == "random" then "method"
  else if writtenModules.contains owner then "function"
  else plain

/-- The type of a function of the language itself that has its first argument. -/
def heldType (name : String) : String :=
  let owner := ownerPart name
  if owner == "random.Random" && !(["random", "getrandbits"].contains (lastPart name)) then "method"
  else if isSlot owner (lastPart name) then "method-wrapper"
  else "builtin_function_or_method"

namespace Run

def typeOf (v : Value) : Run Value := do
  match v with
  | .none => pure (.type "NoneType")
  | .ellipsis => pure (.type "ellipsis")
  | .notImplemented => pure (.type "NotImplementedType")
  | .bool _ => pure (.type "bool")
  | .int _ => pure (.type "int")
  | .float _ => pure (.type "float")
  | .complex _ _ => pure (.type "complex")
  | .text _ => pure (.type "str")
  | .bytes _ => pure (.type "bytes")
  | .tuple _ => pure (.type "tuple")
  | .range _ _ _ => pure (.type "range")
  | .slice _ _ _ => pure (.type "slice")
  | .type name => pure (.type ((typesOfTypes.lookup name).getD "type"))
  | .native name => pure (.type (nativeType name))
  | .method _ name => pure (.type (heldType name))
  | .bound _ _ => pure (.type "method")
  | .canvas => return .type (match (← getThe World).canvas with
    | .sheet => "Canvas"
    | .pixels _ _ _ => "ImageDraw")
  | .canvasCall _ => pure (.type "function")
  | .ref a => return (← object a).cls

def classOf? (v : Value) : Run (Option ClassData) := do
  match ← dataOf v with
  | .cls c => pure (some c)
  | _ => pure none

def isClass (v : Value) : Run Bool := do
  match v with
  | .type _ => pure true
  | v => return (← classOf? v).isSome

/-- The name of a type or class, as in the words of faults. -/
def nameOfClass (v : Value) : Run String := do
  match v with
  | .type name => pure (if shortNamed.contains (ownerPart name) then lastPart name else name)
  | v => return ((← classOf? v).map ClassData.name).getD "object"

/-- The name of a value's type, as in the words of faults. -/
def typeName (v : Value) : Run String := do nameOfClass (← typeOf v)

/-- The classes in which members of a class's objects are looked up. -/
def orderOf (cls : Value) : Run (List Value) := do
  match cls with
  | .type name => pure ((typeChain name).map Value.type)
  | v => return ((← classOf? v).map ClassData.order).getD [.type "object"]

/-- The class is another class, or extends it. -/
def extends? (cls base : Value) : Run Bool := do
  return (← orderOf cls).any (Value.same base)

/-- The value belongs to a type or class. -/
def isOf (v cls : Value) : Run Bool := do extends? (← typeOf v) cls

/-- The value belongs to a type of the language. -/
def isOfType (v : Value) (name : String) : Run Bool := isOf v (.type name)

/-- The type of the language by which a class's objects hold their data. -/
def baseType (cls : Value) : Run String := do
  let types := (← orderOf cls).filterMap fun c => match c with
    | .type name => if shapelessTypes.contains name then none else some name
    | _ => none
  pure (types.headD "object")

/-- The value of the language that an object of a class of the script stands for. -/
def unwrap (v : Value) : Run Value := do
  match v with
  | .ref a => match (← object a).data with
    | .wraps inner => pure inner
    | _ => pure v
  | _ => pure v

def isFault (v : Value) : Run Bool := do
  match ← dataOf v with
  | .fault _ => pure true
  | _ => pure false

end Run

end LiveSketch.Script

import LiveSketch.Script.Machine.Kinds
import LiveSketch.Surface.Pen

/-!
# Members

A member is looked up in the classes of a value and in the value itself. What is found in a class
may say itself what it stands for when it is asked for through a value: a function becomes a method,
a property gives what its function gives.
-/

namespace LiveSketch.Script

namespace Run

/-- Functions of the language that take a class as their first argument. -/
def ofClassNatives : List String :=
  ["dict.fromkeys", "int.from_bytes", "float.fromhex", "bytes.fromhex", "object.__init_subclass__",
    "itertools.chain.from_iterable"]

/-- Functions of the language that take no object as their first argument. -/
def freeNatives : List String := ["str.maketrans", "object.__new__", "bytes.maketrans"]

/-- Looks up a name in classes. -/
def lookupIn (order : List Value) (name : String) : Run (Option Value) := do
  match order with
  | [] => pure none
  | .type t :: rest =>
    let full := t ++ "." ++ name
    if ← knows full then pure (some (.native full)) else lookupIn rest name
  | .ref a :: rest =>
    match (← object a).attrs.name? name with
    | some v => pure (some v)
    | none => lookupIn rest name
  | _ :: rest => lookupIn rest name

/-- What a value's class says under a name. -/
def special? (v : Value) (name : String) : Run (Option Value) := do
  lookupIn (← orderOf (← typeOf v)) name

/-- What the classes of the script among a value's classes say under a name. -/
def ownSpecial? (v : Value) (name : String) : Run (Option Value) := do
  match v with
  | .ref a =>
    match (← object a).cls with
    | .type _ => pure none
    | cls => match ← lookupIn (← orderOf cls) name with
      | some (.native full) => if full.startsWith "object." then pure none else pure (some (.native full))
      | found => pure found
  | _ => pure none

/-- What something found in a class stands for when it is asked for through a value or a class. -/
def stand (found : Value) (self : Option Value) (cls : Value) : Run Value := do
  match found with
  | .native full =>
    if ofClassNatives.contains full then pure (.method cls full)
    else if freeNatives.contains full then pure found
    else match self with
      | some v => pure (if (full.splitOn ".").length < 2 then found else .method v full)
      | none => pure found
  | .ref a =>
    let o ← object a
    match o.data, o.cls with
    | .function _, _ => pure (match self with
      | some v => .bound v found
      | none => found)
    | .parts [f], .type "staticmethod" => pure f
    | .parts [f], .type "classmethod" => pure (.bound cls f)
    | .list _, _ | .dict _, _ | .set _, _ | .wraps _, _ | .cls _, _ | .module _, _ => pure found
    | _, _ => match ← special? found "__get__" with
      | some get => apply get [found, Value.ofOption self, cls]
      | none => pure found
  | _ => pure found

/-- Calls what a value's class says under a name, if it says anything. -/
def callSpecial? (v : Value) (name : String) (arguments : List Value) : Run (Option Value) := do
  match ← ownSpecial? v name with
  | none => pure none
  | some .none => pure none
  | some f => match f with
    | .ref _ | .native _ => do
      let g ← stand f (some v) (← typeOf v)
      return some (← apply g arguments)
    | _ => return some (← apply f arguments)

/-- Calls what the class of a class says under a name, if it says anything of its own. -/
def askClass? (cls : Value) (name : String) (arguments : List Value) : Run (Option Value) := do
  let above ← typeOf cls
  match above with
  | .type "type" => pure none
  | _ => match ← lookupIn (← orderOf above) name with
    | none => pure none
    | some (.native full) =>
      if full.startsWith "object." || full.startsWith "type." then pure none
      else return some (← apply (.native full) (cls :: arguments))
    | some f => return some (← apply f (cls :: arguments))

/-- The member settles what is stored under its name. -/
def isSetting (found : Value) : Run Bool := do
  match found with
  | .ref a => match (← object a).data with
    | .function _ | .list _ | .dict _ | .set _ | .wraps _ | .cls _ | .module _ => pure false
    | _ => return (← special? found "__set__").isSome
  | _ => pure false

/-! ## Members of the language's own values -/

/-- The name of a class with its module in front, unless it is one of the language. -/
def moduleOfClass (cls : Value) : Run String := do
  match cls with
  | .type name => pure (if name.toList.contains '.' then ownerPart name else "builtins")
  | .ref a => match (← object a).attrs.name? "__module__" with
    | some (.text s) => pure s
    | _ => pure "builtins"
  | _ => pure "builtins"

def fullNameOfClass (cls : Value) : Run String := do
  match cls with
  | .type name => pure (lastPart name)
  | v => return ((← classOf? v).map ClassData.fullName).getD ""

def codeOf (f : FunctionData) : Run Code := do return ((← getThe World).codes[f.code]?).getD default

def classMember? (cls : Value) (name : String) : Run (Option Value) := do
  match name with
  | "__name__" => return some (.text (lastPart (← nameOfClass cls)))
  | "__qualname__" => return some (.text (← fullNameOfClass cls))
  | "__mro__" => return some (.tuple (← orderOf cls))
  | "__bases__" => match cls with
    | .type t => pure (some (.tuple (((typeChain t).drop 1).take 1 |>.map Value.type)))
    | v => return (← classOf? v).map fun c => .tuple c.bases
  | "__base__" => match cls with
    | .type t => pure (some (Value.ofOption ((((typeChain t).drop 1).head?).map Value.type)))
    | v => return (← classOf? v).map fun c => c.bases.headD (.type "object")
  | "__module__" => return some (.text (← moduleOfClass cls))
  | "__dict__" => match cls with
    | .ref a => return some (← new "mappingproxy" (.members a))
    | _ => return some (← newDict .empty)
  | "__doc__" => match cls with
    | .ref a => return some (Value.ofOption ((← object a).attrs.name? "__doc__"))
    | _ => pure (some .none)
  | _ => pure none

/-- The members of a function of the script that it has from its code. -/
def functionMember? (f : FunctionData) (attrs : Table) (name : String) : Run (Option Value) := do
  let code ← codeOf f
  let own (v : Value) : Option Value := some ((attrs.name? name).getD v)
  match name with
  | "__name__" => pure (own (.text code.name))
  | "__qualname__" => pure (own (.text code.fullName))
  | "__doc__" => pure (own (Value.ofOption (code.doc.map Value.text)))
  | "__module__" => pure (own (.text "drawing"))
  | "__defaults__" => pure (some (if f.defaults.isEmpty then .none else .tuple f.defaults))
  | "__kwdefaults__" =>
    if f.namedDefaults.isEmpty then pure (some .none)
    else return some (← newDict (f.namedDefaults.foldl (fun t (n, v) => t.putName n v) .empty))
  | "__globals__" => pure (some (.ref f.globals))
  | "__closure__" => pure (some (if f.cells.isEmpty then .none else .tuple (f.cells.map Value.ref)))
  | _ => pure none

/-- What a fault over a text knows of its place: file, line, column, text, last line and column. -/
def placeParts (f : FaultData) : Run (List Value) := do
  match f.arguments with
  | [_, .tuple parts] => pure parts
  | [_, .ref a] => return (← listItems a).toList
  | _ => pure []

/-- The members of a fault over a text that tell its place, in order. -/
def placeNames : List String := ["filename", "lineno", "offset", "text", "end_lineno", "end_offset"]

/-- The members of a fault that it has from its data. -/
def faultMember? (address : Nat) (f : FaultData) (name : String) : Run (Option Value) := do
  let argument (k : Nat) : Value := f.arguments.getD k .none
  let isA (type : String) : Run Bool := isOfType (.ref address) type
  if placeNames.contains name && (← isA "SyntaxError") then
    return some ((← placeParts f).getD (placeNames.idxOf name) .none)
  match name with
  | "args" => pure (some (.tuple f.arguments))
  | "__cause__" => pure (some (Value.ofOption f.cause))
  | "__context__" => pure (some (Value.ofOption f.context))
  | "__suppress_context__" => pure (some (.bool f.hidesContext))
  | "__traceback__" =>
    if f.frames.isEmpty then pure (some .none)
    else return some (← new "traceback" (.parts (f.frames.map fun (_, line) => .int line)))
  | "code" =>
    if ← isA "SystemExit" then
      pure (some (match f.arguments with
        | [] => .none
        | [v] => v
        | vs => .tuple vs))
    else pure none
  | "value" => if ← isA "StopIteration" then pure (some (argument 0)) else pure none
  | "msg" =>
    if (← isA "ImportError") || (← isA "SyntaxError") then pure (some (argument 0)) else pure none
  | "name" | "path" | "obj" =>
    if (← isA "ImportError") || (← isA "AttributeError") || (← isA "NameError") then pure (some .none)
    else pure none
  | "message" => if ← isA "BaseExceptionGroup" then pure (some (argument 0)) else pure none
  | "exceptions" =>
    if ← isA "BaseExceptionGroup" then
      match argument 1 with
      | .ref a => return some (.tuple (← listItems a).toList)
      | v => pure (some v)
    else pure none
  | "errno" | "strerror" | "filename" =>
    if ← isA "OSError" then
      if f.arguments.length < 2 then pure (some .none)
      else pure (some (argument (if name == "errno" then 0 else if name == "strerror" then 1 else 2)))
    else pure none
  | _ => pure none

/-- The members of the language's own values that are no functions. -/
def plainMember? (v : Value) (name : String) : Run (Option Value) := do
  match v, name with
  | .int n, "real" | .int n, "numerator" => pure (some (.int n))
  | .int _, "imag" => pure (some (.int 0))
  | .int _, "denominator" => pure (some (.int 1))
  | .bool b, "real" | .bool b, "numerator" => pure (some (.int (if b then 1 else 0)))
  | .bool _, "imag" => pure (some (.int 0))
  | .bool _, "denominator" => pure (some (.int 1))
  | .float x, "real" => pure (some (.float x))
  | .float _, "imag" => pure (some (.float 0.0))
  | .complex re _, "real" => pure (some (.float re))
  | .complex _ im, "imag" => pure (some (.float im))
  | .range a _ _, "start" => pure (some (.int a))
  | .range _ b _, "stop" => pure (some (.int b))
  | .range _ _ c, "step" => pure (some (.int c))
  | .slice a _ _, "start" => pure (some a)
  | .slice _ b _, "stop" => pure (some b)
  | .slice _ _ c, "step" => pure (some c)
  | .bound self _, "__self__" => pure (some self)
  | .bound _ f, "__func__" => pure (some f)
  | .method self _, "__self__" => pure (some self)
  | .native full, "__name__" | .method _ full, "__name__" => pure (some (.text (lastPart full)))
  | .native full, "__qualname__" | .method _ full, "__qualname__" =>
    pure (some (.text (if namedTypes.contains (ownerPart full) then full else lastPart full)))
  | .native full, "__module__" =>
    let owner := ownerPart full
    pure (some (.text (if owner.isEmpty then "builtins" else owner)))
  | _, _ => pure none

/-- Raises the fault of a member that is missing. -/
def noMember {α : Type} (v : Value) (name words : String) : Run α := do
  let fault ← newFault "AttributeError" [.text words]
  match fault with
  | .ref a => changeMembers a fun t => (t.putName "name" (.text name)).putName "obj" v
  | _ => pure ()
  raiseFault fault

/-- Raises the fault of a value without a member of that name. -/
def hasNoMember {α : Type} (v : Value) (name : String) : Run α := do
  match ← dataOf v with
  | .module m => noMember v name ("module '" ++ m ++ "' has no attribute '" ++ name ++ "'")
  | _ =>
    if ← isClass v then
      noMember v name ("type object '" ++ lastPart (← nameOfClass v) ++ "' has no attribute '" ++ name ++ "'")
    else noMember v name ("'" ++ (← typeName v) ++ "' object has no attribute '" ++ name ++ "'")

/-! ## Reading -/

def memberOfClass? (cls : Value) (name : String) : Run (Option Value) := do
  let meta_ ← typeOf cls
  let fromMeta ← lookupIn (← orderOf meta_) name
  let settled ← match fromMeta with
    | some found => isSetting found
    | none => pure false
  match settled, fromMeta with
  | true, some found => return some (← stand found (some cls) meta_)
  | _, _ =>
    match ← lookupIn (← orderOf cls) name with
    | some found =>
      if (name == "__doc__" || name == "__module__") then
        match ← classMember? cls name with
        | some v => return some v
        | none => return some (← stand found none cls)
      else return some (← stand found none cls)
    | none => match ← classMember? cls name with
      | some v => pure (some v)
      | none => match fromMeta with
        | some found => return some (← stand found (some cls) meta_)
        | none => pure none

/-- The members that objects of the language's own types have by their parts, for types that let
scripts see them. -/
def visibleParts : List (String × List String) :=
  [("property", ["fget", "fset", "fdel", "__doc__"]), ("staticmethod", ["__func__"]),
    ("classmethod", ["__func__"]), ("functools.partial", ["func", "args", "keywords"])]

/-- A part of an object of the language as a member. -/
def partMember? (cls : Value) (parts : List Value) (name : String) : Option Value :=
  match cls with
  | .type t => do
    let names ← visibleParts.lookup t
    parts[← names.findIdx? (· == name)]?
  | _ => none

/-- A member of an object that it has by its kind. -/
def memberByKind? (v : Value) (name : String) : Run (Option Value) := do
  match v with
  | .ref a =>
    let o ← object a
    match o.data with
    | .function f => functionMember? f o.attrs name
    | .fault f => faultMember? a f name
    | .wraps inner => plainMember? inner name
    | .module m => pure (if name == "__name__" then some (.text m) else none)
    | .parts vs => pure (partMember? o.cls vs name)
    | _ => pure none
  | _ => plainMember? v name

/-- What an object keeps under a name itself. -/
def ownMember? (v : Value) (name : String) : Run (Option Value) := do
  match v with
  | .ref a => return (← object a).attrs.name? name
  | _ => pure none

/-- A member of a value that is no class, as the language finds it. -/
def memberOfValue? (v : Value) (name : String) : Run (Option Value) := do
  let cls ← typeOf v
  let found ← lookupIn (← orderOf cls) name
  let settled ← match found with
    | some f => isSetting f
    | none => pure false
  match settled, found with
  | true, some f => return some (← stand f (some v) cls)
  | _, _ =>
    match ← ownMember? v name with
    | some value => pure (some value)
    | none => match ← memberByKind? v name with
      | some value => pure (some value)
      | none => match found with
        | some f => return some (← stand f (some v) cls)
        | none => match v, name with
          | _, "__class__" => pure (some cls)
          | .ref a, "__dict__" => match cls with
            | .type _ => match (← object a).data with
              | .function _ | .module _ | .fault _ => return some (← new "dict" (.members a))
              | _ => pure none
            | _ => return some (← new "dict" (.members a))
          | _, "__doc__" => match cls with
            | .ref a => return some (Value.ofOption ((← object a).attrs.name? "__doc__"))
            | _ => pure (some .none)
          | _, "__module__" => match cls with
            | .ref _ => return some (.text (← moduleOfClass cls))
            | _ => pure none
          | _, _ => pure none

/-- A member of a value that stands for a class's view of an object, looked up behind that class. -/
def memberBehind? (cls self selfClass : Value) (name : String) : Run (Option Value) := do
  let order ← orderOf selfClass
  let behind := (order.dropWhile fun c => !Value.same c cls).drop 1
  match ← lookupIn behind name with
  | none => pure none
  | some found =>
    let isClassView := Value.same self selfClass
    return some (← stand found (if isClassView then none else some self) selfClass)

/-- A member of what a script draws on. -/
def canvasMember? (name : String) : Run (Option Value) := do
  if let some v := (← getThe World).canvasMembers.name? name then return some v
  match (← getThe World).canvas with
  | .sheet =>
    if name == "__class__" then pure (some (.type "Canvas"))
    else pure (if name.startsWith "__" then none else some (.canvasCall name))
  | c => match c.accepts ⟨name, [.tuple [.int 0, .int 0, .int 0, .int 0]], []⟩ with
    | .error f => if f.name == "AttributeError" then pure none else pure (some (.canvasCall name))
    | .ok () => pure (some (.canvasCall name))

def member? (v : Value) (name : String) : Run (Option Value) := do
  if ← isClass v then memberOfClass? v name
  else match v with
    | .canvas => canvasMember? name
    | .ref a =>
      let o ← object a
      match o.cls, o.data with
      | .type "super", .parts [cls, self, selfClass] =>
        match ← memberBehind? cls self selfClass name with
        | some found => pure (some found)
        | none => memberOfValue? v name
      | .type _, _ => memberOfValue? v name
      | _, _ =>
        match ← ownSpecial? v "__getattribute__" with
        | some f => return some (← apply f [v, .text name])
        | none => memberOfValue? v name
    | _ => memberOfValue? v name

/-- Calls what the class of a value says, where the value is a class itself. -/
def askAbove (v : Value) (name : String) (arguments : List Value) : Run (Option Value) := do
  if ← isClass v then askClass? v name arguments else pure none

/-- A member of a value; its class may make up for one that is missing. -/
def getMember (v : Value) (name : String) : Run Value := do
  let makeUp (raiseIt : Run Value) : Run Value := do
    match ← ownSpecial? v "__getattr__" with
    | some f => apply f [v, .text name]
    | none => match ← askAbove v "__getattr__" [.text name] with
      | some value => pure value
      | none => raiseIt
  let found ← orElse (member? v name) fun fault => do
    if ← isOfType fault "AttributeError" then
      return some (← makeUp (raiseFault fault))
    else raiseFault fault
  match found with
  | some value => pure value
  | none => makeUp (hasNoMember v name)

/-! ## Writing -/

/-- The names that a class's objects may have as members, where the class says so. -/
def allowedNames? (cls : Value) : Run (Option (List String)) := do
  let classes := (← orderOf cls).filter fun c => match c with
    | .ref _ => true
    | _ => false
  let slots ← classes.mapM fun c => ownMember? c "__slots__"
  if slots.isEmpty || slots.any Option.isNone then pure none
  else
    let names ← slots.flatMapM fun s => do
      match s with
      | some (.text s) => pure [s]
      | some (.tuple vs) => pure (vs.filterMap fun v => match v with
        | .text s => some s
        | _ => none)
      | some (.ref a) => return (← listItems a).toList.filterMap fun v => match v with
        | .text s => some s
        | _ => none
      | _ => pure []
    pure (if names.contains "__dict__" then none else some names)

/-- Objects of the types of the language that take members of their own. -/
def takesMembers (data : Data) : Bool :=
  match data with
  | .function _ | .module _ | .fault _ => true
  | _ => false

/-- Stores a member in an object itself, or takes it away. -/
def putMember (v : Value) (name : String) (value : Option Value) : Run Unit := do
  let put (a : Nat) : Run Unit := do
    match value with
    | some value => changeMembers a (·.putName name value)
    | none =>
      if (← object a).attrs.contains (.text name) then changeMembers a (·.erase (.text name))
      else hasNoMember v name
  match v with
  | .canvas =>
    match value with
    | some value => modifyThe World fun w =>
        { w with canvasMembers := w.canvasMembers.putName name value }
    | none =>
      if (← getThe World).canvasMembers.contains (.text name) then
        modifyThe World fun w => { w with canvasMembers := w.canvasMembers.erase (.text name) }
      else hasNoMember v name
  | .type t => wrongType ("cannot set '" ++ name ++ "' attribute of immutable type '" ++ t ++ "'")
  | .ref a =>
    let o ← object a
    match o.data, o.cls with
    | .cls c, _ =>
      match name, value with
      | "__name__", some (.text s) => setData a (.cls { c with name := s })
      | "__qualname__", some (.text s) => setData a (.cls { c with fullName := s })
      | _, _ => put a
    | .fault f, _ =>
      match name, value with
      | "args", some (.tuple vs) => setData a (.fault { f with arguments := vs })
      | "__cause__", some cause => setData a (.fault { f with
          cause := if cause.isNone then none else some cause, hidesContext := true })
      | "__context__", some c => setData a (.fault { f with context := if c.isNone then none else some c })
      | "__suppress_context__", some (.bool b) => setData a (.fault { f with hidesContext := b })
      | "__traceback__", some .none => setData a (.fault { f with frames := [] })
      | "__traceback__", some _ => pure ()
      | _, _ => put a
    | .function f, _ =>
      match name, value with
      | "__defaults__", some (.tuple vs) => setData a (.function { f with defaults := vs })
      | "__defaults__", some .none => setData a (.function { f with defaults := [] })
      | _, _ => put a
    | data, .type _ => if takesMembers data then put a else hasNoMember v name
    | _, cls =>
      match ← allowedNames? cls with
      | some names => if names.contains name then put a else hasNoMember v name
      | none => put a
  | _ =>
    match ← special? v name with
    | some _ => noMember v name ("'" ++ (← typeName v) ++ "' object attribute '" ++ name ++ "' is read-only")
    | none => hasNoMember v name

/-- Stores a member, as the language does it. -/
def storeMember (v : Value) (name : String) (value : Value) : Run Unit := do
  let isCls ← isClass v
  let found ← if isCls then pure none else special? v name
  match found with
  | some f =>
    if ← isSetting f then
      match ← special? f "__set__" with
      | some set => discard (apply set [f, v, value])
      | none => putMember v name (some value)
    else putMember v name (some value)
  | none => putMember v name (some value)

/-- Takes a member away, as the language does it. -/
def eraseMember (v : Value) (name : String) : Run Unit := do
  let found ← if ← isClass v then pure none else special? v name
  match found with
  | some f => match ← special? f "__delete__" with
    | some remove => discard (apply remove [f, v])
    | none => putMember v name none
  | none => putMember v name none

def setMember (v : Value) (name : String) (value : Value) : Run Unit := do
  match ← ownSpecial? v "__setattr__" with
  | some f => discard (apply f [v, .text name, value])
  | none => match ← askAbove v "__setattr__" [.text name, value] with
    | some _ => pure ()
    | none => storeMember v name value

/-- Takes a member of a value away. -/
def dropMember (v : Value) (name : String) : Run Unit := do
  match ← ownSpecial? v "__delattr__" with
  | some f => discard (apply f [v, .text name])
  | none => match ← askAbove v "__delattr__" [.text name] with
    | some _ => pure ()
    | none => eraseMember v name

end Run

end LiveSketch.Script

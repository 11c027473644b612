import LiveSketch.Fault.Raised
import LiveSketch.Script.Machine.Group
import LiveSketch.Script.Machine.Item
import LiveSketch.Script.Value.Parameters

/-!
# Calls and classes

What a call of a value comes to: an activation of a function of the script, or a value at once. A
class makes an object and lets its constructor fill it.
-/

namespace LiveSketch.Script

/-- What a call comes to. -/
inductive Entered where
  | value (v : Value)
  | activation (a : Activation)

namespace Run

/-! ## Functions of the script -/

def parametersOf (c : Code) : Parameters where
  placed := c.slots.toList.take c.positional
  placedOnly := c.posOnly
  namedOnly := (c.slots.toList.drop c.positional).take c.keywordOnly
  hasRest := c.hasRest
  hasNamedRest := c.hasKeywordRest

def newCell (v : Option Value) : Run Nat := do
  match ← new "cell" (.cell v) with
  | .ref a => pure a
  | _ => pure 0

/-- The activation of a code whose parameters have their values. -/
def activationOf (number : Nat) (c : Code) (values : List Value) (outer : List Nat)
    (names : Option Nat) (globals : Nat) : Run Activation := do
  let slots := (values.map some).toArray ++ Array.replicate (c.slots.size - values.length) none
  let cells ← c.shared.mapM fun name =>
    newCell (match c.slots.findIdx? (· == name) with
      | some k => if k < values.length then values[k]? else none
      | none => none)
  pure
    { code := number, place := 0, stack := [], blocks := [], slots := slots
      cells := cells ++ outer.toArray, names := names, globals := globals }

/-- The name by which a function is known in the words of faults. -/
def functionName (address : Nat) (c : Code) : Run String := do
  match (← object address).attrs.name? "__qualname__" with
  | some (.text s) => pure s
  | _ => pure c.fullName

/-- Gives arguments to a function of the script. -/
def enterFunction (address : Nat) (f : FunctionData) (args : List Value)
    (named : List (String × Value)) : Run Entered := do
  let c ← codeOf f
  let p := parametersOf c
  let values ←
    if named.isEmpty && f.defaults.isEmpty && args.length = c.positional && c.keywordOnly = 0 &&
        !c.hasRest && !c.hasKeywordRest then
      pure args
    else match p.bind f.defaults f.namedDefaults args named with
      | .error e => wrongType ((← functionName address c) ++ "() " ++ e.words)
      | .ok b => do
        let rest := if c.hasRest then [Value.tuple b.rest] else []
        let namedRest ← if c.hasKeywordRest then
            pure [← newDict (b.namedRest.foldl (fun t (n, v) => t.putName n v) .empty)]
          else pure []
        pure (b.placed ++ b.namedOnly ++ rest ++ namedRest)
  let a ← activationOf f.code c values f.cells none f.globals
  if c.isGenerator || c.isCoroutine then
    let type := if c.isGenerator && c.isCoroutine then "async_generator"
      else if c.isCoroutine then "coroutine" else "generator"
    let g ← new type (.generator (.waiting a true))
    match g with
    | .ref g => changeMembers g fun t =>
        (t.putName "__name__" (.text c.name)).putName "__qualname__" (.text c.fullName)
    | _ => pure ()
    pure (.value g)
  else pure (.activation a)

/-! ## Objects of classes -/

/-- A new fault of a class, with arguments. -/
def makeFault (cls : Value) (args : List Value) (named : List (String × Value)) : Run Value := do
  let takesNamed (type : String) : Run Bool := extends? cls (.type type)
  let allowed ← if ← takesNamed "ImportError" then pure ["name", "path"]
    else if ← takesNamed "AttributeError" then pure ["name", "obj"]
    else if ← takesNamed "NameError" then pure ["name"] else pure []
  match named.find? fun e => !allowed.contains e.1 with
  | some (name, _) =>
    if allowed.isEmpty then
      wrongType ((← nameOfClass cls) ++ "() takes no keyword arguments")
    else wrongType ("'" ++ name ++ "' is an invalid keyword argument for " ++ (← nameOfClass cls) ++ "()")
  | none => pure ()
  let attrs := named.foldl (fun t (n, v) => t.putName n v) Table.empty
  if ← extends? cls (.type "BaseExceptionGroup") then checkGroup cls args
  let cls ← match cls, args with
    | .type "BaseExceptionGroup", [_, items] =>
      let faults ← match items with
        | .tuple vs => pure vs
        | .ref a => pure (← listItems a).toList
        | _ => pure []
      if ← faults.allM fun v => isOfType v "Exception" then pure (Value.type "ExceptionGroup")
      else pure cls
    | .type "OSError", .int number :: _ :: _ =>
      pure (Value.type (systemErrorClass number))
    | cls, _ => pure cls
  newObject ⟨cls, attrs, .fault ⟨args, none, none, false, []⟩⟩

/-- An object of a class of the script before it is filled, by the type that its class extends. -/
def blankObject (cls : Value) (base : String) (args : List Value) (named : List (String × Value)) :
    Run Value := do
  if isFaultType base then
    if (typeChain base).contains "BaseExceptionGroup" then checkGroup cls args
    newObject ⟨cls, .empty, .fault ⟨args, none, none, false, []⟩⟩
  else if base == "object" then newObject ⟨cls, .empty, .plain⟩
  else if base == "list" then newObject ⟨cls, .empty, .list #[]⟩
  else if base == "dict" then newObject ⟨cls, .empty, .dict .empty⟩
  else if base == "set" then newObject ⟨cls, .empty, .set .empty⟩
  else if base == "frozenset" then
    match ← dataOf (← call (.type "frozenset") args named) with
    | .set t => newObject ⟨cls, .empty, .set t⟩
    | _ => newObject ⟨cls, .empty, .set .empty⟩
  else if ["int", "float", "str", "tuple", "complex", "bytes"].contains base then
    let v ← call (.type base) args named
    newObject ⟨cls, .empty, .wraps (← unwrap v)⟩
  else if ← knows (base ++ ".__new__") then call (.native (base ++ ".__new__")) (cls :: args) named
  else
    let v ← call (.type base) args named
    match v with
    | .ref a => newObject ⟨cls, .empty, (← object a).data⟩
    | v => newObject ⟨cls, .empty, .wraps v⟩

/-- What makes the objects of a class: a function of the script, or the language. -/
def makerOf (cls : Value) : Run (Option Value) := do
  match ← lookupIn (← orderOf cls) "__new__" with
  | some (.native full) => pure (if full == "object.__new__" then none else some (.native full))
  | some found => return some (← stand found none cls)
  | none => pure none

/-- Makes an object of a class of the script. -/
def construct (cls : Value) (args : List Value) (named : List (String × Value)) : Run Value := do
  let order ← orderOf cls
  let base ← baseType cls
  let filler ← lookupIn order "__init__"
  let hasFiller := match filler with
    | some (.native full) => full != "object.__init__"
    | some _ => true
    | none => false
  let maker ← makerOf cls
  let v ← match maker with
    | some maker => call maker (cls :: args) named
    | none =>
      if base == "object" && !hasFiller && !(args.isEmpty && named.isEmpty) then
        wrongType ((← nameOfClass cls) ++ "() takes no arguments")
      else blankObject cls base args named
  if ← isOf v cls then
    match filler with
    | some (.native full) =>
      if full == "object.__init__" then pure () else discard (call (.native full) (v :: args) named)
    | some found =>
      match ← call (← stand found (some v) cls) args named with
      | .none => pure ()
      | other => wrongType ("__init__() should return None, not '" ++ (← typeName other) ++ "'")
    | none => pure ()
  pure v

/-! ## Classes -/

/-- Merges rows in which classes are looked up into one that keeps the order of each. -/
def mergeOrders : Nat → List (List Value) → Option (List Value)
  | 0, _ => none
  | fuel + 1, rows =>
    let rows := rows.filter fun r => !r.isEmpty
    if rows.isEmpty then some []
    else
      let isFree (c : Value) : Bool := rows.all fun r => !(r.drop 1).any (Value.same c)
      match rows.findSome? fun r => r.head?.bind fun c => if isFree c then some c else none with
      | none => none
      | some c =>
        let rest := rows.map fun r => if r.head?.any (Value.same c) then r.drop 1 else r
        (mergeOrders fuel rest).map (c :: ·)

/-- Objects of a class of classes; the one that extends most is taken. -/
def classOfBases (bases : List Value) (first : Value) : Run Value := do
  bases.foldlM (fun best b => do
    let c ← typeOf b
    if ← extends? best c then pure best
    else if ← extends? c best then pure c
    else wrongType ("metaclass conflict: the metaclass of a derived class must be a (non-strict) " ++
      "subclass of the metaclasses of all its bases")) first

/-- Functions of a class body that are taken for more than plain functions. -/
def wrapSpecial (name : String) (v : Value) : Run Value := do
  match ← dataOf v with
  | .function _ =>
    if name == "__new__" then new "staticmethod" (.parts [v])
    else if name == "__init_subclass__" || name == "__class_getitem__" then
      new "classmethod" (.parts [v])
    else pure v
  | _ => pure v

/-- A new class with a name, bases, and what its body has defined. -/
def newClass (above : Value) (name : String) (bases : List Value) (body : Table)
    (named : List (String × Value)) : Run Value := do
  let bases := if bases.isEmpty then [Value.type "object"] else bases
  for b in bases do
    match b with
    | .type t => if closedTypes.contains t then
        wrongType ("type '" ++ t ++ "' is not an acceptable base type")
    | _ => pure ()
  match bases.find? fun b => (bases.filter (Value.same b)).length > 1 with
  | some b => wrongType ("duplicate base class " ++ (← nameOfClass b))
  | none => pure ()
  let rows ← bases.mapM orderOf
  let after ← match mergeOrders 1000 (rows ++ [bases]) with
    | some order => pure order
    | none => do
      let names ← bases.mapM nameOfClass
      wrongType ("Cannot create a consistent method resolution\norder (MRO) for bases " ++
        ", ".intercalate names)
  let layouts := (← bases.mapM baseType).filter (· != "object")
  match layouts with
  | first :: rest =>
    if rest.any fun t => !(typeChain t).contains first && !(typeChain first).contains t then
      wrongType "multiple bases have instance lay-out conflict"
  | [] => pure ()
  let cell := body.name? "__classcell__"
  let body := body.erase (.text "__classcell__")
  let fullName := match body.name? "__qualname__" with
    | some (.text s) => s
    | _ => name
  let body := body.erase (.text "__qualname__")
  let attrs ← body.toList.foldlM (fun (t : Table) e => do
    match e.key with
    | .text s => return t.put e.key e.name (← wrapSpecial s e.value)
    | _ => return t.put e.key e.name e.value) Table.empty
  let attrs := if attrs.contains (.text "__eq__") && !attrs.contains (.text "__hash__") then
    attrs.putName "__hash__" .none else attrs
  let attrs := if attrs.contains (.text "__doc__") then attrs else attrs.putName "__doc__" .none
  let w ← getThe World
  let cls := Value.ref w.heap.size
  discard (newObject ⟨above, attrs, .cls ⟨name, fullName, bases, cls :: after⟩⟩)
  match cell with
  | some (.ref a) => setData a (.cell (some cls))
  | _ => pure ()
  attrs.toList.forM fun e => do
    match e.value with
    | .ref _ =>
      if !(← isClass e.value) then
        match ← special? e.value "__set_name__" with
        | some f => discard (apply f [e.value, cls, e.name])
        | none => pure ()
    | _ => pure ()
  match ← lookupIn after "__init_subclass__" with
  | some (.native _) | none =>
    if !named.isEmpty then
      wrongType ((← nameOfClass cls) ++ ".__init_subclass__() takes no keyword arguments")
  | some f => discard (call (← stand f none cls) [] named)
  pure cls

/-- The classes that stand for a base: itself, or those that are meant by a name of a type. -/
def basesFor : Nat → Value → Run (List Value)
  | 0, b => pure [b]
  | fuel + 1, b => do
    if ← isClass b then return [b]
    if (← isOfType b "typing._GenericAlias") || (← isOfType b "types.GenericAlias") then
      match ← dataOf b with
      | .parts (origin :: _) => return ← basesFor fuel origin
      | _ => return [b]
    if ← isOfType b "typing._SpecialForm" then
      match ← dataOf b with
      | .parts [.text name] => return [(formTypes.lookup name).elim b Value.type]
      | _ => return [b]
    match ← callSpecial? b "__mro_entries__" [.tuple [b]] with
    | some (.tuple entries) => pure entries
    | _ => pure [b]

/-- The classes that stand for bases, each of them once. -/
def resolvedBases (bases : List Value) : Run (List Value) := do
  if ← bases.allM isClass then pure bases
  else
    let found ← bases.flatMapM (basesFor 20)
    pure (found.foldl (fun bs b => if bs.any (Value.same b) && bs.length < found.length then bs
      else bs ++ [b]) [])

/-- Carries out a class statement: the class of a body that has been run. -/
def classFrom (name : String) (bases : List Value) (body : Nat) (named : List (String × Value)) :
    Run Value := do
  let explicit := named.lookup "metaclass"
  let named := named.filter fun e => e.1 != "metaclass"
  for b in bases do
    if !(← isClass b) then
      let type ← typeOf b
      return ← apply type [.text name, .tuple bases, .ref body]
  let above ← classOfBases bases (explicit.getD (.type "type"))
  match above with
  | .type "type" => newClass above name bases (← tableAt body) named
  | _ => call above [.text name, .tuple bases, .ref body] named

/-! ## Calls -/

/-- What a call of a value comes to, for values of at most so many layers. -/
def enterWithin : Nat → Value → List Value → List (String × Value) → Run Entered
  | 0, _, _, _ => raise "RecursionError" "maximum recursion depth exceeded"
  | fuel + 1, f, args, named => do
    match f with
    | .bound self function => enterWithin fuel function (self :: args) named
    | .ref a =>
      let o ← object a
      match o.data, o.cls with
      | .function d, _ => enterFunction a d args named
      | .cls _, above =>
        match above with
        | .type "type" => return .value (← construct f args named)
        | _ => match ← lookupIn (← orderOf above) "__call__" with
          | some (.native "type.__call__") | none => return .value (← construct f args named)
          | some g => enterWithin fuel g (f :: args) named
      | _, .type t =>
        match t, o.data with
        | "staticmethod", .parts [g] => enterWithin fuel g args named
        | _, _ =>
          if ← knows (t ++ ".__call__") then enterWithin fuel (.native (t ++ ".__call__")) (f :: args) named
            else notCallable f
      | _, _ => match ← ownSpecial? f "__call__" with
        | some g => enterWithin fuel (← stand g (some f) o.cls) args named
        | none => notCallable f
    | .type name =>
      if ← knows name then return .value (← call (.native name) args named)
      else if isFaultType name then return .value (← makeFault f args named)
      else wrongType ("cannot create '" ++ name ++ "' instances")
    | .native _ | .method _ _ | .canvasCall _ => return .value (← call f args named)
    | _ => notCallable f
where
  /-- Raises the fault of a value that cannot be called. -/
  notCallable (f : Value) : Run Entered := do
    wrongType ("'" ++ (← typeName f) ++ "' object is not callable")

/-- What a call of a value comes to. -/
def enter (f : Value) (args : List Value) (named : List (String × Value)) : Run Entered :=
  enterWithin 100 f args named

def isCallable (v : Value) : Run Bool := do
  match v with
  | .bound _ _ | .type _ | .native _ | .method _ _ | .canvasCall _ => pure true
  | .ref a =>
    let o ← object a
    match o.data, o.cls with
    | .function _, _ | .cls _, _ => pure true
    | _, .type t => if t == "staticmethod" then pure true else knows (t ++ ".__call__")
    | _, _ => return (← ownSpecial? v "__call__").isSome
  | _ => pure false

end Run

end LiveSketch.Script

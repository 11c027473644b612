import LiveSketch.Script.Library.Import
import LiveSketch.Script.Library.Typing

/-!
# Classes made of their fields

A class whose body says with hints which fields its objects have gets the functions that follow from
them: one that fills an object, one that shows it, one that tells equal objects, and more on demand.
-/

namespace LiveSketch.Script

namespace Library

open Run

/-! ## Fields -/

def missingValue : Run Value := do getMember (← moduleObject 3 "dataclasses") "MISSING"

/-- A value, unless it stands for one that is not there. -/
def unlessMissing (v : Value) : Run (Option Value) := do
  return if ← isOfType v "dataclasses._MISSING_TYPE" then none else some v

/-- A field of a class. -/
structure RecordField where
  name : String
  /-- The value it has by itself. -/
  own : Option Value
  /-- What makes the value it has by itself. -/
  factory : Option Value
  isFilled : Bool
  isShown : Bool
  isCompared : Bool
  isHashed : Option Bool
  onlyNamed : Bool
  /-- It is only passed on, and not kept. -/
  isPassing : Bool

/-- A member of a field as a truth value. -/
def fieldFlag (f : Value) (name : String) : Run Bool := do
  match ← ownMember? f name with
  | some v => truth v
  | none => pure false

/-- A field as an object says it. -/
def fieldOf (name : String) (f : Value) : Run RecordField := do
  let part (n : String) : Run (Option Value) := do
    match ← ownMember? f n with
    | some v => unlessMissing v
    | none => pure none
  let hashed ← match ← ownMember? f "hash" with
    | some .none | none => pure none
    | some v => pure (some (← truth v))
  pure ⟨name, ← part "default", ← part "default_factory", ← fieldFlag f "init", ← fieldFlag f "repr",
    ← fieldFlag f "compare", hashed, ← fieldFlag f "kw_only", ← fieldFlag f "_is_passing"⟩

def newField (options : List (String × Value)) : Run Value := do
  let missing ← missingValue
  let f ← new "dataclasses.Field" .plain
  let start : List (String × Value) :=
    [("name", .none), ("type", .none), ("default", missing), ("default_factory", missing),
      ("init", .bool true), ("repr", .bool true), ("hash", .none), ("compare", .bool true),
      ("metadata", ← newDict .empty), ("kw_only", missing), ("_is_passing", .bool false)]
  match f with
  | .ref a => changeMembers a fun _ =>
      (start ++ options).foldl (fun t (n, v) => t.putName n v) .empty
  | _ => pure ()
  pure f

def setField (f : Value) (name : String) (v : Value) : Run Unit := do
  match f with
  | .ref a => changeMembers a (·.putName name v)
  | _ => pure ()

/-- The objects of a class's fields by name, those that are only passed on as well. -/
def fieldTable (cls : Value) : Run Table := do
  match ← lookupIn (← orderOf cls) "__dataclass_fields__" with
  | some (.ref a) => tableAt a
  | _ => pure .empty

def fieldsOf (cls : Value) : Run (List RecordField) := do
  (← fieldTable cls).toList.mapM fun e => match e.key with
    | .text n => fieldOf n e.value
    | _ => fieldOf "" e.value

def keptFields (cls : Value) : Run (List RecordField) := do
  return (← fieldsOf cls).filter fun f => !f.isPassing

/-- The hint says that a name belongs to the class and not to its objects. -/
def isClassHint (hint : Value) : Run Bool := do
  match hint with
  | .text s => pure ("ClassVar".isPrefixOf s || "typing.ClassVar".isPrefixOf s)
  | h =>
    let form := match ← hintParts? h with
      | some (origin, _) => origin
      | none => h
    return (← formName? form) == some "ClassVar"

/-- The hint says that a value is only passed on. -/
def isPassingHint (hint : Value) : Run Bool := do
  match hint with
  | .type t => pure (t == "dataclasses.InitVar")
  | h => match ← hintParts? h with
    | some (.type t, _) => pure (t == "dataclasses.InitVar")
    | _ => pure false

/-- The hint says that the fields after it are given by name. -/
def isNamedMark (hint : Value) : Bool :=
  match hint with
  | .type t => t == "dataclasses.KW_ONLY"
  | _ => false

/-- The field that a hint of a class body makes. -/
def bodyField (cls : Value) (name : String) (hint : Value) (onlyNamed : Bool) : Run Value := do
  let found ← ownMember? cls name
  let f ← match found with
    | none => newField []
    | some v =>
      if ← isOfType v "dataclasses.Field" then pure v
      else if ← isOfType v "member_descriptor" then newField []
      else newField [("default", v)]
  setField f "name" (.text name)
  setField f "type" hint
  setField f "_is_passing" (.bool (← isPassingHint hint))
  match ← ownMember? f "kw_only" with
  | some (.bool _) => pure ()
  | _ => setField f "kw_only" (.bool onlyNamed)
  let own := (← fieldOf name f).own
  match own with
  | some v => do
    match ← dataOf v with
    | .list _ | .dict _ | .set _ =>
      if !(← isOfType v "frozenset") then
        wrongValue ("mutable default " ++ (← shown (← typeOf v)) ++ " for field " ++ name ++
          " is not allowed: use default_factory")
    | _ =>
      match ← ownSpecial? v "__hash__" with
      | some .none => wrongValue ("mutable default " ++ (← shown (← typeOf v)) ++ " for field " ++ name ++
          " is not allowed: use default_factory")
      | _ => pure ()
    putMember cls name (some v)
  | none =>
    if found.isSome then putMember cls name none
  pure f

/-! ## Making a class of fields -/

/-- How a class of fields is made. -/
structure RecordStyle where
  fills : Bool
  shows : Bool
  compares : Bool
  orders : Bool
  alwaysHashes : Bool
  isFrozen : Bool
  isMatched : Bool
  onlyNamed : Bool
  slots : Bool

/-- The style that named arguments say. -/
def styleOf (named : List (String × Value)) : Run RecordStyle := do
  let flag (name : String) (default_ : Bool) : Run Bool := do
    match named.lookup name with
    | some v => truth v
    | none => pure default_
  let known := ["init", "repr", "eq", "order", "unsafe_hash", "frozen", "match_args", "kw_only",
    "slots", "weakref_slot"]
  match named.find? fun e => !known.contains e.1 with
  | some (n, _) => wrongType ("dataclass() got an unexpected keyword argument '" ++ n ++ "'")
  | none => pure ()
  pure ⟨← flag "init" true, ← flag "repr" true, ← flag "eq" true, ← flag "order" false,
    ← flag "unsafe_hash" false, ← flag "frozen" false, ← flag "match_args" true, ← flag "kw_only" false,
    ← flag "slots" false⟩

/-- The fields of a class and of those it extends. -/
def gatherFields (cls : Value) (style : RecordStyle) : Run Table := do
  let inherited ← ((← orderOf cls).drop 1).reverse.foldlM (fun (t : Table) b => do
    match ← ownMember? b "__dataclass_fields__" with
    | some (.ref a) =>
      let frozen ← ownMember? b "__dataclass_frozen__"
      match frozen with
      | some (.bool true) =>
        if !style.isFrozen then wrongType "cannot inherit non-frozen dataclass from a frozen one"
      | _ => if style.isFrozen then wrongType "cannot inherit frozen dataclass from a non-frozen one"
      pure ((← tableAt a).toList.foldl (fun t e => t.put e.key e.name e.value) t)
    | _ => pure t) Table.empty
  let hints ← match ← ownMember? cls "__annotations__" with
    | some (.ref a) => pure (← tableAt a).toList
    | _ => pure []
  let (t, _) ← hints.foldlM (fun ((t, onlyNamed) : Table × Bool) e => do
    match e.key with
    | .text n =>
      if isNamedMark e.value then pure (t, true)
      else if ← isClassHint e.value then pure (t, onlyNamed)
      else return (t.putName n (← bodyField cls n e.value onlyNamed), onlyNamed)
    | _ => pure (t, onlyNamed)) (inherited, style.onlyNamed)
  match cls with
  | .ref a =>
    for e in (← object a).attrs.toList do
      if (← isOfType e.value "dataclasses.Field") && !hints.any fun h => h.key == e.key then
        wrongType ((← shown e.name) ++ " is a field but has no type annotation")
  | _ => pure ()
  pure t

/-- The fields that are given by place must have values of their own after the first one that has. -/
def checkOrder (fields : List RecordField) : Run Unit := do
  let placed := fields.filter fun f => f.isFilled && !f.onlyNamed
  discard (placed.foldlM (fun (seen : Bool) f => do
    if f.own.isSome || f.factory.isSome then pure true
    else if seen then
      wrongType ("non-default argument '" ++ f.name ++ "' follows default argument")
    else pure seen) false)

/-- Makes a class of its fields. -/
def makeRecord (cls : Value) (style : RecordStyle) : Run Value := do
  let t ← gatherFields cls style
  let own (name : String) : Run Bool := do return (← ownMember? cls name).isSome
  let put (name : String) (v : Value) : Run Unit := do
    match cls with
    | .ref a => changeMembers a (·.putName name v)
    | _ => pure ()
  let give (name : String) : Run Unit := putMadeFor cls ("dataclasses." ++ name) name
  put "__dataclass_fields__" (← newDict t)
  put "__dataclass_frozen__" (.bool style.isFrozen)
  put "__dataclass_params__" .none
  let fields ← fieldsOf cls
  if style.fills then
    checkOrder fields
    give "__init__"
  if style.shows && !(← own "__repr__") then give "__repr__"
  if style.compares && !(← own "__eq__") then give "__eq__"
  if style.orders then
    if !style.compares then wrongValue "eq must be true if order is true"
    for name in ["__lt__", "__le__", "__gt__", "__ge__"] do
      if ← own name then
        wrongType ("Cannot overwrite attribute " ++ name ++ " in class " ++ (← nameOfClass cls) ++
          ". Consider using functools.total_ordering")
      give name
  if style.isFrozen then
    for name in ["__setattr__", "__delattr__"] do
      if ← own name then
        wrongType ("Cannot overwrite attribute " ++ name ++ " in class " ++ (← nameOfClass cls))
      give name
  let hashes := match ← ownMember? cls "__hash__" with
    | some .none | none => false
    | some _ => true
  if style.alwaysHashes then
    if hashes then
      wrongType ("Cannot overwrite attribute __hash__ in class " ++ (← nameOfClass cls))
    give "__hash__"
  else if style.compares && !hashes then
    if style.isFrozen then give "__hash__" else put "__hash__" .none
  if style.isMatched && !(← own "__match_args__") then
    put "__match_args__" (.tuple ((fields.filter fun f => f.isFilled && !f.onlyNamed).map fun f =>
      .text f.name))
  if style.slots then
    put "__slots__" (.tuple ((fields.filter fun f => !f.isPassing).map fun f => .text f.name))
    for f in fields do
      if (← own f.name) && !f.isPassing then putMember cls f.name none
  pure cls

/-! ## What the functions of such classes do -/

def fillRecord (owner self : Value) (args : List Value) (named : List (String × Value)) :
    Run Value := do
  let fields ← fieldsOf owner
  let isFrozen ← match ← ownMember? owner "__dataclass_frozen__" with
    | some v => truth v
    | none => pure false
  let given := fields.filter RecordField.isFilled
  let placed := given.filter fun f => !f.onlyNamed
  let onlyNamed := given.filter RecordField.onlyNamed
  let hasOwn (f : RecordField) : Bool := f.own.isSome || f.factory.isSome
  let p : Parameters := ⟨"self" :: placed.map RecordField.name, 0, onlyNamed.map RecordField.name, false,
    false⟩
  let defaults := (placed.filter hasOwn).map RecordField.own
  let namedDefaults := (onlyNamed.filter hasOwn).map fun f => (f.name, f.own)
  match p.bind defaults namedDefaults ((self :: args).map some) (named.map fun (n, v) => (n, some v)) with
  | .error e => wrongType ((← fullNameOfClass owner) ++ ".__init__() " ++ e.words)
  | .ok b =>
    let values := ((placed.zip (b.placed.drop 1)) ++ (onlyNamed.zip b.namedOnly)).map fun (f, v) =>
      (f.name, v)
    let worth (f : RecordField) : Run (Option Value) := do
      match (values.lookup f.name).join, f.factory with
      | some v, _ => pure (some v)
      | none, some make => return some (← apply make [])
      | none, none => pure none
    let passed ← fields.filterMapM fun f => do
      let v ← worth f
      match v with
      | some v => do
        if f.isPassing then pure (some v)
        else
          if isFrozen then storeMember self f.name v else setMember self f.name v
          pure none
      | none => pure none
    match ← lookupIn (← orderOf (← typeOf self)) "__post_init__" with
    | some after => discard (apply (← stand after (some self) (← typeOf self)) passed)
    | none => pure ()
    nothing

def comparedValues (owner self : Value) : Run Value := do
  let fields := (← keptFields owner).filter RecordField.isCompared
  return .tuple (← fields.mapM fun f => getMember self f.name)

/-- The text of an object by its fields. -/
def recordShown (owner self : Value) : Run String := do
  let text : Run String := do
    let parts ← ((← keptFields owner).filter RecordField.isShown).mapM fun f => do
      return f.name ++ "=" ++ (← shown (← getMember self f.name))
    return (← fullNameOfClass (← typeOf self)) ++ "(" ++ ", ".intercalate parts ++ ")"
  match self with
  | .ref a => whileShowing a "..." text
  | _ => text

/-- Compares objects of one class by their fields. -/
def compareRecords (c : Comparison) (args : List Value) : Run Value := do
  match args with
  | [owner, a, b] =>
    if (← typeOf a).same (← typeOf b) then
      compare c (← comparedValues owner a) (← comparedValues owner b)
    else pure .notImplemented
  | _ => nothing

/-- Refuses a change of an object that cannot be changed. -/
def guardFrozen (owner self name : Value) (what : String) : Run String := do
  let n ← memberName name
  if (← typeOf self).same owner || (← fieldTable owner).contains (.text n) then
    raise "dataclasses.FrozenInstanceError" ("cannot " ++ what ++ " field '" ++ n ++ "'")
  pure n

/-- The functions that such classes get. -/
def recordFunctionShelf : Shelf :=
  [("dataclasses.__init__", fun args named => match args with
      | owner :: self :: rest => fillRecord owner self rest named
      | _ => nothing),
    ("dataclasses.__repr__", fun args _ => do
      return .text (← recordShown (args.getD 0 .none) (args.getD 1 .none))),
    ("dataclasses.__eq__", fun args _ => compareRecords .eq args),
    ("dataclasses.__lt__", fun args _ => compareRecords .lt args),
    ("dataclasses.__le__", fun args _ => compareRecords .ltE args),
    ("dataclasses.__gt__", fun args _ => compareRecords .gt args),
    ("dataclasses.__ge__", fun args _ => compareRecords .gtE args),
    ("dataclasses.__hash__", fun args _ => do
      match args with
      | owner :: self :: _ => do
        let fields := (← keptFields owner).filter fun f => f.isHashed.getD f.isCompared
        hashOf (.tuple (← fields.mapM fun f => getMember self f.name))
      | _ => nothing),
    ("dataclasses.__setattr__", fun args _ => do
      match args with
      | [owner, self, name, v] => do
        storeMember self (← guardFrozen owner self name "assign to") v
        nothing
      | _ => nothing),
    ("dataclasses.__delattr__", fun args _ => do
      match args with
      | [owner, self, name] => do
        eraseMember self (← guardFrozen owner self name "delete")
        nothing
      | _ => nothing)]

/-! ## Functions about such classes -/

/-- Objects as plain data, as deep as they go. -/
def plainData (isDict : Bool) : Nat → Value → Run Value
  | 0, v => pure v
  | fuel + 1, v => do
    let cls ← typeOf v
    if !(← isClass v) && (← lookupIn (← orderOf cls) "__dataclass_fields__").isSome then
      let pairs ← (← keptFields cls).mapM fun f => do
        return (f.name, ← plainData isDict fuel (← getMember v f.name))
      if isDict then newDict (pairs.foldl (fun t (n, v) => t.putName n v) .empty)
      else pure (.tuple (pairs.map Prod.snd))
    else match v, ← dataOf v with
      | .tuple vs, _ => return .tuple (← vs.mapM (plainData isDict fuel))
      | _, .wraps (.tuple vs) => do
        newObject ⟨cls, .empty, .wraps (.tuple (← vs.mapM (plainData isDict fuel)))⟩
      | _, .list items => newList (← items.toList.mapM (plainData isDict fuel))
      | _, .dict t => do
        let entries ← t.toList.mapM fun e => do
          let name ← plainData isDict fuel e.name
          return (⟨← keyOf name, name, ← plainData isDict fuel e.value⟩ : Entry)
        newDict (Table.ofList entries)
      | _, _ => pure v

/-- The class of a value that has fields, or is a class of them. -/
def recordClass (v : Value) (words : String) (allowsClass : Bool) : Run Value := do
  let isCls ← isClass v
  let cls ← if isCls then pure v else typeOf v
  if (← lookupIn (← orderOf cls) "__dataclass_fields__").isNone || (isCls && !allowsClass) then
    wrongType words
  pure cls

/-- An object like another, with other values for some fields. -/
def replaceRecord (self : Value) (changes : List (String × Value)) : Run Value := do
  let cls ← recordClass self "replace() should be called on dataclass instances" false
  let named ← (← fieldsOf cls).filterMapM fun f => do
    match changes.lookup f.name with
    | some _ =>
      if !f.isFilled then
        wrongValue ("field " ++ f.name ++
          " is declared with init=False, it cannot be specified with replace()")
      pure none
    | none =>
      if !f.isFilled then pure none
      else if f.isPassing then
        if f.own.isNone then
          wrongValue ("InitVar '" ++ f.name ++ "' must be specified with replace()")
        pure none
      else return some (f.name, ← getMember self f.name)
  call cls [] (named ++ changes)

/-- A class of fields that are given as values. -/
def makeRecordClass (name fields : Value) (named : List (String × Value)) : Run Value := do
  let title ← textArgument name "type.__new__() argument 1 must be str, not "
  let specs ← (← itemsOf fields).mapM fun f => do
    match f with
    | .text n => pure (n, Value.type "object", none)
    | f => match ← itemsOf f with
      | [.text n, hint] => pure (n, hint, none)
      | [.text n, hint, own] => pure (n, hint, some own)
      | _ => wrongType ("Invalid field: " ++ (← shown f))
  let hints ← newDict (specs.foldl (fun t (n, h, _) => t.putName n h) .empty)
  let space ← match named.lookup "namespace" with
    | some (.ref a) => tableAt a
    | _ => pure .empty
  let body := specs.foldl (fun t (n, _, own) => match own with
    | some v => t.putName n v
    | none => t) (space.putName "__annotations__" hints)
  let bases ← match named.lookup "bases" with
    | some v => itemsOf v
    | none => pure []
  let above ← classOfBases bases (.type "type")
  let cls ← newClass above title bases (body.putName "__module__" (.text "types")) []
  makeRecord cls (← styleOf (named.filter fun e => !(["bases", "namespace"].contains e.1)))

/-- Classes made of their fields. -/
def recordShelf : Shelf :=
  recordFunctionShelf ++
  [("dataclasses.dataclass", fun args named => do
      match args with
      | cls :: _ =>
        if cls.isNone then new "dataclasses.decorator" (.parts [← namedDict named])
        else makeRecord cls (← styleOf named)
      | [] => do
        discard (styleOf named)
        new "dataclasses.decorator" (.parts [← namedDict named])),
    ("dataclasses.decorator.__call__", fun args _ => do
      match args with
      | self :: cls :: _ => match ← dataOf self with
        | .parts [.ref d] => makeRecord cls (← styleOf (← namedIn (.ref d)))
        | _ => pure cls
      | _ => wrongType "dataclass.<locals>.wrap() missing 1 required positional argument: 'cls'"),
    ("dataclasses.field", fun args named => do
      if !args.isEmpty then
        wrongType ("field() takes 0 positional arguments but " ++ toString args.length ++
          (if args.length = 1 then " was given" else " were given"))
      let known := ["default", "default_factory", "init", "repr", "hash", "compare", "metadata", "kw_only"]
      match named.find? fun e => !known.contains e.1 with
      | some (n, _) => wrongType ("field() got an unexpected keyword argument '" ++ n ++ "'")
      | none => pure ()
      if (named.lookup "default").isSome && (named.lookup "default_factory").isSome then
        wrongValue "cannot specify both default and default_factory"
      newField named),
    one "dataclasses.fields" fun v => do
      let cls ← recordClass v "must be called with a dataclass type or instance" true
      let kept ← (← fieldTable cls).toList.filterMapM fun e => do
        return if ← fieldFlag e.value "_is_passing" then none else some e.value
      pure (.tuple kept),
    withNames "dataclasses.asdict" ["obj"] 1 ["dict_factory"] fun args => do
      let v := Value.ofOption (args[0]?).join
      discard (recordClass v "asdict() should be called on dataclass instances" false)
      let d ← plainData true 100 v
      match (args[1]?).join with
      | some make => apply make [← listOf ((← tableAt ((d.address?).getD 0)).toList.map fun e =>
          .tuple [e.name, e.value])]
      | none => pure d,
    withNames "dataclasses.astuple" ["obj"] 1 ["tuple_factory"] fun args => do
      let v := Value.ofOption (args[0]?).join
      discard (recordClass v "astuple() should be called on dataclass instances" false)
      plainData false 100 v,
    ("dataclasses.replace", fun args named => match args with
      | self :: _ => replaceRecord self named
      | [] => wrongType "replace() missing 1 required positional argument: 'obj'"),
    one "dataclasses.is_dataclass" fun v => do
      let cls ← if ← isClass v then pure v else typeOf v
      return .bool (← lookupIn (← orderOf cls) "__dataclass_fields__").isSome,
    ("dataclasses.make_dataclass", fun args named => match args with
      | name :: fields :: _ => makeRecordClass name fields named
      | _ => wrongType "make_dataclass() missing 2 required positional arguments: 'cls_name' and 'fields'"),
    ("dataclasses.InitVar.__class_getitem__", fun args _ => match args with
      | [cls, v] => hintOf cls [v]
      | _ => nothing)]
where
  /-- Named arguments as a dictionary. -/
  namedDict (named : List (String × Value)) : Run Value :=
    newDict (named.foldl (fun t (n, v) => t.putName n v) .empty)

end Library

end LiveSketch.Script

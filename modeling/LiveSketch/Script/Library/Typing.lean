import LiveSketch.Script.Library.Generated

/-!
# Hints

Names for what values are, as functions and classes say them of their parameters and members. They
are told apart and shown, but hold no value to them. Tuples and dictionaries whose items have names
are made of hints as well.
-/

namespace LiveSketch.Script

namespace Library

open Run

/-! ## Names of types -/

/-- The name of a hint that stands for itself. -/
def formName? (v : Value) : Run (Option String) := do
  match ← isOfType v "typing._SpecialForm", ← dataOf v with
  | true, .parts [.text name] => pure (some name)
  | _, _ => pure none

def hintOf (origin : Value) (args : List Value) : Run Value := do
  let meant ← match ← formName? origin with
    | some n => pure ((formTypes.lookup n).elim origin Value.type)
    | none => pure origin
  let h ← new "typing._GenericAlias" (.parts (origin :: args))
  match h with
  | .ref a => changeMembers a fun t =>
      ((t.putName "__origin__" meant).putName "__args__" (.tuple args)).putName "__parameters__" (.tuple [])
  | _ => pure ()
  pure h

/-- The parts of a hint with arguments: what it is of, and the arguments. -/
def hintParts? (v : Value) : Run (Option (Value × List Value)) := do
  if (← isOfType v "typing._GenericAlias") || (← isOfType v "types.GenericAlias") then
    match ← dataOf v with
    | .parts (origin :: args) => pure (some (origin, args))
    | _ => pure none
  else pure none

/-- The hint that is a union of others, if it is one. -/
def unionHints? (v : Value) : Run (Option (List Value)) := do
  match ← hintParts? v with
  | some (origin, args) => match ← formName? origin with
    | some "Union" => pure (some args)
    | _ => pure none
  | none =>
    if ← isOfType v "types.UnionType" then return some (← unionParts v) else pure none

/-- A union of hints; one that is there twice counts once. -/
def unionOf (form : Value) (hints : List Value) : Run Value := do
  let flat ← hints.flatMapM fun h => do
    match ← unionHints? h with
    | some parts => pure parts
    | none => pure [if h.isNone then .type "NoneType" else h]
  let kept ← flat.foldlM (fun (kept : List Value) h => do
    if ← kept.anyM (equalTo h) then pure kept else pure (kept ++ [h])) []
  match kept with
  | [h] => pure h
  | _ => hintOf form kept

/-- The text for a type inside of a hint. -/
def hintText (v : Value) : Run String := do
  match v with
  | .ellipsis => pure "..."
  | v =>
    if ← isClass v then
      let module ← moduleOfClass v
      let name ← fullNameOfClass v
      pure (if module == "builtins" then name else module ++ "." ++ name)
    else match ← dataOf v with
      | .function _ => do
        match ← member? v "__qualname__" with
        | some (.text s) => pure s
        | _ => shown v
      | .list items => return "[" ++ ", ".intercalate (← items.toList.mapM shown) ++ "]"
      | _ => shown v

/-- The text for a hint with arguments. -/
def hintShown (v : Value) : Run String := do
  match ← hintParts? v with
  | none => pure ""
  | some (origin, args) =>
    let texts ← args.mapM hintText
    let all := ", ".intercalate texts
    match ← formName? origin with
    | none => return (← hintText origin) ++ "[" ++ (if args.isEmpty then "()" else all) ++ "]"
    | some "Union" => match args, texts with
      | [.type "NoneType", _], [_, t] | [_, .type "NoneType"], [t, _] =>
        pure ("typing.Optional[" ++ t ++ "]")
      | _, _ => pure ("typing.Union[" ++ all ++ "]")
    | some "Callable" => match args with
      | .ellipsis :: _ => pure ("typing.Callable[" ++ all ++ "]")
      | _ => pure ("typing.Callable[[" ++ ", ".intercalate texts.dropLast ++ "], " ++
          texts.getLastD "" ++ "]")
    | some "Literal" =>
      return "typing.Literal[" ++ ", ".intercalate (← args.mapM shown) ++ "]"
    | some "Annotated" =>
      return "typing.Annotated[" ++ ", ".intercalate (texts.take 1 ++ (← (args.drop 1).mapM shown)) ++ "]"
    | some n => pure ("typing." ++ n ++ "[" ++ (if args.isEmpty then "()" else all) ++ "]")

def indexedForm (form index : Value) : Run Value := do
  let args := match index with
    | .tuple vs => vs
    | v => [v]
  let hints := args.map fun v => if v.isNone then Value.type "NoneType" else v
  match ← formName? form with
  | some "Optional" => match args with
    | [v] => unionOf (← new "typing._SpecialForm" (.parts [.text "Union"])) [v, .none]
    | _ => wrongType ("typing.Optional requires a single type. Got " ++ (← shown index) ++ ".")
  | some "Union" =>
    if args.isEmpty then wrongType "Cannot take a Union of no types." else unionOf form args
  | some "Callable" => match args with
    | [.ellipsis, r] => hintOf form [.ellipsis, if r.isNone then .type "NoneType" else r]
    | [params, r] => match ← dataOf params with
      | .list ps => hintOf form (ps.toList ++ [if r.isNone then .type "NoneType" else r])
      | _ => wrongType ("Callable[args, result]: args must be a list. Got " ++ (← shown params))
    | _ => wrongType "Callable must be used as Callable[[arg, ...], result]."
  | some "Literal" => hintOf form args
  | some n =>
    if ["Any", "NoReturn", "Never", "Self", "LiteralString", "TypeAlias"].contains n then
      if n == "Any" then wrongType "type 'Any' is not subscriptable"
      else wrongType ("typing." ++ n ++ " is not subscriptable")
    else hintOf form hints
  | none => hintOf form hints

/-- The class that a hint means, for making objects and for looking at them. -/
def classMeant (v : Value) : Run Value := do
  match ← basesFor 20 v with
  | [c] => pure c
  | _ => pure v

def hintShelf : Shelf :=
  let both (name : String) (f : String → Value → Run Value) : Shelf :=
    ["typing._GenericAlias", "types.GenericAlias"].map fun t => method0 (t ++ "." ++ name) (f t)
  both "__repr__" (fun _ v => do return .text (← hintShown v)) ++
  both "__key__" (fun _ v => do
    match ← hintParts? v with
    | some (origin, args) => pure (.tuple ([.text "hint", origin] ++ args))
    | none => pure .none) ++
  ["typing._GenericAlias", "types.GenericAlias"].flatMap (fun t =>
    [method1 (t ++ ".__eq__") fun a b => do
        match ← hintParts? a, ← hintParts? b with
        | some (o, xs), some (p, ys) => do
          let same ← equalTo (.tuple (o :: xs)) (.tuple (p :: ys))
          match ← formName? o, ← formName? p with
          | some n, some m => return .bool (n == m && (← equalTo (.tuple xs) (.tuple ys)))
          | _, _ => return .bool same
        | _, _ => pure .notImplemented,
      (t ++ ".__call__", fun args named => do
        match args with
        | h :: rest => call (← classMeant h) rest named
        | [] => nothing),
      method1 (t ++ ".__getitem__") fun h _ => pure h]) ++
  [method1 "typing._SpecialForm.__getitem__" indexedForm,
    method0 "typing._SpecialForm.__repr__" fun v => do
      match ← formName? v with
      | some "AnyStr" => pure (.text "~AnyStr")
      | some n => pure (.text ("typing." ++ n))
      | none => pure (.text ""),
    ("typing._SpecialForm.__call__", fun args named => do
      match args with
      | form :: rest =>
        let name := (← formName? form).getD ""
        match formTypes.lookup name with
        | some t =>
          if ["DefaultDict", "OrderedDict"].contains name then call (.type t) rest named
          else wrongType ("Type " ++ name ++ " cannot be instantiated; use " ++ t ++ "() instead")
        | none =>
          if name == "Any" then wrongType "Any cannot be instantiated"
          else wrongType ("Cannot instantiate " ++ (← shown form))
      | [] => nothing),
    ("typing.Generic.__class_getitem__", fun args _ => match args with
      | [cls, .tuple vs] => hintOf cls vs
      | [cls, v] => hintOf cls [v]
      | _ => nothing),
    ("typing.Protocol.__class_getitem__", fun args _ => match args with
      | [cls, .tuple vs] => hintOf cls vs
      | [cls, v] => hintOf cls [v]
      | _ => nothing)]

/-! ## Variables and new names -/

def namedHint (type : String) (parts : List Value) (name : Value) : Run Value := do
  let h ← new type (.parts parts)
  match h with
  | .ref a => changeMembers a fun t =>
      ((t.putName "__name__" name).putName "__qualname__" name).putName "__module__" (.text "drawing")
  | _ => pure ()
  pure h

/-- Variables for types, and names for them. -/
def variableShelf : Shelf :=
  [("typing.TypeVar", fun args named => do
      match args with
      | name :: _ =>
        let isTrue (n : String) : Run Bool := do
          match named.lookup n with
          | some v => truth v
          | none => pure false
        let both := (← isTrue "covariant", ← isTrue "contravariant")
        let sign := if both.1 then "+" else if both.2 then "-" else "~"
        namedHint "typing.TypeVar" [name, .text sign] name
      | [] => wrongType "TypeVar.__init__() missing 1 required positional argument: 'name'"),
    ("typing.ParamSpec", fun args _ => namedHint "typing.TypeVar" [args.headD .none, .text "~"]
      (args.headD .none)),
    method0 "typing.TypeVar.__repr__" fun v => do
      match ← dataOf v with
      | .parts [.text name, .text sign] => pure (.text (sign ++ name))
      | _ => pure (.text ""),
    withNames "typing.NewType" ["name", "tp"] 2 [] fun args => do
      let name := Value.ofOption (args[0]?).join
      let type := Value.ofOption (args[1]?).join
      let h ← namedHint "typing.NewType" [name, type] name
      match h with
      | .ref a => changeMembers a (·.putName "__supertype__" type)
      | _ => pure ()
      pure h,
    method1 "typing.NewType.__call__" fun _ v => pure v,
    method0 "typing.NewType.__repr__" fun v => do
      match ← dataOf v with
      | .parts (.text name :: _) => pure (.text ("drawing." ++ name))
      | _ => pure (.text "")]

/-! ## Tuples with names -/

/-- The names of the items of a class of tuples. -/
def itemNames (cls : Value) : Run (List String) := do
  match ← lookupIn (← orderOf cls) "_fields" with
  | some (.tuple vs) => pure (vs.filterMap fun v => match v with
      | .text s => some s
      | _ => none)
  | _ => pure []

def namedItems (v : Value) : Run (List Value) := do
  match ← unwrap v with
  | .tuple vs => pure vs
  | _ => pure []

/-- An object of a class of tuples. -/
def namedTuple (cls : Value) (items : List Value) : Run Value :=
  newObject ⟨cls, .empty, .wraps (.tuple items)⟩

/-- A class of tuples whose items have names; the last ones may have values of their own. -/
def namedTupleClass (name module : String) (names : List String) (defaults : List (String × Value))
    (rest : Table) : Run Value := do
  let own ← newDict (defaults.foldl (fun t (n, v) => t.putName n v) .empty)
  let texts := names.map Value.text
  let places ← (names.zip (List.range names.length)).mapM fun (n, k) => do
    return (n, ← new "tuplegetter" (.parts [.int k]))
  let body := ([("__slots__", Value.tuple []), ("_fields", .tuple texts), ("_field_defaults", own),
    ("__match_args__", .tuple texts), ("__module__", .text module)] ++ places).foldl
      (fun t (n, v) => t.putName n v) rest
  let cls ← newClass (.type "type") name [.type "tuple"] body []
  for n in ["__new__", "__repr__", "_asdict", "_replace"] do
    putMadeFor cls ("typing.NamedTuple." ++ n) n
  match cls with
  | .ref a => do
    let make ← new "classmethod" (.parts [.native "typing.NamedTuple._make"])
    changeMembers a (·.putName "_make" make)
  | _ => pure ()
  pure cls

/-- The parts of a named tuple's text. -/
def namedTupleShown (self : Value) : Run String := do
  let cls ← typeOf self
  let pairs ← ((← itemNames cls).zip (← namedItems self)).mapM fun (n, v) => do
    return n ++ "=" ++ (← shown v)
  return (← nameOfClass cls) ++ "(" ++ ", ".intercalate pairs ++ ")"

/-- The tuple class of a class statement. -/
def namedTupleFrom (name : String) (body : Table) : Run Value := do
  let hints ← match body.name? "__annotations__" with
    | some (.ref a) => tableAt a
    | _ => pure .empty
  let names := namesIn hints
  for (n, before) in names.zip (List.range names.length) do
    if (body.name? n).isNone then
      let given := (names.take before).filter fun m => (body.name? m).isSome
      if !given.isEmpty then
        wrongType ("Non-default namedtuple field " ++ n ++ " cannot follow default field" ++
          (if given.length > 1 then "s" else "") ++ " " ++ ", ".intercalate given)
  let defaults := names.filterMap fun n => (body.name? n).map (n, ·)
  let rest := body.toList.filter fun e => match e.key with
    | .text n => !names.contains n
    | _ => true
  namedTupleClass name "drawing" names defaults (Table.ofList rest)

def namedTupleShelf : Shelf :=
  [("typing.NamedTupleMeta", fun args _ => do
      match args with
      | [.text name, _, .ref body] => namedTupleFrom name (← tableAt body)
      | _ => nothing),
    ("typing.NamedTuple", fun args named => do
      match args with
      | [.text name, fields] =>
        let pairs ← (← itemsOf fields).mapM itemsOf
        let names := pairs.filterMap fun p => match p with
          | .text n :: _ => some n
          | _ => none
        namedTupleClass name "drawing" names [] .empty
      | [.text name] => namedTupleClass name "drawing" (named.map Prod.fst) [] .empty
      | _ => wrongType "NamedTuple() missing 1 required positional argument: 'typename'"),
    ("typing.NamedTuple.__new__", fun args named => do
      match args with
      | owner :: cls :: rest =>
        let names ← itemNames owner
        let defaults ← match ← lookupIn (← orderOf owner) "_field_defaults" with
          | some (.ref a) => pure ((← tableAt a).toList.map Entry.value)
          | _ => pure []
        let p : Parameters := ⟨"_cls" :: names, 0, [], false, false⟩
        match p.bind defaults [] (cls :: rest) named with
        | .ok b => namedTuple cls (b.placed.drop 1)
        | .error e => wrongType ((← nameOfClass owner) ++ ".__new__() " ++ e.words)
      | _ => nothing),
    ("typing.NamedTuple.__repr__", fun args _ => do
      return .text (← namedTupleShown (args.getD 1 .none))),
    ("typing.NamedTuple._asdict", fun args _ => do
      let self := args.getD 1 .none
      newDict (((← itemNames (← typeOf self)).zip (← namedItems self)).foldl
        (fun t (n, v) => t.putName n v) .empty)),
    ("typing.NamedTuple._replace", fun args named => do
      let self := args.getD 1 .none
      let cls ← typeOf self
      let names ← itemNames cls
      match named.filter fun e => !names.contains e.1 with
      | [] => namedTuple cls ((names.zip (← namedItems self)).map fun (n, v) =>
          (named.lookup n).getD v)
      | unknown => do
        let list ← listOf (unknown.map fun e => .text e.1)
        wrongValue ("Got unexpected field names: " ++ (← shown list))),
    ("typing.NamedTuple._make", fun args _ => do
      let cls := args.getD 0 .none
      let items ← itemsOf (args.getD 1 .none)
      let names ← itemNames cls
      if items.length ≠ names.length then
        wrongType ("Expected " ++ toString names.length ++ " arguments, got " ++ toString items.length)
      namedTuple cls items),
    methodOf "tuplegetter.__get__" 1 2 fun self args => do
      match args with
      | .none :: _ => pure self
      | owner :: _ => match ← dataOf self with
        | .parts [.int k] => return (← namedItems owner).getD k.toNat .none
        | _ => nothing
      | [] => nothing,
    methodOf "tuplegetter.__set__" 2 2 fun _ _ => raise "AttributeError" "can't set attribute",
    methodOf "tuplegetter.__delete__" 1 1 fun _ _ => raise "AttributeError" "can't delete attribute"]

/-! ## Dictionaries with names, and plain functions -/

/-- Hints that are functions, and dictionaries with names. -/
def hintFunctionShelf : Shelf :=
  (["final", "overload", "no_type_check", "runtime_checkable", "no_type_check_decorator"].map fun n =>
    one ("typing." ++ n) fun v => pure v) ++
  [withNames "typing.cast" ["typ", "val"] 2 [] fun args => pure (Value.ofOption (args[1]?).join),
    some_ "typing.assert_type" 2 2 fun args => pure (args.getD 0 .none),
    one "typing.reveal_type" fun v => pure v,
    one "typing.assert_never" fun v => do
      raise "AssertionError" ("Expected code to be unreachable, but got: " ++ (← shown v)),
    one "typing.get_origin" fun v => do
      match ← member? v "__origin__" with
      | some o => pure o
      | none => match ← hintParts? v with
        | some (origin, _) => pure origin
        | none =>
          if ← isOfType v "types.UnionType" then pure (.type "types.UnionType") else nothing,
    one "typing.get_args" fun v => do
      match ← hintParts? v with
      | some (_, args) => pure (.tuple args)
      | none =>
        if ← isOfType v "types.UnionType" then return .tuple (← unionParts v)
        else pure (.tuple []),
    withNames "typing.get_type_hints" ["obj", "globalns", "localns", "include_extras"] 1 [] fun args => do
      let v := Value.ofOption (args[0]?).join
      let classes ← if ← isClass v then pure (← orderOf v).reverse else pure [v]
      let t ← classes.foldlM (fun (t : Table) c => do
        match ← ownMember? c "__annotations__" with
        | some (.ref a) => pure ((← tableAt a).toList.foldl (fun t e => t.put e.key e.name
            (if e.value.isNone then .type "NoneType" else e.value)) t)
        | _ => pure t) Table.empty
      newDict t,
    ("typing._TypedDictMeta", fun args _ => do
      match args with
      | [.text name, _, .ref body] =>
        newClass (.type "typing._TypedDictMeta") name [.type "dict"] (← tableAt body) []
      | _ => nothing),
    ("typing._TypedDictMeta.__call__", fun args named => call (.type "dict") (args.drop 1) named)]

def typingShelf : Shelf :=
  hintShelf ++ variableShelf ++ namedTupleShelf ++ hintFunctionShelf ++ functionShelf

end Library

end LiveSketch.Script

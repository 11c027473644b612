import LiveSketch.Script.Library.Core
import LiveSketch.Text.Lowercase

/-!
# Enumerations

Classes whose objects are settled by the class statement itself: each name that the body gives a
plain value becomes a member of the class, with that name and value. Two names of one value stand for
one member. Flags are members whose values are sets of bits, and can be joined.
-/

namespace LiveSketch.Script

namespace Library

open Run

/-! ## What enumerations keep -/

/-- An enumeration's dictionary from names to members. -/
def memberMap (cls : Value) : Run Table := do
  match ← lookupIn (← orderOf cls) "_member_map_" with
  | some (.ref a) => tableAt a
  | _ => pure .empty

/-- The members that an enumeration goes through, in order. -/
def canonicalMembers (cls : Value) : Run (List Value) := do
  let t ← memberMap cls
  match ← lookupIn (← orderOf cls) "_member_names_" with
  | some (.ref a) => return (← listItems a).toList.filterMap fun n => match n with
      | .text s => t.name? s
      | _ => none
  | _ => pure []

/-- The list of all members that an enumeration has ever made. -/
def madeMembers (cls : Value) : Run (Option Nat) := do
  match ← lookupIn (← orderOf cls) "_members_" with
  | some (.ref a) => pure (some a)
  | _ => pure none

def memberWorth (m : Value) : Run Value := do return Value.ofOption (← ownMember? m "_value_")

def nameOfMember (m : Value) : Run Value := do return Value.ofOption (← ownMember? m "_name_")

def memberWith? (cls value : Value) : Run (Option Value) := do
  match ← madeMembers cls with
  | none => pure none
  | some a => (← listItems a).toList.findM? fun m => do equalTo (← memberWorth m) value

/-- Puts what a member is known by into it. -/
def nameMember (cls m name value : Value) : Run Unit := do
  match m with
  | .ref a => changeMembers a fun t =>
      ((((t.putName "_value_" value).putName "_name_" name).putName "value" value).putName "name"
        name).putName "__objclass__" cls
  | _ => pure ()

def isFlagClass (cls : Value) : Run Bool := extends? cls (.type "enum.Flag")

/-! ## Members of a body -/

/-- The name begins and ends with underscores, and is kept for the language. -/
def isKeptName (n : String) : Bool :=
  (4 < n.length && n.startsWith "__" && n.endsWith "__") ||
    (2 < n.length && n.startsWith "_" && n.endsWith "_")

/-- What is found in a class under the value stands for something else. -/
def standsForOther (v : Value) : Run Bool := do
  match v with
  | .ref a =>
    let o ← object a
    match o.data with
    | .function _ => pure true
    | .cls _ => pure false
    | _ => return (← isOfType v "staticmethod") || (← isOfType v "classmethod") ||
        (← special? v "__get__").isSome
  | _ => pure false

/-- The value that a member is to get by itself. -/
def ownWorth (bases : List Value) (maker : Option Value) (name : String) (before : List Value) :
    Run Value := do
  let isA (type : String) : Run Bool := bases.anyM fun b => extends? b (.type type)
  match maker with
  | some f => apply f [.text name, .int 1, .int before.length, ← newList before]
  | none =>
    if ← isA "enum.StrEnum" then return .text (lowerCase name)
    let numbers := before.filterMap Value.int?
    match numbers with
    | [] => pure (.int 1)
    | n :: rest =>
      let greatest := rest.foldl max n
      if ← isA "enum.Flag" then pure (.int (2 ^ binaryLength greatest)) else pure (.int (greatest + 1))

/-- A body that an enumeration's class statement is about to fill. -/
def newBody (name : Value) (bases : List Value) : Run Value := do
  let d ← new "enum._EnumDict" (.dict .empty)
  let names ← newList []
  match d with
  | .ref a => changeMembers a fun t =>
      ((t.putName "_member_names" names).putName "_cls_name" name).putName "_bases" (.tuple bases)
  | _ => pure ()
  pure d

/-- The list of the names in a body that are to become members. -/
def bodyNames (body : Value) : Run (Option Nat) := do
  match ← ownMember? body "_member_names" with
  | some (.ref names) => pure (some names)
  | _ => pure none

def bodyBases (body : Value) : Run (List Value) := do
  match ← ownMember? body "_bases" with
  | some (.tuple bases) => pure bases
  | _ => pure []

/-- What gives members their values by itself, as the body or a base says. -/
def worthMaker (body : Value) (t : Table) : Run (Option Value) := do
  let found ← match t.name? "_generate_next_value_" with
    | some f => pure (some f)
    | none => lookupIn (← (← bodyBases body).flatMapM orderOf) "_generate_next_value_"
  found.mapM fun f => stand f none .none

/-- A value of a body, with what it is to get by itself filled in. -/
def settledWorth (body : Value) (t : Table) (name : String) (before : List Value) (v : Value) :
    Run Value := do
  let settle (v : Value) : Run Value := do
    if ← isOfType v "enum.auto" then
      match ← dataOf v with
      | .parts [worth] => pure worth
      | _ =>
        let worth ← ownWorth (← bodyBases body) (← worthMaker body t) name before
        match v with
        | .ref a => setData a (.parts [worth])
        | _ => pure ()
        pure worth
    else pure v
  match v with
  | .tuple vs => return .tuple (← vs.mapM settle)
  | v => settle v

/-- Stores a name of a body. A name that is a member cannot be given again. -/
def storeInBody (body name v : Value) : Run Unit := do
  match body, name, ← bodyNames body with
  | .ref a, .text n, some names => do
    let t ← tableAt a
    let put (v : Value) : Run Unit := changeTable a (·.putName n v)
    let taken : Run Unit := do
      match t.name? n with
      | some before => wrongType ("'" ++ n ++ "' already defined as " ++ (← shown before))
      | none => pure ()
    let members := (← listItems names).toList
    let className := match ← ownMember? body "_cls_name" with
      | some (.text s) => s
      | _ => ""
    if isKeptName n || n.startsWith ("_" ++ className ++ "__") then put v
    else
      if members.any (Value.same name) then taken
      match ← dataOf v with
      | .parts [inner] => if ← isOfType v "enum.nonmember" then return ← put inner
      | _ => pure ()
      if ← standsForOther v then put v
      else
        taken
        let v ← match ← isOfType v "enum.member", ← dataOf v with
          | true, .parts [inner] => pure inner
          | _, _ => pure v
        let before := members.filterMap fun m => match m with
          | .text s => t.name? s
          | _ => none
        put (← settledWorth body t n before v)
        changeList names (·.push name)
  | .ref a, name, _ => do
    let k ← keyOf name
    changeTable a (·.put k name v)
  | _, _, _ => pure ()

/-! ## Making members -/

/-- The whole number of a flag. -/
def bitsOf (v : Value) : Int := v.int?.getD 0

/-- The number has just one binary digit that is one. -/
def isSingleBit (n : Int) : Bool := 0 < n && bitAnd n (n - 1) = 0

/-- A member with a value, before it is filled. -/
def blankMember (cls : Value) (dataType : String) (args : List Value) : Run Value := do
  match ← lookupIn (← orderOf cls) "__new__" with
  | some (.ref f) => apply (← stand (.ref f) none cls) (cls :: args)
  | _ =>
    if dataType == "object" then newObject ⟨cls, .empty, .plain⟩
    else newObject ⟨cls, .empty, .wraps (← unwrap (← call (.type dataType) args []))⟩

/-- Adds a member to a list that the class keeps. -/
def keepMember (cls m : Value) : Run Unit := do
  match ← madeMembers cls with
  | some a => changeList a (·.push m)
  | none => pure ()

/-- Adds a member to an enumeration. A name of a value that is there already stands for its
member. -/
def addMember (cls : Value) (dataType name : String) (value : Value) : Run Unit := do
  let args := match value with
    | .tuple vs => if dataType == "tuple" then [value] else vs
    | v => [v]
  let m ← blankMember cls dataType args
  let worth ← match ← ownMember? m "_value_" with
    | some v => pure v
    | none => if dataType == "object" then pure value else call (.type dataType) args []
  nameMember cls m (.text name) worth
  match ← lookupIn (← orderOf cls) "__init__" with
  | some (.ref f) => discard (apply (← stand (.ref f) (some m) cls) args)
  | _ => pure ()
  let known ← memberWith? cls worth
  let m := known.getD m
  let order ← orderOf cls
  if known.isNone then
    keepMember cls m
    match ← lookupIn order "_member_names_" with
    | some (.ref a) =>
      if !(← isFlagClass cls) || isSingleBit (bitsOf worth) then changeList a (·.push (.text name))
    | _ => pure ()
  match ← lookupIn order "_member_map_" with
  | some (.ref a) => changeTable a (·.putName name m)
  | _ => pure ()
  match cls with
  | .ref a => changeMembers a (·.putName name m)
  | _ => pure ()

/-- The functions of enumerations that come before those of the type that they extend as well. -/
def ownFunctions (cls : Value) : Run (List (String × Value)) := do
  let isFlag ← isFlagClass cls
  let front := if isFlag then "enum.Flag." else "enum.Enum."
  let isPlain ← extends? cls (.type "enum.ReprEnum")
  let texts := if isPlain then "enum.ReprEnum." else front
  let bits := if isFlag then
    ["__or__", "__and__", "__xor__", "__ror__", "__rand__", "__rxor__", "__invert__"] else []
  pure ([("__repr__", Value.native (front ++ "__repr__")), ("__str__", .native (texts ++ "__str__")),
    ("__format__", .native (texts ++ "__format__"))] ++
    bits.map fun n => (n, Value.native ("enum.Flag." ++ n)))

/-- A body whose members are known, made of another dictionary where they are not. -/
def knownBody (name : String) (bases : List Value) (body : Value) : Run Value := do
  if (← bodyNames body).isSome then pure body
  else
    let known ← newBody (.text name) bases
    match body with
    | .ref a => for e in (← tableAt a).toList do storeInBody known e.name e.value
    | _ => pure ()
    pure known

/-- Makes an enumeration of a class body. -/
def newEnumeration (above : Value) (name : String) (bases : List Value) (body : Value)
    (named : List (String × Value)) : Run Value := do
  for b in bases do
    for c in ← orderOf b do
      if !(← canonicalMembers c).isEmpty then
        wrongType ("<enum '" ++ name ++ "'> cannot extend " ++ (← shown c))
  let body ← knownBody name bases body
  let t ← tableAt ((body.address?).getD 0)
  let names ← match ← bodyNames body with
    | some names => pure (← listItems names).toList
    | none => pure []
  let settled := names.filterMap fun n => match n with
    | .text s => (t.name? s).map (s, ·)
    | _ => none
  let others := t.toList.filter fun e => !names.any (Value.same e.name)
  let cls ← newClass above name bases (Table.ofList others) named
  let dataType ← baseType cls
  let order ← orderOf cls
  let own ← (← ownFunctions cls).filterM fun (n, _) => do
    match ← lookupIn order n with
    | some (.native full) => pure (!full.startsWith "enum.")
    | some _ => pure false
    | none => pure true
  let map ← newDict .empty
  let canonical ← newList []
  let made ← newList []
  match cls with
  | .ref a => changeMembers a fun t =>
      (own ++ [("_member_map_", map), ("_member_names_", canonical), ("_members_", made),
        ("__members__", map)]).foldl (fun t (n, v) => t.putName n v) t
  | _ => pure ()
  for (n, v) in settled do addMember cls dataType n v
  pure cls

/-! ## Flags -/

/-- All bits that members of an enumeration of flags have. -/
def allBits (cls : Value) : Run Int := do
  (← memberMap cls).toList.foldlM (fun bits e => do
    return bitOr bits (bitsOf (← memberWorth e.value))) 0

/-- The members of one bit that a set of bits holds. -/
def flagsIn (cls : Value) (bits : Int) : Run (List Value) := do
  (← canonicalMembers cls).filterM fun m => do
    return bitAnd (bitsOf (← memberWorth m)) bits != 0

/-- The flag for a set of bits that no member has. -/
def joinedFlag (cls : Value) (bits : Int) : Run Value := do
  let known ← allBits cls
  let width := binaryLength known
  let bits := if bits < 0 then bits + 2 ^ max width (binaryLength bits) else bits
  match ← memberWith? cls (.int bits) with
  | some m => return m
  | none => pure ()
  let unknown := bits - bitAnd bits known
  let isOpen ← extends? cls (.type "enum.IntFlag")
  if unknown != 0 && !isOpen then
    let width := max width (binaryLength bits)
    let digits (n : Int) : String :=
      let ds := Nat.toDigits 2 n.toNat
      "0b0 " ++ String.ofList (List.replicate (width - ds.length) '0' ++ ds)
    wrongValue ((← shown cls) ++ " invalid value " ++ toString bits ++ "\n    given " ++ digits bits ++
      "\n  allowed " ++ digits known)
  let m ← newObject ⟨cls, .empty, if isOpen then .wraps (.int bits) else .plain⟩
  let names ← (← flagsIn cls bits).mapM fun f => do
    match ← nameOfMember f with
    | .text s => pure s
    | _ => pure ""
  let names := if unknown != 0 && !names.isEmpty then names ++ [toString unknown] else names
  nameMember cls m (if names.isEmpty then .none else .text ("|".intercalate names)) (.int bits)
  keepMember cls m
  pure m

/-- The bits of a flag, or of a value that may stand for one. -/
def bitsBeside (self other : Value) : Run (Option Int) := do
  let cls ← typeOf self
  if ← isOf other cls then return some (bitsOf (← memberWorth other))
  else if ← extends? cls (.type "int") then return (← unwrap other).int?
  else pure none

/-! ## Finding members -/

/-- The member with a value; the class may make up for one that is missing. -/
def findMember (cls value : Value) : Run Value := do
  if Value.same (← typeOf value) cls then return value
  match ← memberWith? cls value with
  | some m => return m
  | none => pure ()
  let wrong : Run Value := do
    wrongValue ((← shown value) ++ " is not a valid " ++ (← fullNameOfClass cls))
  match ← lookupIn (← orderOf cls) "_missing_" with
  | some (.ref f) =>
    let v ← apply (← stand (.ref f) none cls) [value]
    if ← isOf v cls then pure v
    else if v.isNone then wrong
    else wrongType ("error in " ++ (← nameOfClass cls) ++ "._missing_: returned " ++ (← shown v) ++
      " instead of None or a valid member")
  | _ =>
    match ← isFlagClass cls, value.int? with
    | true, some bits => joinedFlag cls bits
    | _, _ => wrong

/-- Makes an enumeration of names that are given as values. -/
def enumerationOf (above cls name names : Value) (start : Int) (dataType : Option Value) :
    Run Value := do
  let name ← textArgument name "EnumType() argument 1 must be str, not "
  let isFlag ← isFlagClass cls
  let numbered (ns : List Value) : List (Value × Value) :=
    (ns.zip (List.range ns.length)).map fun (n, k) =>
      (n, .int (if isFlag then 2 ^ k else start + k))
  let pairs ← match names with
    | .text s => pure (numbered (((s.replace "," " ").splitOn " ").filterMap fun w =>
        if w.isEmpty then none else some (.text w)))
    | v => match ← dataOf v with
      | .dict t => pure (t.toList.map fun e => (e.name, e.value))
      | _ =>
        let vs ← itemsOf v
        match vs with
        | .text _ :: _ => pure (numbered vs)
        | _ => vs.mapM fun p => do
          match ← itemsOf p with
          | [n, v] => pure (n, v)
          | _ => wrongValue "not enough values to unpack (expected 2, got 1)"
  let bases := dataType.toList ++ [cls]
  let body ← newBody (.text name) bases
  for (n, v) in pairs do storeInBody body n v
  newEnumeration above name bases body []

/-- Carries out a call of an enumeration: it finds a member, or makes another enumeration. -/
def callEnumeration (cls : Value) (args : List Value) (named : List (String × Value)) :
    Run Value := do
  let given (k : Nat) (name : String) : Option Value := args[k]? <|> named.lookup name
  match given 0 "value" with
  | none => wrongType "EnumType.__call__() missing 1 required positional argument: 'value'"
  | some value => match given 1 "names" with
    | none => findMember cls value
    | some names =>
      let start ← asIndex ((named.lookup "start").getD (.int 1))
      enumerationOf (← typeOf cls) cls value names start (named.lookup "type")

/-! ## Functions -/

def enumerationClassShelf : Shelf :=
  let made (args : List Value) (named : List (String × Value)) (above : Value) : Run Value := do
    match args with
    | [name, .tuple bases, body] =>
      newEnumeration above (← textArgument name "EnumType() argument 1 must be str, not ") bases
        body (named.filter fun e => e.1 != "boundary")
    | _ => wrongType "EnumType.__new__() takes 4 arguments"
  [("enum.EnumType", fun args named => made args named (.type "enum.EnumType")),
    ("enum.EnumType.__new__", fun args named => match args with
      | above :: rest => made rest named above
      | [] => nothing),
    ("enum.EnumType.__prepare__", fun args _ => match args with
      | [_, name, .tuple bases] => newBody name bases
      | _ => wrongType "EnumType.__prepare__() takes 3 arguments"),
    methodOf "enum._EnumDict.__setitem__" 2 2 fun body args => do
      storeInBody body (args.getD 0 .none) (args.getD 1 .none)
      nothing,
    ("enum.EnumType.__call__", fun args named => match args with
      | cls :: rest => callEnumeration cls rest named
      | [] => nothing),
    method0 "enum.EnumType.__iter__" fun cls => do iterate (← newList (← canonicalMembers cls)),
    method0 "enum.EnumType.__reversed__" fun cls => do
      iterate (← newList (← canonicalMembers cls).reverse),
    method0 "enum.EnumType.__len__" fun cls => do return .int (← canonicalMembers cls).length,
    method0 "enum.EnumType.__bool__" fun _ => pure (.bool true),
    method1 "enum.EnumType.__getitem__" fun cls name => do
      match (← memberMap cls).get? (← keyOf name) with
      | some m => pure m
      | none => raiseWith "KeyError" [name],
    method1 "enum.EnumType.__contains__" fun cls m => do
      if ← isOfType m "enum.Enum" then return .bool (← isOf m cls)
      else wrongType ("unsupported operand type(s) for 'in': '" ++ (← fullNameOfClass (← typeOf m)) ++
        "' and '" ++ (← fullNameOfClass (← typeOf cls)) ++ "'"),
    method1 "enum.EnumType.__getattr__" fun _ name => raiseWith "AttributeError" [name],
    methodOf "enum.EnumType.__setattr__" 2 2 fun cls args => do
      let name ← memberName (args.getD 0 .none)
      if (← memberMap cls).contains (.text name) then
        raise "AttributeError" ("cannot reassign member '" ++ name ++ "'")
      putMember cls name (args[1]?)
      nothing,
    method1 "enum.EnumType.__delattr__" fun cls name => do
      let name ← memberName name
      if (← memberMap cls).contains (.text name) then
        raise "AttributeError" ("'" ++ (← nameOfClass cls) ++ "' cannot delete member '" ++ name ++ "'.")
      putMember cls name none
      nothing,
    method0 "enum.EnumType.__repr__" fun cls => do
      return .text ((if ← isFlagClass cls then "<flag '" else "<enum '") ++ (← nameOfClass cls) ++ "'>")] ++
  ["Enum", "IntEnum", "StrEnum", "Flag", "IntFlag"].map fun n =>
    ("enum." ++ n, fun args named => callEnumeration (.type ("enum." ++ n)) args named)

def enumerationMemberShelf : Shelf :=
  let sameFor (types : List String) (name : String) (f : Value → Run Value) : Shelf :=
    types.map fun t => method0 ("enum." ++ t ++ "." ++ name) f
  let shownMember (isFlag : Bool) (self : Value) : Run Value := do
    let cls ← nameOfClass (← typeOf self)
    let worth ← shown (← memberWorth self)
    match ← nameOfMember self with
    | .text n => pure (.text ("<" ++ cls ++ "." ++ n ++ ": " ++ worth ++ ">"))
    | _ => pure (.text (if isFlag then "<" ++ cls ++ ": " ++ worth ++ ">" else "<" ++ cls ++ ">"))
  let textOfMember (self : Value) : Run Value := do
    let cls ← nameOfClass (← typeOf self)
    match ← nameOfMember self with
    | .text n => pure (.text (cls ++ "." ++ n))
    | _ => return .text (cls ++ "(" ++ (← shown (← memberWorth self)) ++ ")")
  let format (name : String) (textOf : Value → Run String) : String × Native :=
    method1 ("enum." ++ name ++ ".__format__") fun self spec => do
      let spec ← textArgument spec "format() argument 2 must be str, not "
      return .text (← formatted (.text (← textOf self)) spec)
  let plainFormat (name : String) : String × Native :=
    method1 ("enum." ++ name ++ ".__format__") fun self spec => do
      let spec ← textArgument spec "format() argument 2 must be str, not "
      return .text (← formatted (← unwrap self) spec)
  let memberText (self : Value) : Run String := plainText self
  let plainTypes := ["ReprEnum", "IntEnum", "StrEnum", "IntFlag"]
  sameFor ["Enum", "IntEnum", "StrEnum"] "__repr__" (shownMember false) ++
  sameFor ["Flag", "IntFlag"] "__repr__" (shownMember true) ++
  sameFor ["Enum", "Flag"] "__str__" textOfMember ++
  sameFor plainTypes "__str__" (fun self => do return .text (← plainText (← unwrap self))) ++
  [format "Enum" memberText, format "Flag" memberText] ++ plainTypes.map plainFormat

def flagShelf : Shelf :=
  let joining (name : String) (f : Int → Int → Int) : Shelf :=
    ["Flag", "IntFlag"].flatMap fun t =>
      ["__" ++ name ++ "__", "__r" ++ name ++ "__"].map fun n =>
        method1 ("enum." ++ t ++ "." ++ n) fun self other => do
          match ← bitsBeside self other with
          | some bits => findMember (← typeOf self) (.int (f (bitsOf (← memberWorth self)) bits))
          | none => pure .notImplemented
  joining "or" bitOr ++ joining "and" bitAnd ++ joining "xor" bitXor ++
  (["Flag", "IntFlag"].map fun t => method0 ("enum." ++ t ++ ".__invert__") fun self => do
    let cls ← typeOf self
    findMember cls (.int (bitXor (← allBits cls) (bitsOf (← memberWorth self))))) ++
  [method0 "enum.Flag.__bool__" fun self => do return .bool (bitsOf (← memberWorth self) != 0),
    method0 "enum.Flag.__len__" fun self => do
      return .int (← flagsIn (← typeOf self) (bitsOf (← memberWorth self))).length,
    method0 "enum.Flag.__iter__" fun self => do
      iterate (← newList (← flagsIn (← typeOf self) (bitsOf (← memberWorth self)))),
    method1 "enum.Flag.__contains__" fun self other => do
      let cls ← typeOf self
      if ← isOf other cls then
        let bits := bitsOf (← memberWorth other)
        return .bool (bitAnd bits (bitsOf (← memberWorth self)) == bits)
      else wrongType ("unsupported operand type(s) for 'in': '" ++ (← fullNameOfClass (← typeOf other)) ++
        "' and '" ++ (← fullNameOfClass cls) ++ "'")]

/-- The names of an enumeration that stand for members of other names. -/
def secondNames (cls : Value) : Run (List String) := do
  (← memberMap cls).toList.filterMapM fun e => do
    match e.key, ← nameOfMember e.value with
    | .text n, .text own => pure (if n == own then none else some (n ++ " -> " ++ own))
    | _, _ => pure none

def enumerationShelf : Shelf :=
  enumerationClassShelf ++ enumerationMemberShelf ++ flagShelf ++
  [some_ "enum.auto" 0 1 fun args => new "enum.auto" (.parts args),
    one "enum.member" fun v => new "enum.member" (.parts [v]),
    one "enum.nonmember" fun v => new "enum.nonmember" (.parts [v]),
    one "enum.property" fun f => native "property" [f],
    one "enum.unique" fun cls => do
      match ← secondNames cls with
      | [] => pure cls
      | names => wrongValue ("duplicate values found in " ++ (← shown cls) ++ ": " ++
          ", ".intercalate names),
    many "enum.verify" fun _ => do return .native "enum.global_enum",
    one "enum.global_enum" fun cls => pure cls]

end Library

end LiveSketch.Script

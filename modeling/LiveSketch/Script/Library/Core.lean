import LiveSketch.Script.Library.Number

/-!
# What every script has at hand

Functions that look at values of all kinds, print them, or make classes of them.
-/

namespace LiveSketch.Script

namespace Library

open Run

/-! ## Looking at values -/

/-- The classes that a value names: a class, a row of them, or a union. -/
def classesIn : Nat → Value → String → Run (List Value)
  | 0, v, _ => pure [v]
  | fuel + 1, v, words => do
    match v with
    | .tuple vs => vs.flatMapM fun c => classesIn fuel c words
    | v =>
      if ← isClass v then pure [v]
      else if ← isOfType v "types.UnionType" then unionParts v
      else if ← isOfType v "typing._GenericAlias" then
        wrongType "Subscripted generics cannot be used with class and instance checks"
      else if ← isOfType v "types.GenericAlias" then
        wrongType "isinstance() argument 2 cannot be a parameterized generic"
      else if ← isOfType v "typing._SpecialForm" then
        let meant ← basesFor 1 v
        if ← meant.allM isClass then pure meant else wrongType words
      else wrongType words

/-- A value belongs to one of the classes that another value names. -/
def isInstance (v classes : Value) : Run Bool := do
  let all ← classesIn 50 classes
    "isinstance() arg 2 must be a type, a tuple of types, or a union"
  all.anyM fun c => do
    match ← askClass? c "__instancecheck__" [v] with
    | some r => truth r
    | none => isOf v c

/-- A class extends one of the classes that a value names. -/
def isSubclass (c classes : Value) : Run Bool := do
  if !(← isClass c) then wrongType "issubclass() arg 1 must be a class"
  let all ← classesIn 50 classes
    "issubclass() arg 2 must be a class, a tuple of classes, or a union"
  all.anyM fun d => extends? c d

def objectMembers : List String :=
  ["__class__", "__delattr__", "__dir__", "__doc__", "__eq__", "__format__", "__ge__",
    "__getattribute__", "__getstate__", "__gt__", "__hash__", "__init__", "__init_subclass__", "__le__",
    "__lt__", "__ne__", "__new__", "__reduce__", "__reduce_ex__", "__repr__", "__setattr__",
    "__sizeof__", "__str__", "__subclasshook__"]

/-- The text keys of a table. -/
def namesIn (t : Table) : List String :=
  t.toList.filterMap fun e => match e.key with
    | .text s => some s
    | _ => none

def memberNames (v : Value) : Run (List String) := do
  let cls ← if ← isClass v then pure v else typeOf v
  let fromClasses ← (← orderOf cls).flatMapM fun c => do
    match c with
    | .ref a => return namesIn (← object a).attrs ++ ["__dict__", "__module__", "__weakref__"]
    | _ => pure []
  let own ← match v with
    | .ref a => pure (namesIn (← object a).attrs)
    | _ => pure []
  let isModule := match ← dataOf v with
    | .module _ => true
    | _ => false
  let all := if isModule then own else own ++ fromClasses ++ objectMembers
  pure ((all.eraseDups).mergeSort fun a b => decide (a ≤ b))

def hashOf (v : Value) : Run Value := do
  match ← ownSpecial? v "__hash__" with
  | some .none => unhashable v
  | some f => apply f [v]
  | none =>
    let k ← keyOf v
    pure (.int (match keyHash? k with
      | some h => h
      | none => wordHash (hash k) / 8))

/-- The best of some values: none of the others is better. -/
def best (name : String) (c : Comparison) (args : List Value) (key default_ : Value)
    (hasDefault : Bool) : Run Value := do
  let vs ← match args with
    | [] => wrongType (name ++ " expected at least 1 argument, got 0")
    | [v] => itemsOf v
    | vs =>
      if hasDefault then
        wrongType ("Cannot specify a default for " ++ name ++ "() with multiple positional arguments")
      else pure vs
  match vs with
  | [] => if hasDefault then pure default_ else wrongValue (name ++ "() arg is an empty sequence")
  | first :: rest => do
    let keyOf (v : Value) : Run Value := if key.isNone then pure v else apply key [v]
    let (v, _) ← rest.foldlM (fun ((v, k) : Value × Value) w => do
      let l ← keyOf w
      if ← truth (← compare c l k) then pure (w, l) else pure (v, k)) (first, ← keyOf first)
    pure v

/-- Adds values up from a first one. -/
def sumOf (v start : Value) : Run Value := do
  match start with
  | .text _ => wrongType "sum() can't sum strings [use ''.join(seq) instead]"
  | .bytes _ => wrongType "sum() can't sum bytes [use b''.join(seq) instead]"
  | _ => pure ()
  each v start fun total w => do return (← operate .add total w, true)

def printed (args : List Value) (named : List (String × Value)) : Run Value := do
  match named.find? fun e => !(["sep", "end", "file", "flush"].contains e.1) with
  | some (name, _) => wrongType ("'" ++ name ++ "' is an invalid keyword argument for print()")
  | none => pure ()
  let option (name default_ : String) : Run String := do
    match named.lookup name with
    | some (.text s) => pure s
    | some .none | none => pure default_
    | some v => wrongType (name ++ " must be None or a string, not " ++ (← typeName v))
  let sep ← option "sep" " "
  let last ← option "end" "\n"
  let texts ← args.mapM plainText
  let line := sep.intercalate texts ++ last
  modifyThe World fun w => { w with printed := w.printed ++ line }
  nothing

def makeRange (args : List Value) : Run Value := do
  match ← args.mapM asIndex with
  | [stop] => pure (.range 0 stop 1)
  | [start, stop] => pure (.range start stop 1)
  | [start, stop, step] =>
    if step = 0 then wrongValue "range() arg 3 must not be zero" else pure (.range start stop step)
  | _ => nothing

/-- The type of a value, or a new class. -/
def typeFunction (args : List Value) (named : List (String × Value)) : Run Value := do
  match args with
  | [v] => typeOf v
  | [name, .tuple bases, .ref body] => do
    let name ← textArgument name "type.__new__() argument 1 must be str, not "
    let above ← classOfBases bases (.type "type")
    newClass above name bases (← tableAt body) named
  | [.text _, .tuple _, body] =>
    wrongType ("type.__new__() argument 3 must be dict, not " ++ (← typeName body))
  | [.text _, bases, _] =>
    wrongType ("type.__new__() argument 2 must be tuple, not " ++ (← typeName bases))
  | [name, _, _] =>
    wrongType ("type.__new__() argument 1 must be str, not " ++ (← typeName name))
  | _ => wrongType "type() takes 1 or 3 arguments"

/-- Does something and gives a value for a missing member. -/
def orMissing (x : Run Value) (missing : Run Value) : Run Value :=
  orElse x fun fault => do
    if ← isOfType fault "AttributeError" then missing else raiseFault fault

def memberName (v : Value) : Run String := do
  match ← unwrap v with
  | .text s => pure s
  | _ => wrongType ("attribute name must be string, not '" ++ (← typeName v) ++ "'")

def lookingShelf : Shelf :=
  [one "len" fun v => do return .int (← lengthOf v),
    one "callable" fun v => do return .bool (← isCallable v),
    one "repr" fun v => do return .text (← shown v),
    one "ascii" fun v => do
      return .text (String.join ((← shown v).toList.map fun c =>
        if c.toNat < 0x80 then String.singleton c else numberEscape c)),
    one "hash" hashOf,
    one "id" fun v => do
      return .int (match v with
        | .ref a => 0x7F0000000000 + 16 * a
        | v => 0x7E0000000000 + 16 * (((keyOf? v).map fun k => ((hash k).toNat % 2 ^ 32 : Nat)).getD 0 : Nat)),
    one "all" fun v => each v (.bool true) fun _ w => do
      let t ← truth w
      pure (.bool t, t),
    one "any" fun v => each v (.bool false) fun _ w => do
      let t ← truth w
      pure (.bool t, !t),
    some_ "isinstance" 2 2 fun args => do
      return .bool (← isInstance (args.getD 0 .none) (args.getD 1 .none)),
    some_ "issubclass" 2 2 fun args => do
      return .bool (← isSubclass (args.getD 0 .none) (args.getD 1 .none)),
    some_ "getattr" 2 3 fun args => do
      let name ← memberName (args.getD 1 .none)
      let asked := getMember (args.getD 0 .none) name
      match args[2]? with
      | some d => orMissing asked (pure d)
      | none => asked,
    some_ "hasattr" 2 2 fun args => do
      let name ← memberName (args.getD 1 .none)
      orMissing (do
        discard (getMember (args.getD 0 .none) name)
        pure (.bool true)) (pure (.bool false)),
    some_ "setattr" 3 3 fun args => do
      setMember (args.getD 0 .none) (← memberName (args.getD 1 .none)) (args.getD 2 .none)
      nothing,
    some_ "delattr" 2 2 fun args => do
      dropMember (args.getD 0 .none) (← memberName (args.getD 1 .none))
      nothing,
    some_ "dir" 0 1 fun args => do
      listOf ((← memberNames (args.getD 0 .none)).map Value.text),
    some_ "vars" 0 1 fun args => do
      match ← member? (args.getD 0 .none) "__dict__" with
      | some d => pure d
      | none => wrongType "vars() argument must have __dict__ attribute",
    some_ "globals" 0 0 fun _ => do return .ref (← getThe World).globals,
    some_ "locals" 0 0 fun _ => do return .ref (← getThe World).globals,
    some_ "format" 1 2 fun args => do
      let spec ← textArgument (args.getD 1 (.text "")) "format() argument 2 must be str, not "
      return .text (← formatted (args.getD 0 .none) spec)]

/-- The functions that make and use values of all kinds. -/
def makingShelf : Shelf :=
  [("print", printed),
    ("type", typeFunction),
    ("max", fun args named => best "max" .gt args ((named.lookup "key").getD .none)
      ((named.lookup "default").getD .none) (named.lookup "default").isSome),
    ("min", fun args named => best "min" .lt args ((named.lookup "key").getD .none)
      ((named.lookup "default").getD .none) (named.lookup "default").isSome),
    withNames "sum" ["iterable", "start"] 1 [] fun args => match args with
      | [some v, s] => sumOf v (s.getD (.int 0))
      | _ => nothing,
    withNames "sorted" ["iterable"] 1 ["key", "reverse"] fun args => do
      match args with
      | [some v, key, backwards] =>
        listOf (← sortedBy (← itemsOf v) (Value.ofOption key) (← truth (backwards.getD (.bool false))))
      | _ => nothing,
    some_ "range" 1 3 makeRange,
    some_ "slice" 1 3 fun args => pure (match args with
      | [b] => .slice .none b .none
      | [a, b] => .slice a b .none
      | [a, b, c] => .slice a b c
      | _ => .none),
    one "chr" fun v => do
      let n ← asSmall v
      if n < 0 || 0x110000 ≤ n then wrongValue "chr() arg not in range(0x110000)"
      pure (.text (String.singleton (Char.ofNat n.toNat))),
    one "ord" fun v => do
      match ← unwrap v with
      | .text s => match s.toList with
        | [c] => pure (.int c.toNat)
        | cs => wrongType ("ord() expected a character, but string of length " ++
            toString cs.length ++ " found")
      | .bytes [b] => pure (.int b.toNat)
      | _ => wrongType ("ord() expected string of length 1, but " ++ (← typeName v) ++ " found"),
    some_ "iter" 1 2 fun args => match args with
      | [v] => iterate v
      | [f, sentinel] => do
        if ← isCallable f then new "callable_iterator" (.parts [f, sentinel])
        else wrongType "iter(v, w): v must be callable"
      | _ => nothing,
    method0 "callable_iterator.__next__" fun self => do
      match self, ← dataOf self with
      | .ref a, .parts [f, sentinel] => do
        let v ← apply f []
        if ← equalTo v sentinel then
          setData a (.parts [])
          stopIteration []
        else pure v
      | _, _ => stopIteration [],
    some_ "next" 1 2 fun args => do
      let it := args.getD 0 .none
      let ended (result : Value) : Run Value := match args with
        | [_, d] => pure d
        | _ => stopIteration (if result.isNone then [] else [result])
      match it, ← dataOf it with
      | .ref a, .generator _ => do
        match ← resume a (.send .none) with
        | .value v => pure v
        | .result r => ended r
      | _, _ => match ← special? it "__next__", args with
        | none, _ => wrongType ("'" ++ (← typeName it) ++ "' object is not an iterator")
        | some f, [_] => apply f [it]
        | some _, _ => match ← Run.next it with
          | some v => pure v
          | none => ended .none,
    ("object", fun args named => do
      if args.isEmpty && named.isEmpty then new "object" .plain
      else wrongType "object() takes no arguments"),
    some_ "input" 0 1 fun args => do
      args.forM fun v => do discard (printed [v] [("end", .text "")])
      raise "EOFError" "EOF when reading a line",
    some_ "exit" 0 1 fun args => raiseWith "SystemExit" [args.getD 0 .none],
    some_ "quit" 0 1 fun args => raiseWith "SystemExit" [args.getD 0 .none],
    some_ "help" 0 1 fun _ => nothing,
    some_ "copyright" 0 0 fun _ => nothing,
    some_ "credits" 0 0 fun _ => nothing,
    some_ "license" 0 0 fun _ => nothing,
    some_ "breakpoint" 0 0 fun _ => nothing,
    some_ "open" 1 8 fun args => do
      raiseWith "FileNotFoundError" [.int 2, .text "No such file or directory", args.getD 0 .none]]

/-! ## Members by functions -/

def propertyWith (self f : Value) (k : Nat) : Run Value := do
  match ← dataOf self with
  | .parts fs => new "property" (.parts (fs.set k f))
  | _ => pure self

/-- One of a property's functions, or the fault of one that is missing. -/
def propertyPart (self owner : Value) (k : Nat) (role : String) : Run Value := do
  match ← dataOf self with
  | .parts fs => match fs.getD k .none with
    | .none =>
      let name ← match fs.getD 0 .none with
        | .none => pure ""
        | f => match ← member? f "__name__" with
          | some (.text s) => pure (" '" ++ s ++ "'")
          | _ => pure ""
      raise "AttributeError" ("property" ++ name ++ " of '" ++
        (← fullNameOfClass (← typeOf owner)) ++ "' object has no " ++ role)
    | f => pure f
  | _ => pure .none

/-- Properties, and functions that belong to a class. -/
def memberShelf : Shelf :=
  [withNames "property" ["fget", "fset", "fdel", "doc"] 0 [] fun args =>
      new "property" (.parts (args.map Value.ofOption)),
    methodOf "property.__get__" 1 2 fun self args => match args with
      | .none :: _ => pure self
      | owner :: _ => do apply (← propertyPart self owner 0 "getter") [owner]
      | [] => pure self,
    methodOf "property.__set__" 2 2 fun self args => do
      discard (apply (← propertyPart self (args.getD 0 .none) 1 "setter") args)
      nothing,
    methodOf "property.__delete__" 1 1 fun self args => do
      discard (apply (← propertyPart self (args.getD 0 .none) 2 "deleter") args)
      nothing,
    method1 "property.getter" fun self f => propertyWith self f 0,
    method1 "property.setter" fun self f => propertyWith self f 1,
    method1 "property.deleter" fun self f => propertyWith self f 2,
    one "staticmethod" fun f => new "staticmethod" (.parts [f]),
    one "classmethod" fun f => new "classmethod" (.parts [f]),
    some_ "super" 0 2 fun args => match args with
      | [cls, self] => superOf cls self
      | _ => raise "RuntimeError" "super(): no arguments"]

/-! ## Objects and faults -/

def objectShelf : Shelf :=
  [("object.__new__", fun args _ => do
      match args with
      | cls :: _ => match cls with
        | .type name => call (.type name) [] []
        | cls => blankObject cls (← baseType cls) [] []
      | [] => wrongType "object.__new__(): not enough arguments"),
    ("object.__init__", fun args named => do
      if 1 < args.length || !named.isEmpty then
        wrongType "object.__init__() takes exactly one argument (the instance to initialize)"
      nothing),
    ("object.__init_subclass__", fun _ _ => nothing),
    methodOf "object.__setattr__" 2 2 fun self args => do
      storeMember self (← memberName (args.getD 0 .none)) (args.getD 1 .none)
      nothing,
    method1 "object.__getattribute__" fun self name => do
      let name ← memberName name
      match ← (do if ← isClass self then memberOfClass? self name else memberOfValue? self name) with
      | some v => pure v
      | none => hasNoMember self name,
    method1 "object.__delattr__" fun self name => do
      eraseMember self (← memberName name)
      nothing,
    method0 "object.__repr__" fun self => do
      match self with
      | .ref a => return .text (← objectShown self a)
      | v => return .text (← shown v),
    method0 "object.__str__" fun self => do return .text (← shown self),
    method1 "object.__format__" fun self spec => do
      match spec with
      | .text "" => return .text (← plainText self)
      | _ => wrongType ("unsupported format string passed to " ++ (← typeName self) ++ ".__format__"),
    method0 "object.__hash__" fun self => do
      return .int (wordHash (hash ((keyOf? self).getD (.object (self.address?.getD 0)))) / 8),
    method1 "object.__eq__" fun self other =>
      pure (if self.same other then .bool true else .notImplemented),
    method1 "object.__ne__" fun self other => do
      match ← askComparison self .eq other with
      | some r => return .bool (!(← truth r))
      | none => pure (if self.same other then .bool false else .notImplemented),
    method0 "object.__dir__" fun self => do listOf ((← memberNames self).map Value.text),
    ("type.__call__", fun args named => match args with
      | cls :: rest => match cls with
        | .type _ => call cls rest named
        | cls => construct cls rest named
      | [] => nothing),
    ("type.__new__", fun args named => do
      match args with
      | [above, name, .tuple bases, .ref body] =>
        newClass above (← textArgument name "type.__new__() argument 1 must be str, not ") bases
          (← tableAt body) named
      | _ => wrongType "type.__new__() takes exactly 3 arguments"),
    ("type.__init__", fun _ _ => nothing),
    method0 "type.mro" fun cls => do listOf (← orderOf cls),
    method0 "type.__subclasses__" fun cls => do
      let w ← getThe World
      let all := (List.range w.heap.size).filter fun k => match (w.heap[k]?).map Object.data with
        | some (.cls c) => c.bases.any (Value.same cls)
        | _ => false
      listOf (all.map Value.ref)]

def faultData (v : Value) : Run FaultData := do
  match ← dataOf v with
  | .fault f => pure f
  | _ => pure default

/-- The test by which a group is split: classes of faults, or a function. -/
def groupTest (test v : Value) : Run Bool := do
  if ← isFaultClasses test then faultMatches v test
  else if ← isCallable test then truth (← apply test [v])
  else wrongType "expected a function, exception type or tuple of exception types"

def faultShelf : Shelf :=
  [("BaseException.__new__", fun args named => match args with
      | cls :: rest => match cls with
        | .type _ => makeFault cls rest named
        | cls => do blankObject cls (← baseType cls) rest named
      | [] => nothing),
    ("BaseException.__init__", fun args named => do
      match args with
      | .ref a :: rest => do
        changeFault a fun f => { f with arguments := rest }
        named.forM fun (n, v) => changeMembers a (·.putName n v)
        nothing
      | _ => nothing),
    method0 "BaseException.__str__" fun self => do
      return .text (← faultWordsOf self (← faultData self)),
    method0 "BaseException.__repr__" fun self => do
      return .text (← faultShown (← nameOfClass (← typeOf self)) (← faultData self).arguments),
    method1 "BaseExceptionGroup.derive" fun self items => do
      apply (.type "BaseExceptionGroup") [(← faultData self).arguments.headD .none, items],
    method1 "BaseExceptionGroup.split" fun self test => do
      let (found, left) ← splitFault (groupTest test) maxGroupLevels self
      pure (.tuple [Value.ofOption found, Value.ofOption left]),
    method1 "BaseExceptionGroup.subgroup" fun self test => do
      return Value.ofOption (← splitFault (groupTest test) maxGroupLevels self).1,
    method1 "BaseException.with_traceback" fun self trace => do
      putMember self "__traceback__" (some trace)
      pure self,
    method1 "BaseException.add_note" fun self note => do
      discard (textArgument note "note must be a str, not ")
      match self with
      | .ref a => match (← object a).attrs.name? "__notes__" with
        | some (.ref notes) => changeList notes (·.push note)
        | _ => do
          let notes ← newList [note]
          changeMembers a (·.putName "__notes__" notes)
      | _ => pure ()
      nothing]

/-! ## Generators -/

/-- What a generator gave as a value, or the end of it as a fault. -/
def yieldedValue (y : Yielded) : Run Value := do
  match y with
  | .value v => pure v
  | .result .none => stopIteration []
  | .result r => stopIteration [r]

/-- The fault that throwing some arguments means. -/
def thrownFault (args : List Value) : Run Value := do
  match args with
  | [v] => faultOf v "exceptions must be classes or instances deriving from BaseException, not int"
  | cls :: v :: _ =>
    if v.isNone then faultOf cls "exceptions must be classes or instances deriving from BaseException"
    else if ← isFault v then pure v
    else apply cls [v]
  | [] => wrongType "throw expected at least 1 argument, got 0"

def closeGenerator (self : Value) : Run Value := do
  match self, ← dataOf self with
  | .ref a, .generator (.waiting _ false) =>
    orElse (do
      match ← resume a (.raise (← newFault "GeneratorExit" [])) with
      | .value _ => raise "RuntimeError" "generator ignored GeneratorExit"
      | .result _ => nothing) fun fault => do
        if (← isOfType fault "GeneratorExit") || (← isOfType fault "StopIteration") then nothing
        else raiseFault fault
  | .ref a, .generator (.waiting _ true) => do
    setData a (.generator .finished)
    nothing
  | _, _ => nothing

def generatorShelf : Shelf :=
  ["generator", "coroutine"].flatMap fun type =>
    let resumed (self : Value) (r : Resume) : Run Value := do
      match self with
      | .ref a => yieldedValue (← resume a r)
      | _ => nothing
    [method1 (type ++ ".send") fun self v => resumed self (.send v),
      methodOf (type ++ ".throw") 1 3 fun self args => do resumed self (.raise (← thrownFault args)),
      method0 (type ++ ".close") closeGenerator] ++
    (if type == "generator" then
      [method0 "generator.__next__" fun self => resumed self (.send .none),
        method0 "generator.__iter__" fun self => pure self]
    else [])

/-- The types of iterators that keep what is left, or the place they have come to. -/
def dataIterators : List String :=
  ["list_iterator", "range_iterator", "tuple_iterator", "str_iterator", "str_ascii_iterator",
    "bytes_iterator", "dict_keyiterator", "dict_valueiterator", "dict_itemiterator", "set_iterator",
    "iterator"]

def iteratorShelf : Shelf :=
  dataIterators.flatMap fun type =>
    [method0 (type ++ ".__next__") fun self => do
        match self, ← dataOf self with
        | .ref a, .parts parts => match ← dataStep? type a parts with
          | some (some v) => pure v
          | _ => stopIteration []
        | _, _ => stopIteration [],
      method0 (type ++ ".__iter__") fun self => pure self,
      method0 (type ++ ".__length_hint__") fun self => do
        match ← dataOf self with
        | .parts [.int _, .int _, .int left] => pure (.int left)
        | .parts parts => pure (.int parts.length)
        | _ => pure (.int 0)]

/-- The functions that every script has at hand. -/
def coreShelf : Shelf :=
  numberShelf ++ lookingShelf ++ makingShelf ++ memberShelf ++ objectShelf ++ faultShelf ++ generatorShelf ++
    iteratorShelf

end Library

end LiveSketch.Script

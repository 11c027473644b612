import LiveSketch.Script.Machine.Match

/-!
# One step

What each operation does with the activation that comes to it.
-/

namespace LiveSketch.Script

/-- What a step comes to. -/
inductive Stepped where
  | on (a : Activation)
  /-- A call: the activation waits for the value of another. -/
  | into (a callee : Activation)
  | give (v : Value)
  | yield (v : Value) (a : Activation)
  /-- A fault goes on its way from where it was handled. -/
  | again (fault : Value)

namespace Activation

def with_ (a : Activation) (stack : List Value) : Activation := { a with stack := stack }

def pushed (a : Activation) (v : Value) : Activation := { a with stack := v :: a.stack }

def standingAt (a : Activation) (place : Nat) : Activation := { a with place := place }

end Activation

namespace Run

/-! ## Names -/

/-- The value of a name that the language itself has. -/
def builtin? (name : String) : Run (Option Value) := do
  if namedTypes.contains name then pure (some (.type name))
  else match typeAliases.lookup name with
    | some type => pure (some (.type type))
    | none =>
      if isFaultType name then pure (some (.type name))
      else match name with
        | "Ellipsis" => pure (some .ellipsis)
        | "NotImplemented" => pure (some .notImplemented)
        | "None" => pure (some .none)
        | "True" => pure (some (.bool true))
        | "False" => pure (some (.bool false))
        | "__debug__" => pure (some (.bool true))
        | _ =>
          if !name.toList.contains '.' && (← knows name) then pure (some (.native name)) else pure none

/-- Raises the fault of a name that is not known. -/
def unknownName {α : Type} (name : String) : Run α := do
  let fault ← newFault "NameError" [.text ("name '" ++ name ++ "' is not defined")]
  match fault with
  | .ref a => changeMembers a (·.putName "name" (.text name))
  | _ => pure ()
  raiseFault fault

/-- Raises the fault of a name of a function that has no value. -/
def unsetName {α : Type} (name : String) : Run α :=
  raise "UnboundLocalError"
    ("cannot access local variable '" ++ name ++ "' where it is not associated with a value")

/-- The value of a name of the script or of the language. -/
def loadGlobal (globals : Nat) (name : String) : Run Value := do
  match (← tableAt globals).name? name with
  | some v => pure v
  | none => match ← builtin? name with
    | some v => pure v
    | none => unknownName name

/-- The value of a name in the table of an activation. -/
def nameIn? (a : Activation) (name : String) : Run (Option Value) := do
  match a.names with
  | some address => return (← tableAt address).name? name
  | none => pure none

def cellValue? (a : Activation) (cell : Nat) : Run (Option Value) := do
  match ← dataOf (.ref (a.cells.getD cell 0)) with
  | .cell v => pure v
  | _ => pure none

def loadCell (a : Activation) (cell : Nat) (name : String) : Run Value := do
  match ← cellValue? a cell with
  | some v => pure v
  | none =>
    let code := ((← getThe World).codes[a.code]?).getD default
    if cell < code.shared.size then unsetName name
    else raise "NameError" ("cannot access free variable '" ++ name ++
      "' where it is not associated with a value in enclosing scope")

def stepName (a : Activation) (o : Op) : Run Activation := do
  let table := a.names.getD a.globals
  match o, a.stack with
  | .loadSlot slot name, stack => match (a.slots[slot]?).join with
    | some v => pure (a.with_ (v :: stack))
    | none => unsetName name
  | .storeSlot slot, v :: stack =>
    pure { a with slots := a.slots.setIfInBounds slot (some v), stack := stack }
  | .dropSlot slot name, _ =>
    if ((a.slots[slot]?).join).isNone then unsetName name
    else pure { a with slots := a.slots.setIfInBounds slot none }
  | .loadCell cell name, _ => return a.pushed (← loadCell a cell name)
  | .storeCell cell, v :: stack => do
    setData (a.cells.getD cell 0) (.cell (some v))
    pure (a.with_ stack)
  | .dropCell cell name, _ => do
    discard (loadCell a cell name)
    setData (a.cells.getD cell 0) (.cell none)
    pure a
  | .shareCell cell, _ => pure (a.pushed (.ref (a.cells.getD cell 0)))
  | .loadNameOrCell cell name, _ => match ← nameIn? a name with
    | some v => pure (a.pushed v)
    | none => return a.pushed (← loadCell a cell name)
  | .loadGlobal name, _ => return a.pushed (← loadGlobal a.globals name)
  | .storeGlobal name, v :: stack => do
    changeTable a.globals (·.putName name v)
    pure (a.with_ stack)
  | .dropGlobal name, _ => do
    if !(← tableAt a.globals).contains (.text name) then unknownName name
    changeTable a.globals (·.erase (.text name))
    pure a
  | .loadName name, _ => match ← nameIn? a name with
    | some v => pure (a.pushed v)
    | none => return a.pushed (← loadGlobal a.globals name)
  | .storeName name, v :: stack => do
    match (← object table).cls with
    | .type "dict" => changeTable table (·.putName name v)
    | _ => setItem (.ref table) (.text name) v
    pure (a.with_ stack)
  | .dropName name, _ => do
    if !(← tableAt table).contains (.text name) then unknownName name
    changeTable table (·.erase (.text name))
    pure a
  | .declareTypes, _ => do
    if !(← tableAt table).contains (.text "__annotations__") then
      let d ← newDict .empty
      changeTable table (·.putName "__annotations__" d)
    pure a
  | _, _ => pure a

/-! ## Values -/

/-- The words that name what is called, in the words of faults. -/
def calledName (f : Value) : Run String := do
  match ← member? f "__qualname__" with
  | some (.text name) =>
    match ← member? f "__module__" with
    | some (.text "builtins") | some .none | none => pure (name ++ "()")
    | some (.text owner) => pure (owner ++ "." ++ name ++ "()")
    | _ => pure (name ++ "()")
  | _ => plainText f

def pairsOf? (v : Value) : Run (Option (List (Value × Value))) := do
  match v with
  | .ref a => match (← object a).data with
    | .dict _ | .members _ => return some ((← tableAt a).toList.map fun e => (e.name, e.value))
    | _ =>
      match ← ownSpecial? v "keys" with
      | none => pure none
      | some f => do
        let keys ← itemsOf (← apply f [v])
        return some (← keys.mapM fun k => do return (k, ← getItem v k))
  | _ => pure none

/-- Adds named arguments to those that are there. -/
def extendNamed (f : Value) (dict : Nat) (v : Value) : Run Unit := do
  match ← pairsOf? v with
  | none => wrongType ((← calledName f) ++ " argument after ** must be a mapping, not " ++ (← typeName v))
  | some pairs => pairs.forM fun (k, v) => do
    let key ← keyOf k
    if (← tableAt dict).contains key then
      wrongType ((← calledName f) ++ " got multiple values for keyword argument '" ++ (← plainText k) ++ "'")
    changeTable dict (·.put key k v)

def stepBuild (a : Activation) (o : Op) : Run Activation := do
  let stack := a.stack
  let row (n : Nat) : List Value := (stack.take n).reverse
  let rest (n : Nat) : List Value := stack.drop n
  let address (depth : Nat) (stack : List Value) : Nat := ((stack[depth]?).bind Value.address?).getD 0
  match o, stack with
  | .buildTuple n, _ => pure (a.with_ (.tuple (row n) :: rest n))
  | .buildList n, _ => return a.with_ ((← newList (row n)) :: rest n)
  | .buildSet n, _ => do
    let t ← (row n).foldlM (fun (t : Table) v => do return t.put (← keyOf v) v .none) Table.empty
    return a.with_ ((← new "set" (.set t)) :: rest n)
  | .buildDict n, _ => do
    let rec pairs (t : Table) : List Value → Run Table
      | k :: v :: more => do pairs (t.put (← keyOf k) k v) more
      | _ => pure t
    let t ← pairs .empty (row (2 * n))
    return a.with_ ((← newDict t) :: rest (2 * n))
  | .buildSlice, c :: b :: a' :: stack => pure (a.with_ (.slice a' b c :: stack))
  | .joinTexts n, _ => do
    let texts ← (row n).mapM plainText
    pure (a.with_ (.text (String.join texts) :: rest n))
  | .format conversion hasSpec, _ => do
    let (spec, stack) := match hasSpec, stack with
      | true, s :: stack => (s, stack)
      | _, stack => (.text "", stack)
    match stack with
    | v :: stack => do
      let v ← if conversion = 114 then do pure (.text (← shown v))
        else if conversion = 115 then do pure (.text (← plainText v))
        else if conversion = 97 then do return a.with_ ((← native "ascii" [v]) :: stack)
        else pure v
      let spec := match spec with
        | .text s => s
        | _ => ""
      return a.with_ (.text (← formatted v spec) :: stack)
    | _ => pure a
  | .appendTo depth, v :: stack => do
    changeList (address depth stack) (·.push v)
    pure (a.with_ stack)
  | .addTo depth, v :: stack => do
    let k ← keyOf v
    changeTable (address depth stack) fun t => if t.contains k then t else t.put k v .none
    pure (a.with_ stack)
  | .putIn depth, v :: k :: stack => do
    let key ← keyOf k
    changeTable (address depth stack) (·.put key k v)
    pure (a.with_ stack)
  | .extendList, v :: stack => do
    let vs ← orElse (itemsOf v) fun fault => do
      if (← isOfType fault "TypeError") && (← dataIterator? v).isNone && !(← isIterator v) then
        wrongType ("Value after * must be an iterable, not " ++ (← typeName v))
      else raiseFault fault
    changeList (address 0 stack) (· ++ vs.toArray)
    pure (a.with_ stack)
  | .extendSet, v :: stack => do
    let vs ← itemsOf v
    vs.forM fun v => do
      let k ← keyOf v
      changeTable (address 0 stack) fun t => if t.contains k then t else t.put k v .none
    pure (a.with_ stack)
  | .extendDict, v :: stack => do
    match ← pairsOf? v with
    | none => wrongType ("'" ++ (← typeName v) ++ "' object is not a mapping")
    | some pairs => pairs.forM fun (k, v) => do
      let key ← keyOf k
      changeTable (address 0 stack) (·.put key k v)
    pure (a.with_ stack)
  | .extendNamed, v :: stack => do
    extendNamed (stack.getD 2 .none) (address 0 stack) v
    pure (a.with_ stack)
  | .listToTuple, v :: stack => return a.with_ (.tuple (← itemsOf v) :: stack)
  | .makeFunction code hasDefaults hasNamed hasDeclared cells, _ => do
    let (cellValues, stack) := (row cells, rest cells)
    let (declared, stack) := if hasDeclared then (stack.head?, stack.drop 1) else (none, stack)
    let (named, stack) := if hasNamed then (stack.head?, stack.drop 1) else (none, stack)
    let (defaults, stack) := if hasDefaults then (stack.head?, stack.drop 1) else (none, stack)
    let namedDefaults ← match named with
      | some (.ref d) => pure ((← tableAt d).toList.filterMap fun e => match e.key with
        | .text s => some (s, e.value)
        | _ => none)
      | _ => pure []
    let f : FunctionData :=
      { code := code, cells := cellValues.filterMap Value.address?, globals := a.globals
        namedDefaults := namedDefaults
        defaults := match defaults with
          | some (.tuple vs) => vs
          | _ => [] }
    let declared ← match declared with
      | some d => pure d
      | none => newDict .empty
    let module_ := ((← tableAt a.globals).name? "__name__").getD .none
    let attrs := (Table.empty.putName "__annotations__" declared).putName "__module__" module_
    let v ← newObject ⟨.type "function", attrs, .function f⟩
    pure (a.with_ (v :: stack))
  | _, _ => pure a

/-- An operation that computes with values. -/
def stepOperate (a : Activation) (o : Op) : Run Activation := do
  match o, a.stack with
  | .unary op, v :: stack => return a.with_ ((← operateOn op v) :: stack)
  | .binary op, w :: v :: stack => return a.with_ ((← operate op v w) :: stack)
  | .update op, w :: v :: stack => return a.with_ ((← update op v w) :: stack)
  | .compare op, w :: v :: stack => do
    let r ← match op with
      | .is => pure (.bool (v.same w))
      | .isNot => pure (.bool (!v.same w))
      | .in => do pure (.bool (← isIn v w))
      | .notIn => do pure (.bool (!(← isIn v w)))
      | c => compare c v w
    pure (a.with_ (r :: stack))
  | .loadMember name, v :: stack => return a.with_ ((← getMember v name) :: stack)
  | .storeMember name, owner :: v :: stack => do
    setMember owner name v
    pure (a.with_ stack)
  | .dropMember name, owner :: stack => do
    dropMember owner name
    pure (a.with_ stack)
  | .loadItem, i :: v :: stack => return a.with_ ((← getItem v i) :: stack)
  | .storeItem, i :: owner :: v :: stack => do
    setItem owner i v
    pure (a.with_ stack)
  | .dropItem, i :: owner :: stack => do
    dropItem owner i
    pure (a.with_ stack)
  | .iterate, v :: stack => return a.with_ ((← iterate v) :: stack)
  | .unpack n, v :: stack => return a.with_ ((← unpacked v n) ++ stack)
  | .unpackRest before after, v :: stack => return a.with_ ((← unpackedRest v before after) ++ stack)
  | .next target, it :: stack => match ← next it with
    | some v => pure (a.with_ (v :: it :: stack))
    | none => pure ((a.with_ stack).standingAt target)
  | .matchSequence, v :: stack => return a.with_ (.bool (← isRow v) :: v :: stack)
  | .matchLength n isLeast, v :: stack => do
    let size ← lengthOf v
    pure (a.with_ (.bool (if isLeast then n ≤ size else size = n) :: v :: stack))
  | .matchMapping, v :: stack => return a.with_ (.bool (← isMapping v) :: v :: stack)
  | .matchKeys n, stack => do
    let keys := (stack.take n).reverse
    let stack := stack.drop n
    match ← matchedKeys (stack.headD .none) keys with
    | some vs => pure (a.with_ (.bool true :: (vs ++ stack)))
    | none => pure (a.with_ (.bool false :: stack))
  | .matchRest n, stack => do
    let keys := (stack.take n).reverse
    let stack := stack.drop n
    return a.with_ ((← matchedRest (stack.headD .none) keys) :: stack.drop 1)
  | .matchClass placed names, cls :: v :: stack => do
    match ← matchedAttributes v cls placed names with
    | some vs => pure (a.with_ (.bool true :: (vs ++ stack)))
    | none => pure (a.with_ (.bool false :: stack))
  | _, _ => pure a

/-! ## Flow -/

/-- An operation that decides where to go on. -/
def stepFlow (a : Activation) (o : Op) : Run Activation := do
  match o, a.stack with
  | .push v, stack => pure (a.with_ (v :: stack))
  | .jump target, _ => pure (a.standingAt target)
  | .jumpIfFalse target, v :: stack => do
    let a := a.with_ stack
    pure (if ← truth v then a else a.standingAt target)
  | .jumpIfTrue target, v :: stack => do
    let a := a.with_ stack
    pure (if ← truth v then a.standingAt target else a)
  | .jumpIfFalseOrPop target, v :: stack => do
    pure (if ← truth v then a.with_ stack else a.standingAt target)
  | .jumpIfTrueOrPop target, v :: stack => do
    pure (if ← truth v then a.standingAt target else a.with_ stack)
  | .pop, _ :: stack => pure (a.with_ stack)
  | .copy depth, stack => pure (a.with_ (stack.getD depth .none :: stack))
  | .swap, v :: w :: stack => pure (a.with_ (w :: v :: stack))
  | .sink, v :: w :: x :: stack => pure (a.with_ (w :: x :: v :: stack))
  | .guard handler held, stack =>
    pure { a with blocks := .guard handler (stack.length - held) :: a.blocks }
  | .unguard, _ => pure { a with blocks := a.blocks.drop 1 }
  | .leaveHandler, _ => do
    match a.blocks with
    | .handler before :: blocks =>
      modifyThe World fun w => { w with handled := before }
      pure { a with blocks := blocks }
    | _ => pure a
  | _, _ => pure a

/-! ## Faults and contexts -/

/-- The fault that a raised value stands for: a class is asked for a new one. -/
def faultOf (v : Value) (words : String) : Run Value := do
  let isFaultClass ← if ← isClass v then extends? v (.type "BaseException") else pure false
  if isFaultClass then
    let made ← apply v []
    if ← isFault made then pure made
    else wrongType ("calling " ++ (← shown v) ++ " should have returned an instance of BaseException, not " ++
      (← shown (← typeOf made)))
  else if ← isFault v then pure v
  else wrongType words

/-- Notes the fault that is being handled as the context of one that is raised. -/
def noteContext (fault : Value) : Run Unit := do
  let handled := (← getThe World).handled
  match fault, handled with
  | .ref a, some h =>
    if h.same fault then pure () else changeFault a fun f => { f with context := some h }
  | _, _ => pure ()

/-- Raises a value, with what it was raised from. -/
def raiseValue {α : Type} (v : Value) (cause : Option Value) : Run α := do
  let fault ← faultOf v "exceptions must derive from BaseException"
  match fault, cause with
  | .ref a, some .none => changeFault a fun f => { f with cause := none, hidesContext := true }
  | .ref a, some c =>
    let c ← faultOf c "exception causes must derive from BaseException"
    changeFault a fun f => { f with cause := some c, hidesContext := true }
  | _, _ => pure ()
  noteContext fault
  raiseFault fault

/-- The value is a class of faults, or a row of them. -/
def isFaultClasses : Value → Run Bool
  | .tuple vs => vs.allM fun v => do
    if ← isClass v then extends? v (.type "BaseException") else pure false
  | v => do if ← isClass v then extends? v (.type "BaseException") else pure false

def faultMatches (fault classes : Value) : Run Bool := do
  if !(← isFaultClasses classes) then
    wrongType "catching classes that do not inherit from BaseException is not allowed"
  match classes with
  | .tuple vs => vs.anyM fun c => isOf fault c
  | c => isOf fault c

/-- The two functions of a context. -/
def contextParts (v : Value) : Run (Value × Value) := do
  let missing {α : Type} (more : String) : Run α := do
    wrongType ("'" ++ (← typeName v) ++ "' object does not support the context manager protocol" ++ more)
  let cls ← typeOf v
  match ← special? v "__enter__" with
  | none => missing ""
  | some enter => match ← special? v "__exit__" with
    | none => missing " (missed __exit__ method)"
    | some exit => return (← stand enter (some v) cls, ← stand exit (some v) cls)

/-- An operation on faults and contexts. -/
def stepFault (a : Activation) (o : Op) : Run Stepped := do
  match o, a.stack with
  | .reraise, v :: _ => pure (.again v)
  | .matchFault, classes :: fault :: stack =>
    return .on (a.with_ (.bool (← faultMatches fault classes) :: fault :: stack))
  | .splitFault, classes :: rest :: stack => do
    if rest.isNone then return .on (a.with_ (.bool false :: .none :: rest :: stack))
    if !(← isFaultClasses classes) then
      wrongType "catching classes that do not inherit from BaseException is not allowed"
    let named := match classes with
      | .tuple vs => vs
      | c => [c]
    if ← named.anyM fun c => extends? c (.type "BaseExceptionGroup") then
      wrongType "catching ExceptionGroup with except* is not allowed. Use except instead."
    let (found, left) ← splitFault (faultMatches · classes) maxGroupLevels rest
    match found with
    | none => pure (.on (a.with_ (.bool false :: .none :: rest :: stack)))
    | some v =>
      let v ← if ← isGroup v then pure v else groupWith (.text "") [v] default
      modifyThe World fun w => { w with handled := some v }
      pure (.on (a.with_ (.bool true :: v :: Value.ofOption left :: stack)))
  | .joinFaults, rest :: .ref list :: fault :: stack => do
    let raised := (← listItems list).toList
    match ← joinFaults fault raised (if rest.isNone then none else some rest) with
    | some v => pure (.on (a.with_ (.bool true :: v :: stack)))
    | none => pure (.on (a.with_ (.bool false :: .none :: stack)))
  | .raise 0, _ => match (← getThe World).handled with
    | some fault => pure (.again fault)
    | none => raise "RuntimeError" "No active exception to reraise"
  | .raise 1, v :: _ => raiseValue v none
  | .raise _, cause :: v :: _ => raiseValue v (some cause)
  | .failAssertion hasMessage, v :: _ =>
    raiseWith "AssertionError" (if hasMessage then [v] else [])
  | .enter, v :: stack => do
    let (enter, exit) ← contextParts v
    let value ← apply enter []
    pure (.on (a.with_ (value :: exit :: stack)))
  | .exit, exit :: stack => do
    discard (apply exit [.none, .none, .none])
    pure (.on (a.with_ stack))
  | .exitFault, fault :: exit :: stack => do
    let trace ← getMember fault "__traceback__"
    let r ← apply exit [← typeOf fault, fault, trace]
    pure (.on (a.with_ (r :: fault :: exit :: stack)))
  | _, _ => pure (.on a)

/-! ## Imports -/

def importedMember (m : Value) (name : String) : Run Value := do
  match ← member? m name with
  | some v => pure v
  | none =>
    let owner ← match ← member? m "__name__" with
      | some (.text s) => pure s
      | _ => pure "<unknown module name>"
    raise "ImportError" ("cannot import name '" ++ name ++ "' from '" ++ owner ++ "' (unknown location)")

def stepImport (a : Activation) (o : Op) : Run Activation := do
  match o, a.stack with
  | .importModule name members level, stack => do
    let asked := if members.isEmpty then .none else .tuple (members.map Value.text)
    let m ← native "__import__" [.text name, .ref a.globals, .none, asked, .int level]
    pure (a.with_ (m :: stack))
  | .importMember name, m :: stack => return a.with_ ((← importedMember m name) :: m :: stack)
  | .importDeep names, m :: stack => return a.with_ ((← names.foldlM importedMember m) :: stack)
  | .importAll, m :: stack => do
    match m with
    | .ref address => do
      let attrs := (← object address).attrs
      let table := a.names.getD a.globals
      let names ← match attrs.name? "__all__" with
        | some all => itemsOf all
        | none => pure ((attrs.toList.map Entry.name).filter fun n => match n with
          | .text s => !s.startsWith "_"
          | _ => false)
      names.forM fun n => do
        match n with
        | .text s => do
          let v ← getMember m s
          changeTable table (·.putName s v)
        | _ => pure ()
    | _ => pure ()
    pure (a.with_ stack)
  | _, _ => pure a

/-! ## Calls -/

def localNames (a : Activation) : Run Value := do
  match a.names with
  | some address => pure (.ref address)
  | none =>
    let code := ((← getThe World).codes[a.code]?).getD default
    let own := (code.slots.toList.zip a.slots.toList).filterMap fun (n, v) =>
      if n.startsWith "." || code.shared.contains n then none else v.map (n, ·)
    let cellNames := code.shared.toList ++ code.outer.toList
    let shared ← (cellNames.zip (List.range cellNames.length)).filterMapM fun (n, k) => do
      return (← cellValue? a k).map (n, ·)
    newDict ((own ++ shared).foldl (fun t (n, v) => t.putName n v) .empty)

/-- The class and the first argument that an activation was called for. -/
def surroundings (a : Activation) : Run (Value × Value) := do
  let code := ((← getThe World).codes[a.code]?).getD default
  match code.outer.findIdx? (· == "__class__") with
  | none =>
    if code.positional = 0 then raise "RuntimeError" "super(): no arguments"
    else raise "RuntimeError" "super(): __class__ cell not found"
  | some k =>
    if code.positional = 0 then raise "RuntimeError" "super(): no arguments"
    else match ← cellValue? a (code.shared.size + k), (a.slots[0]?).join with
      | some cls, some self => pure (cls, self)
      | none, _ => raise "RuntimeError" "super(): empty __class__ cell"
      | _, none => raise "RuntimeError" "super(): arg[0] deleted"

/-- What a class makes visible of what it extends, for an object. -/
def superOf (cls self : Value) : Run Value := do
  let selfClass ← typeOf self
  if ← extends? selfClass cls then new "super" (.parts [cls, self, selfClass])
  else if ← isClass self then
    if ← extends? self cls then new "super" (.parts [cls, self, self])
    else wrongType "super(type, obj): obj must be an instance or subtype of type"
  else wrongType "super(type, obj): obj must be an instance or subtype of type"

def callHere? (a : Activation) (f : Value) (args : List Value) (named : List (String × Value)) :
    Run (Option Value) := do
  match f, args with
  | .native "locals", [] => return some (← localNames a)
  | .native "vars", [] => return some (← localNames a)
  | .native "globals", [] => pure (some (.ref a.globals))
  | .native "dir", [] => do
    let names ← itemsOf (← localNames a)
    return some (← native "sorted" [← newList names])
  | .type "super", [] => do
    let (cls, self) ← surroundings a
    return some (← superOf cls self)
  | .native "eval", [source] | .native "exec", [source] => do
    if named.isEmpty then
      return some (← apply f [source, .ref a.globals, ← localNames a])
    else pure none
  | .native "eval", [source, globals] | .native "exec", [source, globals] =>
    return some (← apply f [source, globals, globals])
  | _, _ => pure none

def callFrom (a : Activation) (f : Value) (args : List Value) (named : List (String × Value)) :
    Run Stepped := do
  match ← callHere? a f args named with
  | some v => pure (.on (a.pushed v))
  | none => match ← enter f args named with
    | .value v => pure (.on (a.pushed v))
    | .activation callee => pure (.into a callee)

/-- The dictionary that a class body fills: a plain one, or the one that the class of the class asks
for. -/
def preparedBody (name : String) (bases : List Value) (named : List (String × Value)) : Run Nat := do
  let plain : Run Nat := do return ((← newDict .empty).address?).getD 0
  let first := (named.lookup "metaclass").getD (.type "type")
  if !(← (first :: bases).allM isClass) then return ← plain
  let above ← classOfBases bases first
  let rest := named.filter fun e => e.1 != "metaclass"
  match ← lookupIn (← orderOf above) "__prepare__" with
  | none => plain
  | some f =>
    let body ← match f with
      | .native _ => call f [above, .text name, .tuple bases] rest
      | f => call (← stand f none above) [.text name, .tuple bases] rest
    match body, ← dataOf body with
    | .ref d, .dict _ => pure d
    | _, _ =>
      wrongType ((← nameOfClass above) ++ ".__prepare__() must return a mapping, not " ++ (← typeName body))

def classOfBody (body : Value) (bases : List Value) (named : List (String × Value)) (globals : Nat) :
    Run Value := do
  match ← dataOf body with
  | .function f => do
    let c ← codeOf f
    let written := bases
    let bases ← resolvedBases written
    let address ← preparedBody c.name bases named
    let inner ← activationOf f.code c [] f.cells (some address) globals
    discard (perform inner)
    if !(written.length == bases.length && (written.zip bases).all fun (a, b) => a.same b) then
      setItem (.ref address) (.text "__orig_bases__") (.tuple written)
    classFrom c.name bases address named
  | _ => pure .none

/-- The named arguments in a dictionary. -/
def namedIn (dict : Value) : Run (List (String × Value)) := do
  match dict with
  | .ref d => (← tableAt d).toList.mapM fun e => do
    match e.name with
    | .text s => pure (s, e.value)
    | _ => wrongType "keywords must be strings"
  | _ => pure []

def spreadArguments (f v : Value) : Run (List Value) := do
  match v with
  | .tuple vs => pure vs
  | v => orElse (itemsOf v) fun fault => do
    if (← isOfType fault "TypeError") && (← dataIterator? v).isNone && !(← isIterator v) &&
        (← ownSpecial? v "__iter__").isNone then
      wrongType ((← calledName f) ++ " argument after * must be an iterable, not " ++ (← typeName v))
    else raiseFault fault

def stepCall (a : Activation) (o : Op) : Run Stepped := do
  let stack := a.stack
  match o with
  | .call count names => do
    let values := (stack.take names.length).reverse
    let stack := stack.drop names.length
    let args := (stack.take count).reverse
    match stack.drop count with
    | f :: stack => callFrom (a.with_ stack) f args (names.zip values)
    | [] => pure (.on a)
  | .callSpread hasNamed => do
    let (dict, stack) := if hasNamed then (stack.headD .none, stack.drop 1) else (.none, stack)
    match stack with
    | row :: f :: stack => do
      let args ← spreadArguments f row
      callFrom (a.with_ stack) f args (← namedIn dict)
    | _ => pure (.on a)
  | .makeClass count names => do
    let values := (stack.take names.length).reverse
    let stack := stack.drop names.length
    let bases := (stack.take count).reverse
    match stack.drop count with
    | body :: stack => do
      let cls ← classOfBody body bases (names.zip values) a.globals
      pure (.on (a.with_ (cls :: stack)))
    | [] => pure (.on a)
  | .makeClassSpread hasNamed => do
    let (dict, stack) := if hasNamed then (stack.headD .none, stack.drop 1) else (.none, stack)
    match stack with
    | row :: body :: stack => do
      let cls ← classOfBody body (← itemsOf row) (← namedIn dict) a.globals
      pure (.on (a.with_ (cls :: stack)))
    | _ => pure (.on a)
  | _ => pure (.on a)

/-! ## Generators -/

/-- Sends a value to an iterator that another goes through: a value on the way, or its result. -/
def sendTo (it v : Value) : Run Yielded := do
  match it with
  | .ref a => match (← object a).data with
    | .generator _ => return ← resume a (.send v)
    | _ => pure ()
  | _ => pure ()
  let asked : Run Value := do
    match v, ← special? it "send" with
    | .none, _ | _, none => match ← special? it "__next__" with
      | some f => apply f [it]
      | none => match ← next it with
        | some v => pure v
        | none => stopIteration []
    | _, some send => apply send [it, v]
  orElse (do return .value (← asked)) fun fault => do
    match fault with
    | .ref a =>
      if ← isOfType fault "StopIteration" then
        match (← object a).data with
        | .fault f => pure (.result (f.arguments.headD .none))
        | _ => pure (.result .none)
      else raiseFault fault
    | _ => raiseFault fault

def stepYield (a : Activation) (o : Op) : Run Stepped := do
  match o, a.stack with
  | .yield, v :: stack => pure (.yield v (a.with_ stack))
  | .delegate, v :: it :: stack => do
    match ← sendTo it v with
    | .value y => pure (.yield y ((a.with_ (it :: stack)).standingAt (a.place - 1)))
    | .result r => pure (.on (a.with_ (r :: stack)))
  | .awaitable, v :: stack => do
    match ← callSpecial? v "__await__" [] with
    | some it => pure (.on (a.with_ (it :: stack)))
    | none =>
      if ← isOfType v "coroutine" then pure (.on a)
      else wrongType ("object " ++ (← typeName v) ++ " can't be used in 'await' expression")
  | _, _ => pure (.on a)

/-! ## All operations -/

/-- Carries out the operation that an activation has come to. -/
def step (a : Activation) : Run Stepped := do
  let code := ((← getThe World).codes[a.code]?).getD default
  match code.ops[a.place]? with
  | none => pure (.give .none)
  | some (o, _) =>
    let a := a.standingAt (a.place + 1)
    match o with
    | .give => pure (.give (a.stack.headD .none))
    | .push _ | .jump _ | .jumpIfFalse _ | .jumpIfTrue _ | .jumpIfFalseOrPop _ | .jumpIfTrueOrPop _
    | .pop | .copy _ | .swap | .sink | .guard _ _ | .unguard | .leaveHandler =>
      return .on (← stepFlow a o)
    | .loadSlot _ _ | .storeSlot _ | .dropSlot _ _ | .loadCell _ _ | .storeCell _ | .dropCell _ _
    | .shareCell _ | .loadNameOrCell _ _ | .loadGlobal _ | .storeGlobal _ | .dropGlobal _
    | .loadName _ | .storeName _ | .dropName _ | .declareTypes =>
      return .on (← stepName a o)
    | .buildTuple _ | .buildList _ | .buildSet _ | .buildDict _ | .buildSlice | .joinTexts _
    | .format _ _ | .appendTo _ | .addTo _ | .putIn _ | .extendList | .extendSet | .extendDict
    | .extendNamed | .listToTuple | .makeFunction _ _ _ _ _ =>
      return .on (← stepBuild a o)
    | .unary _ | .binary _ | .update _ | .compare _ | .loadMember _ | .storeMember _ | .dropMember _
    | .loadItem | .storeItem | .dropItem | .iterate | .next _ | .unpack _ | .unpackRest _ _
    | .matchSequence | .matchLength _ _ | .matchMapping | .matchKeys _ | .matchRest _
    | .matchClass _ _ =>
      return .on (← stepOperate a o)
    | .call _ _ | .callSpread _ | .makeClass _ _ | .makeClassSpread _ => stepCall a o
    | .yield | .delegate | .awaitable => stepYield a o
    | .reraise | .matchFault | .splitFault | .joinFaults | .raise _ | .failAssertion _ | .enter | .exit
    | .exitFault =>
      stepFault a o
    | .importModule _ _ _ | .importMember _ | .importAll | .importDeep _ =>
      return .on (← stepImport a o)
    | .nothing => pure (.on a)

end Run

end LiveSketch.Script

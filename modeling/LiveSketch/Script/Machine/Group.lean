import LiveSketch.Script.Machine.Member

/-!
# Groups of faults

A fault may stand for several others. A group is split by a test into the part whose faults pass it
and the part whose faults do not; either part is built like the whole.
-/

namespace LiveSketch.Script

namespace Run

def isGroup (v : Value) : Run Bool := isOfType v "BaseExceptionGroup"

def faultDataOf (v : Value) : Run FaultData := do
  match ← dataOf v with
  | .fault f => pure f
  | _ => pure default

def groupItems (v : Value) : Run (List Value) := do
  match (← faultDataOf v).arguments with
  | [_, .tuple vs] => pure vs
  | [_, .ref a] => return (← listItems a).toList
  | _ => pure []

/-- A new group of faults, with the history of another fault. -/
def groupWith (words : Value) (items : List Value) (history : FaultData) : Run Value := do
  let arePlain ← items.allM fun v => isOfType v "Exception"
  let list ← newList items
  new (if arePlain then "ExceptionGroup" else "BaseExceptionGroup")
    (.fault { history with arguments := [words, list] })

/-- A group like another one, of some of its faults. -/
def groupLike (group : Value) (items : List Value) : Run (Option Value) := do
  if items.isEmpty then return none
  let f ← faultDataOf group
  match ← ownSpecial? group "derive" with
  | some (.ref d) =>
    let made ← apply (← stand (.ref d) (some group) (← typeOf group)) [← newList items]
    match made with
    | .ref a => change a fun o => match o with
      | ⟨cls, attrs, .fault d⟩ => ⟨cls, attrs, .fault { f with arguments := d.arguments }⟩
      | o => o
    | _ => pure ()
    pure (some made)
  | _ => return some (← groupWith (f.arguments.headD .none) items f)

/-- Splits a fault by a test into what passes and what does not, for groups of at most so many
levels. -/
def splitFault (test : Value → Run Bool) : Nat → Value → Run (Option Value × Option Value)
  | 0, v => pure (none, some v)
  | fuel + 1, v => do
    if ← test v then return (some v, none)
    if !(← isGroup v) then return (none, some v)
    let parts ← (← groupItems v).mapM (splitFault test fuel)
    return (← groupLike v (parts.filterMap Prod.fst), ← groupLike v (parts.filterMap Prod.snd))

/-- How deep groups are followed. -/
def maxGroupLevels : Nat := 200

/-- The faults in a group that are no groups themselves. -/
def leavesOf : Nat → Value → Run (List Value)
  | 0, v => pure [v]
  | fuel + 1, v => do
    if ← isGroup v then (← groupItems v).flatMapM (leavesOf fuel) else pure [v]

/-- Two faults were raised in the same way from the same places. -/
def haveSameHistory (a b : Value) : Run Bool := do
  let f ← faultDataOf a
  let g ← faultDataOf b
  let same (v w : Option Value) : Bool := (Value.ofOption v).same (Value.ofOption w)
  pure (f.frames == g.frames && same f.cause g.cause && same f.context g.context)

/-- What is raised after the handlers of a fault: the faults that they have raised, together with
what none of them has handled. -/
def joinFaults (fault : Value) (raised : List Value) (rest : Option Value) : Run (Option Value) := do
  if !(← isGroup fault) then return (raised ++ rest.toList).head?
  let again ← (raised ++ rest.toList).filterM (haveSameHistory fault)
  let fresh ← raised.filterM fun v => do return !(← haveSameHistory fault v)
  let kept ← again.flatMapM (leavesOf maxGroupLevels)
  let (left, _) ← splitFault (fun v => do
    return !(← isGroup v) && kept.any (Value.same v)) maxGroupLevels fault
  if fresh.isEmpty then pure left
  else return some (← groupWith (.text "") (fresh ++ left.toList) default)

def groupWords (v : Value) : Run String := do
  let words := match (← faultDataOf v).arguments with
    | .text s :: _ => s
    | _ => ""
  let count := (← groupItems v).length
  pure (words ++ " (" ++ toString count ++ " sub-exception" ++ (if count = 1 then "" else "s") ++ ")")

/-- Refuses arguments that do not make a group of a class. -/
def checkGroup (cls : Value) (args : List Value) : Run Unit := do
  match args with
  | [words, items] => do
    match words with
    | .text _ => pure ()
    | v => wrongType ("argument 1 must be str, not " ++ (← typeName v))
    let faults ← match items with
      | .tuple vs => pure vs
      | .ref a => match (← object a).data with
        | .list vs => pure vs.toList
        | _ => wrongType "second argument (exceptions) must be a sequence"
      | _ => wrongType "second argument (exceptions) must be a sequence"
    if faults.isEmpty then wrongValue "second argument (exceptions) must be a non-empty sequence"
    for (v, k) in faults.zip (List.range faults.length) do
      if !(← isFault v) then
        wrongValue ("Item " ++ toString k ++ " of second argument (exceptions) is not an exception")
      if (← extends? cls (.type "Exception")) && !(← isOfType v "Exception") then
        let name ← nameOfClass cls
        wrongType ("Cannot nest BaseExceptions in " ++
          (if name == "ExceptionGroup" then "an ExceptionGroup" else "'" ++ name ++ "'"))
  | _ =>
    wrongType ("BaseExceptionGroup.__new__() takes exactly 2 arguments (" ++ toString args.length ++
      " given)")

end Run

end LiveSketch.Script

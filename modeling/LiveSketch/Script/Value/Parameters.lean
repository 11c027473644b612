/-!
# Arguments and parameters

Which parameter gets which argument of a call. Arguments by place go to the parameters in order, what
is left to the parameter for the rest; arguments by name go to the parameters of their names. Each
parameter must get just one value, or have one of its own.
-/

namespace LiveSketch.Script

/-- The parameters of a function, in order. Those of `placed` before `placedOnly` cannot be given by
name, those of `namedOnly` only by name. -/
structure Parameters where
  placed : List String
  placedOnly : Nat
  namedOnly : List String
  hasRest : Bool
  hasNamedRest : Bool
deriving Repr

/-- Why arguments do not fit parameters. -/
inductive Misfit where
  | repeated (name : String)
  | unexpected (name : String)
  | placedOnlyByName (names : List String)
  | tooMany (least most given namedOnly : Nat)
  | missing (names : List String)
  | missingNamed (names : List String)
deriving DecidableEq, Repr

/-- The values of parameters: those by place, those only by name, the rest, and the named rest. -/
structure Bound (α : Type) where
  placed : List α
  namedOnly : List α
  rest : List α
  namedRest : List (String × α)

def putAt {α : Type} (values : List (Option α)) (place : Nat) (a : α) : List (Option α) :=
  values.set place (some a)

def namePhrase (names : List String) : String :=
  let quotes (s : String) : String := "'" ++ s ++ "'"
  match names with
  | [] => ""
  | [a] => quotes a
  | [a, b] => quotes a ++ " and " ++ quotes b
  | _ => ", ".intercalate (names.dropLast.map quotes) ++ ", and " ++ quotes (names.getLastD "")

namespace Misfit

/-- A word in the plural unless there is just one. -/
def plural (n : Nat) : String := if n = 1 then "" else "s"

/-- The words of a misfit, after the function's name. -/
def words : Misfit → String
  | repeated name => "got multiple values for argument '" ++ name ++ "'"
  | unexpected name => "got an unexpected keyword argument '" ++ name ++ "'"
  | placedOnlyByName names =>
    "got some positional-only arguments passed as keyword arguments: '" ++ ", ".intercalate names ++ "'"
  | tooMany least most given namedOnly =>
    let range := if least = most then toString most
      else "from " ++ toString least ++ " to " ++ toString most
    let few := least = most && most = 1
    let also := if namedOnly = 0 then ""
      else " positional argument" ++ plural given ++ " (and " ++ toString namedOnly ++
        " keyword-only argument" ++ plural namedOnly ++ ")"
    "takes " ++ range ++ " positional argument" ++ (if few then "" else "s") ++ " but " ++
      toString given ++ also ++ (if given = 1 && namedOnly = 0 then " was given" else " were given")
  | missing names =>
    "missing " ++ toString names.length ++ " required positional argument" ++ plural names.length ++
      ": " ++ namePhrase names
  | missingNamed names =>
    "missing " ++ toString names.length ++ " required keyword-only argument" ++ plural names.length ++
      ": " ++ namePhrase names

end Misfit

namespace Parameters

variable {α : Type}

/-- The values so far, by place and by name only, and the named rest. -/
abbrev Partial (α : Type) := List (Option α) × List (Option α) × List (String × α)

/-- Gives the argument of a name to its parameter. -/
def giveNamed (p : Parameters) (named : List (String × α)) (s : Partial α) (name : String) (a : α) :
    Except Misfit (Partial α) :=
  let (placed, namedOnly, rest) := s
  match (p.placed.drop p.placedOnly).findIdx? (· == name) with
  | some k =>
    let place := p.placedOnly + k
    if ((placed[place]?).join).isSome then .error (.repeated name)
    else .ok (putAt placed place a, namedOnly, rest)
  | none => match p.namedOnly.findIdx? (· == name) with
    | some k =>
      if ((namedOnly[k]?).join).isSome then .error (.repeated name)
      else .ok (placed, putAt namedOnly k a, rest)
    | none =>
      if p.hasNamedRest then .ok (placed, namedOnly, rest ++ [(name, a)])
      else
        let byName := (p.placed.take p.placedOnly).filter fun n => named.any fun e => e.1 == n
        if byName.isEmpty then .error (.unexpected name) else .error (.placedOnlyByName byName)

/-- Gives all arguments by name to their parameters. -/
def giveAllNamed (p : Parameters) (named : List (String × α)) :
    Partial α → List (String × α) → Except Misfit (Partial α)
  | s, [] => .ok s
  | s, (name, a) :: more => do giveAllNamed p named (← giveNamed p named s name a) more

/-- Fills up with the parameters' own values; the names of those left without a value. -/
def fillUp (values : List (Option α)) (own : List (Option α)) (names : List String) :
    List (Option α) × List String :=
  let filled := (values.zip own).map fun (v, d) => v <|> d
  (filled, (filled.zip names).filterMap fun (v, n) => if v.isNone then some n else none)

/-- Gives arguments to parameters. `defaults` belong to the last parameters by place. -/
def bind (p : Parameters) (defaults : List α) (namedDefaults : List (String × α)) (args : List α)
    (named : List (String × α)) : Except Misfit (Bound α) := do
  let count := p.placed.length
  let placed := (args.take count).map some ++ List.replicate (count - args.length) none
  let (placed, namedOnly, rest) ←
    giveAllNamed p named (placed, p.namedOnly.map fun _ => none, []) named
  if count < args.length && !p.hasRest then
    .error (.tooMany (count - defaults.length) count args.length
      (namedOnly.filter Option.isSome).length)
  let own := List.replicate (count - defaults.length) none ++ defaults.map some
  let (placed, missing) := fillUp placed own p.placed
  if !missing.isEmpty then .error (.missing missing)
  let (namedOnly, missing) := fillUp namedOnly (p.namedOnly.map fun n => namedDefaults.lookup n) p.namedOnly
  if !missing.isEmpty then .error (.missingNamed missing)
  pure ⟨placed.filterMap id, namedOnly.filterMap id, args.drop count, rest⟩

end Parameters

end LiveSketch.Script

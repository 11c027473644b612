import LiveSketch.Reference.Hook
import LiveSketch.Script.Library.Catalog

/-!
# Imports of a running script

A script gets a module as an object with the module's members. Which modules it may have is for its
references to say.
-/

namespace LiveSketch.Script

namespace Library

open Run

def memberValue (name : String) : Member → Run Value
  | .value v => pure v
  | .named type => new type (.parts [.text name])
  | .texts entries => newDict (entries.foldl (fun t (k, v) => t.putName k (.text v)) .empty)

/-- The object of a module, made when it is first asked for; the modules below it are made so many
levels deep. -/
def moduleObject : Nat → String → Run Value
  | 0, _ => nothing
  | depth + 1, name => do
    match (← getThe World).modules.lookup name with
    | some a => pure (.ref a)
    | none => do
      let header : List (String × Value) :=
        [("__name__", .text name), ("__doc__", .none), ("__package__", .text (ownerPart name)),
          ("__loader__", .none), ("__spec__", .none)]
      let own ← ((catalog.lookup name).getD []).mapM fun (n, m) => do
        return (n, ← memberValue n m)
      let m ← newObject ⟨.type "module",
        (header ++ own).foldl (fun t (n, v) => t.putName n v) .empty, .module name⟩
      match m with
      | .ref a => do
        modifyThe World fun w => { w with modules := (name, a) :: w.modules }
        if name == "PIL" then
          for below in pictureModules do
            let inner ← moduleObject depth ("PIL." ++ below)
            changeMembers a (·.putName below inner)
      | _ => pure ()
      pure m

/-- Raises the fault of a refused import. -/
def refuse {α : Type} (r : ImportRefusal) : Run α := do
  let fault ← newFault "ImportError" [.text r.message]
  match fault, r.about with
  | .ref a, some name => changeMembers a (·.putName "name" (.text name))
  | _, _ => pure ()
  raiseFault fault

/-- Answers an import of a running script. -/
def importModule (args : List (Option Value)) : Run Value := do
  match args with
  | [some name, _, _, members, level] => do
    let level ← match level with
      | some v => asIndex v
      | none => pure 0
    let wanted ← match members.getD .none with
      | .none => pure []
      | v => do
        (← itemsOf v).filterMapM fun m => do
          match ← unwrap m with
          | .text s => pure (some s)
          | _ => wrongType ("hasattr(): attribute name must be string")
    let w ← getThe World
    let name ← match ← unwrap name with
      | .text s => pure s
      | v => do
        if level ≠ 0 then refuse .relative
        else refuse (.unavailable (← plainText v))
    match w.references.serve w.loaded ⟨name, wanted, level⟩ with
    | .ok module => moduleObject 3 module
    | .error r => refuse r
  | _ => nothing

def importShelf : Shelf :=
  [withNames "__import__" ["name", "globals", "locals", "fromlist", "level"] 1 [] importModule]

end Library

/-- References whose modules have the members that scripts can import from them. -/
def withMembers (r : References) : References :=
  ⟨r.modules.map fun m => { m with members := m.members ++ Library.memberNamesOf m.name }⟩

end LiveSketch.Script

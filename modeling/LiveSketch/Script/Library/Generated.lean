import LiveSketch.Script.Library.Core

/-!
# Functions that belong to classes

A function of the language that needs to know for which class it was made: it is kept in the class
like a function of the script, becomes a method of its objects, and is called with the class first.
-/

namespace LiveSketch.Script

namespace Library

open Run

/-- A function of the language made for a class. -/
def madeFor (cls : Value) (full name : String) : Run Value := do
  let f ← new "function" (.parts [cls, .native full])
  match f with
  | .ref a => do
    let owner ← fullNameOfClass cls
    changeMembers a fun t =>
      ((t.putName "__name__" (.text name)).putName "__qualname__" (.text (owner ++ "." ++ name))).putName
        "__doc__" .none
  | _ => pure ()
  pure f

/-- Puts a function of the language, made for a class, into it. -/
def putMadeFor (cls : Value) (full name : String) : Run Unit := do
  match cls with
  | .ref a => do
    let f ← madeFor cls full name
    changeMembers a (·.putName name f)
  | _ => pure ()

def functionShelf : Shelf :=
  [("function.__call__", fun args named => do
      match args with
      | f :: rest => match ← dataOf f with
        | .parts [cls, made] => call made (cls :: rest) named
        | _ => call f rest named
      | [] => nothing),
    methodOf "function.__get__" 1 2 fun f args => match args with
      | .none :: _ => pure f
      | self :: _ => pure (.bound self f)
      | [] => pure f]

end Library

end LiveSketch.Script

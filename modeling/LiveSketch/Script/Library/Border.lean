import LiveSketch.Script.Library.Core

/-!
# The border of a script

Values as plain data for the host, and calls of the canvas, which note those data at once.
-/

namespace LiveSketch.Script

namespace Library

open Run

/-- A value as plain data; what is no plain value is known by its type. Rows inside of rows are
followed so many levels deep. -/
def datumOf : Nat → Value → Run Datum
  | 0, v => do return .object (← typeName v)
  | depth + 1, v => do
    let object : Run Datum := do return .object (lastPart (← typeName v))
    let entries (t : Table) : Run Datum := do
      return .dict (← t.toList.mapM fun e => do
        return (← datumOf depth e.name, ← datumOf depth e.value))
    match ← unwrap v with
    | .none => pure .none
    | .bool b => pure (.bool b)
    | .int n => pure (.int n)
    | .float x => pure (.float x)
    | .text s => pure (.text s)
    | .tuple vs => return .tuple (← vs.mapM (datumOf depth))
    | .ref a => match (← Run.object a).data with
      | .list items => return .list (← items.toList.mapM (datumOf depth))
      | .dict t => entries t
      | .members owner =>
        if (← Run.object a).cls.same (.type "dict") then entries (← Run.object owner).attrs else object
      | _ => object
    | _ => object

/-- How deep plain data are followed. -/
def maxDepthOfData : Nat := 200

def callCanvas (args : List Value) (named : List (String × Value)) : Run Value := do
  match args with
  | .text method :: rest => do
    let arguments ← rest.mapM (datumOf maxDepthOfData)
    let named ← named.mapM fun (n, v) => do return (n, ← datumOf maxDepthOfData v)
    let made : CanvasCall := ⟨method, arguments, named⟩
    match (← getThe World).canvas.accepts made with
    | .ok () => do
      modifyThe World fun w => { w with drawn := w.drawn.push made }
      nothing
    | .error fault => match fault.words with
      | .ok words => raise fault.name words
      | .error _ => nothing
  | _ => nothing

def borderShelf : Shelf := [("canvas", callCanvas)]

end Library

end LiveSketch.Script

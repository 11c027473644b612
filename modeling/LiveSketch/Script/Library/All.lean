import LiveSketch.Script.Library.Border
import LiveSketch.Script.Library.Bytes
import LiveSketch.Script.Library.Color
import LiveSketch.Script.Library.Complex
import LiveSketch.Script.Library.Enumeration
import LiveSketch.Script.Library.Evaluate
import LiveSketch.Script.Library.Functional
import LiveSketch.Script.Library.Import
import LiveSketch.Script.Library.Iterator
import LiveSketch.Script.Library.Layout
import LiveSketch.Script.Library.Mathematics
import LiveSketch.Script.Library.Random
import LiveSketch.Script.Library.Record
import LiveSketch.Script.Library.Row
import LiveSketch.Script.Library.Statistics
import LiveSketch.Script.Library.Text
import LiveSketch.Script.Library.Typing
import LiveSketch.Script.Machine.Loop

/-!
# All functions of the language

Every function that scripts can reach, by its full name, and the machine that knows them.
-/

namespace LiveSketch.Script

def allShelves : Shelf :=
  Library.coreShelf ++ Library.rowShelf ++ Library.textShelf ++ Library.bytesShelf ++ Library.layoutShelf ++ Library.iteratorsShelf ++
    Library.operatorShelf ++ Library.functionalShelf ++ Library.mathShelf ++ Library.borderShelf ++
    Library.evaluateShelf ++ Library.importShelf ++ Library.colorShelf ++ Library.randomShelf ++
    Library.statisticsShelf ++ Library.enumerationShelf ++
    Library.typingShelf ++ Library.recordShelf ++ Library.complexShelf

/-- The functions of the language by their full names. -/
def nativeTable : Std.HashMap String Native := Std.HashMap.ofList allShelves

def machine : Host := hostOf (fun name => nativeTable[name]?) maxLevels

end LiveSketch.Script

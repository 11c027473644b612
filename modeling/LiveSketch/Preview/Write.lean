import LiveSketch.Fault.Basic
import LiveSketch.Preview.Path

/-!
# Writing a preview

What becomes of a finished picture: a file named after its document, a note that it could not be
written, or a fault.
-/

namespace LiveSketch

/-- What became of a picture. -/
inductive PreviewWrite where
  | stored (name : String)
  | unwritable
  | refused (fault : Fault)
deriving Inhabited

/-- The most bytes a file name may have. -/
def maxNameBytes : Nat := 255

/-- Writes the picture of a document. `blocked` says that the directory cannot be made. The name is
found first, then the directory, and a picture without pixels fails last. -/
def writePreview (blocked : Bool) (address : String) (width height : Int) : PreviewWrite :=
  match previewName address with
  | .error words => .refused (.plain "ValueError" words)
  | .ok name =>
    if name.toList.contains '\x00' then
      .refused (.plain "ValueError" "lstat: embedded null character in path")
    else if blocked || maxNameBytes < name.utf8ByteSize then .unwritable
    else if width = 0 ∨ height = 0 then
      .refused (.plain "SystemError" "tile cannot extend outside image")
    else .stored name

namespace PreviewWrite

def fault? : PreviewWrite → Option Fault
  | refused fault => some fault
  | _ => none

end PreviewWrite

end LiveSketch

/-!
# Faults

What a running script can raise. A fault is known by the name of its class, by how far it reaches
through the host and by its cause. Everything else the host has to ask: for the words of the fault,
for the frames it has gone through, outermost first. What answers can be code of the script, so each
inquiry may change the script and may raise another fault.
-/

namespace LiveSketch

/-- How far a fault reaches: the host stops ordinary ones and requests to exit, all others go
through it. -/
inductive Reach where
  | ordinary | exit | beyond
deriving DecidableEq, Repr, Inhabited

/-- One frame of a fault's way: the file and the line in it. -/
structure Frame where
  file : String
  line : Int
deriving DecidableEq, Repr, Inhabited

/-- A raised fault. A wrapper stands for its cause. -/
inductive Fault where
  /-- A fault of which everything is known. -/
  | mk (name : String) (reach : Reach) (isWrapper : Bool) (words : Except Fault String)
      (cause : Option Fault) (frames : List Frame)
  /-- A fault of a running script, which answers by itself what it is asked. -/
  | live (name : String) (reach : Reach) (cause : Option Fault) (handle : Nat)

/-- What a host asks a fault that it stopped: whether it wraps its cause, the name of its class, how
it reads in a line of text, the frames it went through, its words, and whether words count as any. -/
inductive Inquiry where
  | isWrapper | className | line | frames | words
  | counts (words : String)
deriving DecidableEq, Repr

@[reducible] def Inquiry.Answer : Inquiry → Type
  | isWrapper | counts _ => Bool
  | className | line | words => String
  | frames => List Frame

namespace Fault

instance : Inhabited Fault := ⟨mk "Exception" .ordinary false (.ok "") none []⟩

def name : Fault → String
  | mk name _ _ _ _ _ | live name _ _ _ => name

def reach : Fault → Reach
  | mk _ reach _ _ _ _ | live _ reach _ _ => reach

def cause : Fault → Option Fault
  | mk _ _ _ _ cause _ | live _ _ cause _ => cause

/-- The words known of the fault, or the fault that asking for them raises. -/
def words : Fault → Except Fault String
  | mk _ _ _ words _ _ => words
  | live .. => .ok ""

def known : Fault → (q : Inquiry) → Except Fault q.Answer
  | mk _ _ isWrapper _ cause _, .isWrapper => .ok (isWrapper && cause.isSome)
  | live .., .isWrapper => .ok false
  | fault, .className => .ok fault.name
  | fault, .line | fault, .words => fault.words
  | mk _ _ _ _ _ frames, .frames => .ok frames
  | live .., .frames => .ok []
  | _, .counts words => .ok (!words.isEmpty)

/-- The fault after it went through further frames on its way out. -/
def through (outer : List Frame) : Fault → Fault
  | mk name reach isWrapper words cause frames =>
    mk name reach isWrapper words cause (outer ++ frames)
  | other => other

def plain (name words : String) : Fault := mk name .ordinary false (.ok words) none []

def isStopped (f : Fault) : Bool := f.reach != .beyond

/-- A fault raised by the host in place of its cause. -/
def wrapping (words : String) (cause : Fault) : Fault :=
  mk "EntryPointInvocationError" .ordinary true (.ok words) (some cause) []

end Fault

end LiveSketch

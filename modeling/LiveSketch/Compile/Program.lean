import LiveSketch.Fault.Basic
import LiveSketch.Tree.Node

/-!
# What the language makes of one text

A compile asks the language three things: the tree of a text, whether code can be generated from it,
and a script ready to run. Each of the first two issues warnings on the way and may break down.
-/

namespace LiveSketch

/-- A warning issued while a text is read or code is generated. -/
structure Warning where
  category : String
  message : String
  line : Int
  file : String
deriving DecidableEq, Repr, Inhabited

/-- A text that is not in the language, with the place as far as it is known: 1-based lines and
1-based columns. -/
structure Malformed where
  message : String
  line : Option Int
  column : Option Int
  endLine : Option Int
  endColumn : Option Int
  file : Option String
deriving DecidableEq, Repr, Inhabited

/-- Why a phase of the language broke down: over the text, over a value in it, or otherwise. -/
inductive Breakdown where
  | malformed (e : Malformed)
  | badValue (fault : Fault)
  | other (fault : Fault)
deriving Inhabited

/-- What a phase of the language did: its warnings in order, and its end. -/
structure Phase (α : Type) where
  warnings : List Warning
  ended : Except Breakdown α

/-- What the language makes of one text: its tree, its code, and the state of an engine that is
about to run it. -/
structure Program (σ : Type) where
  parse : Phase Node
  emit : Phase Unit
  start : σ

end LiveSketch

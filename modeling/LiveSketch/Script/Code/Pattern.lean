import LiveSketch.Script.Code.Emitter

/-!
# Code of patterns

A pattern takes a value from the stack. What it captures is kept in slots until all of it has
matched; where it does not match, it goes on behind the pattern and drops what it has left on the
stack.
-/

namespace LiveSketch.Script

namespace Emit

def literalValue : Literal → Value
  | .none => .none
  | .ellipsis => .ellipsis
  | .bool b => .bool b
  | .int n => .int n
  | .float x => .float x
  | .imaginary x => .complex 0.0 x
  | .text s => .text s
  | .bytes bs => .bytes bs
  | .other _ => .none

def push (v : Value) : Emit Unit := op (.push v)

/-! ## Misses -/

/-- The slot in which a pattern keeps what it captures until it has matched. -/
def captureSlot (name : String) : Emit Nat := slotOf (".match." ++ name)

/-- Notes a jump away, with so many values to drop. -/
def noteMiss (place depth : Nat) : Emit Unit :=
  change fun u => { u with misses := (place, depth) :: u.misses }

/-- Jumps away if the top value is false. -/
def missIfFalse (depth : Nat) : Emit Unit := do noteMiss (← hole .jumpIfFalse) depth

def miss (depth : Nat) : Emit Unit := do noteMiss (← hole .jump) depth

/-- Writes with misses of its own, and gives them. -/
def missesOf (x : Emit Unit) : Emit (List (Nat × Nat)) := do
  let before := (← current).misses
  change fun u => { u with misses := [] }
  x
  let misses := (← current).misses
  change fun u => { u with misses := before }
  pure misses

/-- Goes on here after a miss, once what it left on the stack is dropped. -/
def landMisses (misses : List (Nat × Nat)) : Emit Unit := do
  let deepest := misses.foldl (fun d m => max d m.2) 0
  let left (depth : Nat) : List Nat := (misses.filter fun m => m.2 = depth).map Prod.fst
  (List.range deepest).reverse.forM fun k => do
    fillAll (left (k + 1))
    op .pop
  fillAll (left 0)

/-! ## Patterns -/

def captured (n : Node) : List String :=
  (n.all.flatMap fun m => match m.form with
    | .matchAs _ name | .matchStar name => name.toList
    | .matchMapping _ _ rest => rest.toList
    | _ => []).eraseDups

/-- The pattern takes what is left of a row. -/
def isStarPattern (n : Node) : Bool :=
  match n.form with
  | .matchStar _ => true
  | _ => false

/-- Keeps the top value as a capture, or drops it. -/
def keep (name : Option String) : Emit Unit := do
  match name with
  | none => op .pop
  | some name => op (.storeSlot (← captureSlot name))

/-- Writes a pattern of at most so many levels; a miss has `depth` further values to drop. -/
def pattern (value : Node → Emit Unit) : Nat → Nat → Node → Emit Unit
  | 0, _, _ => op .pop
  | fuel + 1, depth, n => within n.span.line do
    let row (below : Nat) (patterns : List Node) : Emit Unit :=
      (patterns.zip (List.range patterns.length).reverse).forM fun (p, left) =>
        pattern value fuel (below + left) p
    match n.form with
    | .matchValue v => do
      value v
      op (.compare .eq)
      missIfFalse depth
    | .matchSingleton v => do
      push (literalValue v)
      op (.compare .is)
      missIfFalse depth
    | .matchAs none name | .matchStar name => keep name
    | .matchAs (some p) name => do
      op (.copy 0)
      pattern value fuel (depth + 1) p
      keep name
    | .matchOr patterns => do
      let done ← patterns.mapM fun p => do
        op (.copy 0)
        let misses ← missesOf (pattern value fuel 0 p)
        let done ← hole .jump
        landMisses misses
        pure done
      op .pop
      miss depth
      fillAll done
      op .pop
    | .matchSequence patterns => do
      op .matchSequence
      missIfFalse (depth + 1)
      let before := (patterns.takeWhile fun p => !isStarPattern p).length
      if before = patterns.length then
        op (.matchLength patterns.length false)
        missIfFalse (depth + 1)
        op (.unpack patterns.length)
      else
        op (.matchLength (patterns.length - 1) true)
        missIfFalse (depth + 1)
        op (.unpackRest before (patterns.length - before - 1))
      row depth patterns
    | .matchMapping keys patterns rest => do
      op .matchMapping
      missIfFalse (depth + 1)
      if !keys.isEmpty then
        op (.matchLength keys.length true)
        missIfFalse (depth + 1)
        keys.forM value
        op (.matchKeys keys.length)
        missIfFalse (depth + 1)
        row (depth + 1) patterns
      if rest.isSome then
        keys.forM value
        op (.matchRest keys.length)
      keep rest
    | .matchClass cls patterns attributes attributePatterns => do
      value cls
      op (.matchClass patterns.length attributes)
      missIfFalse depth
      row depth (patterns ++ attributePatterns)
    | _ => op .pop

end Emit

end LiveSketch.Script

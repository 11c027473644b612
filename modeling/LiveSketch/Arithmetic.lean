/-!
# Powers and sums

Numbers have several powers and several zeros to offer, one for each algebra a module may have in
scope. A definition means the same in every module only if it names one of them, so the language's
own power and the literal zero come first here.
-/

namespace LiveSketch

universe u

/-- The power of a number is the one its type comes with. -/
@[default_instance 20000]
instance (priority := 2000) ownPow {α : Type u} [NatPow α] : Pow α Nat := instPowNat

/-- The zero a sum of natural numbers starts from. -/
instance (priority := 2000) natZero : Zero Nat := ⟨0⟩

/-- The zero a sum of integers starts from. -/
instance (priority := 2000) intZero : Zero Int := ⟨0⟩

end LiveSketch

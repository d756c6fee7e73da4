set_option autoImplicit false

/-! # Powers

A power of natural numbers or of integers is the one of the core library everywhere, also
where a library with powers of its own is at hand: `corePower` goes before any other.
-/

namespace Dataflow

/-- The power of the core library. -/
@[default_instance 20000]
instance (priority := 2000) corePower {α : Type} [NatPow α] : Pow α Nat := instPowNat

end Dataflow

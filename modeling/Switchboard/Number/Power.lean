/-!
# Powers

A power of a natural number or an integer is the one of the core library, also where a library with a
more general power is in scope.
-/

namespace Switchboard

/-- The power of the core library, before any other. -/
@[default_instance 20000]
instance (priority := 20000) corePow {α : Type} [NatPow α] : Pow α Nat := instPowNat

end Switchboard

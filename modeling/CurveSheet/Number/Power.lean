/-
# Powers of natural numbers and integers

A larger library brings powers of its own, and with it imported `2 ^ n` would be another
term than without.  Here `2 ^ n` is the power of the core library everywhere.
-/

namespace CurveSheet

@[default_instance 20000]
instance (priority := 2000) natPower {α : Type} [NatPow α] : Pow α Nat := instPowNat

end CurveSheet

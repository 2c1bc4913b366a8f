/-!
Powers of numbers. They are those of core also beside Mathlib, which brings its own, so that a bound
such as `2 ^ 64` is the same in every module.
-/
namespace MockApi

@[default_instance 20000]
instance (priority := 20000) natPower {α : Type} [NatPow α] : Pow α Nat := instPowNat

end MockApi

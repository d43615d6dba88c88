/-! Powers of numbers, taken from one place. -/

namespace Minigame

/-- A power with a natural exponent is the built-in one, also where a library has another of its own. -/
@[default_instance high]
instance (priority := high) builtinPow {α : Type} [NatPow α] : Pow α Nat :=
  instPowNat

end Minigame

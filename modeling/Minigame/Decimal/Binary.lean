import Minigame.Power

/-! Floating point values as exact numbers: a natural mantissa times a power of two. -/

namespace Minigame.Decimal

/-- The field widths of a binary floating point format. -/
structure BinaryFormat where
  fractionBits : Nat
  exponentBits : Nat

/-- The 64-bit format of document numbers. -/
def binary64 : BinaryFormat := ⟨52, 11⟩

/-- The 32-bit format of the sampling temperature. -/
def binary32 : BinaryFormat := ⟨23, 8⟩

/-- The value `mantissa * 2 ^ exponent`. -/
structure Binary where
  mantissa : Nat
  exponent : Int
  /-- The value below is half as far away as the value above. -/
  narrowBelow : Bool

/-- Whether the sign bit is set. -/
def BinaryFormat.isNegative (format : BinaryFormat) (bits : Nat) : Bool :=
  bits / 2 ^ (format.fractionBits + format.exponentBits) % 2 = 1

/-- Whether the bits stand for a number, and not for an infinity or for no number at all. -/
def BinaryFormat.isFinite (format : BinaryFormat) (bits : Nat) : Bool :=
  bits / 2 ^ format.fractionBits % 2 ^ format.exponentBits ≠ 2 ^ format.exponentBits - 1

/-- The magnitude that the bits of a finite value stand for. -/
def BinaryFormat.magnitude (format : BinaryFormat) (bits : Nat) : Binary :=
  let fraction := bits % 2 ^ format.fractionBits
  let exponent := bits / 2 ^ format.fractionBits % 2 ^ format.exponentBits
  -- The least exponent of a mantissa read as a whole number.
  let least : Int := 2 - 2 ^ (format.exponentBits - 1) - format.fractionBits
  if exponent = 0 then ⟨fraction, least, false⟩
  else ⟨2 ^ format.fractionBits + fraction, least + (exponent - 1), fraction = 0 && 1 < exponent⟩

/-- The magnitude of a finite double. -/
def Binary.ofFloat (value : Float) : Binary :=
  binary64.magnitude value.toBits.toNat

/-- The numerator of the exact value over `Binary.denominator`. -/
def Binary.numerator (x : Binary) : Nat :=
  x.mantissa * 2 ^ x.exponent.toNat

/-- The denominator of the exact value, a power of two. -/
def Binary.denominator (x : Binary) : Nat :=
  2 ^ (-x.exponent).toNat

/-- Which way a value half way between two neighbours is rounded. -/
inductive Tie where
  | toEven
  | awayFromZero
  deriving DecidableEq

/-- The quotient of two naturals rounded to the nearest natural. -/
def roundDiv (numerator denominator : Nat) (tie : Tie) : Nat :=
  let quotient := numerator / denominator
  let rest := 2 * (numerator % denominator)
  -- Twice the remainder shows on which side of the half the quotient lies.
  if rest < denominator then quotient
  else if denominator < rest then quotient + 1
  else
    match tie with
    | .awayFromZero => quotient + 1
    | .toEven => if quotient % 2 = 0 then quotient else quotient + 1

/-- A finite double rounded to the nearest integer, halves away from zero. -/
def roundToInt (value : Float) : Int :=
  let x := Binary.ofFloat value
  let size : Nat := roundDiv x.numerator x.denominator .awayFromZero
  if binary64.isNegative value.toBits.toNat then -size else size

end Minigame.Decimal

import Minigame.Decimal.Binary

/-! The fewest decimal digits that identify a floating point value. -/

namespace Minigame.Decimal

/-- The decimal `digits * 10 ^ exponent`. -/
structure Scaled where
  digits : Nat
  exponent : Int
  deriving DecidableEq

/-- Compares the decimal `a * 10 ^ i` with the binary value `n * 2 ^ j`, exactly. -/
def compareScaled (a : Nat) (i : Int) (n : Nat) (j : Int) : Ordering :=
  compare (a * 10 ^ i.toNat * 2 ^ (-j).toNat) (n * 2 ^ j.toNat * 10 ^ (-i).toNat)

/--
Whether a decimal lies among the numbers that round to a binary value.

The ends half way to the neighbours belong to the values with an even mantissa.
-/
def Binary.readsBack (x : Binary) (d : Scaled) : Bool :=
  -- In quarters of a step: half a step to either side, or a quarter where the step below is
  -- smaller.
  let low := if x.narrowBelow then 4 * x.mantissa - 1 else 4 * x.mantissa - 2
  let high := 4 * x.mantissa + 2
  let closed := x.mantissa % 2 = 0
  let fromLow := compareScaled d.digits d.exponent low (x.exponent - 2)
  let fromHigh := compareScaled d.digits d.exponent high (x.exponent - 2)
  (fromLow = .gt || (closed && fromLow = .eq)) && (fromHigh = .lt || (closed && fromHigh = .eq))

/-- The number of decimal digits of a natural. -/
def digitCount (n : Nat) : Nat :=
  (Nat.toDigits 10 n).length

/-- The least `k` with a non-zero value below `10 ^ k`. -/
def Binary.scale (x : Binary) : Int :=
  if x.denominator ≤ x.numerator then digitCount (x.numerator / x.denominator)
  else 1 - digitCount ((x.denominator - 1) / x.numerator)

/-- The decimal on the grid of multiples of `10 ^ exponent` that reads back and lies nearest. -/
def Binary.onGrid? (x : Binary) (exponent : Int) : Option Scaled :=
  let numerator := x.numerator * 10 ^ (-exponent).toNat
  let denominator := x.denominator * 10 ^ exponent.toNat
  let below : Scaled := ⟨numerator / denominator, exponent⟩
  let above : Scaled := ⟨numerator / denominator + 1, exponent⟩
  -- No other multiple can be nearer than the two on either side.
  match x.readsBack below, x.readsBack above with
  | true, true => some ⟨roundDiv numerator denominator .toEven, exponent⟩
  | true, false => some below
  | false, true => some above
  | false, false => none

/-- The exact decimal value, for when no short one reads back. -/
def Binary.exact (x : Binary) : Scaled :=
  if 0 ≤ x.exponent then ⟨x.numerator, 0⟩
  else ⟨x.mantissa * 5 ^ (-x.exponent).toNat, x.exponent⟩

/-- The shortest decimal that reads back to a non-zero value, the nearest of the shortest ones. -/
def Binary.shortest (x : Binary) : Scaled :=
  let scale := x.scale
  -- Each turn takes one digit more; seventeen always do for a double.
  match (List.range 17).findSome? fun n => x.onGrid? (scale - (n + 1 : Nat)) with
  | some d => d
  | none => x.exact

end Minigame.Decimal

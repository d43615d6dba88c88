import Minigame.Proofs.Decimal.Shortest
import Minigame.Proofs.Float.Order
import Minigame.Scene

/-!
Whole numbers as floats.

Below `2 ^ 53` a whole number is a float, so it is read back from it as it was.
-/

namespace Minigame.Rounding

open Float.Model Float.Model.UnpackedFloat
open Minigame.Decimal

/-- A positive whole number below `2 ^ 53` is the size of a float. -/
theorem hasSize_whole {n : ℕ} (positive : 0 < n) (small : n < 2 ^ 53) : ∃ f, HasSize f n := by
  -- The mantissa is filled up with zeros to all of its bits.
  have log := Nat.log2_lt positive.ne' |>.mpr small
  obtain ⟨k, filled⟩ : ∃ k, n.log2 + k = 52 := ⟨52 - n.log2, by omega⟩
  have leading : (n * 2 ^ k).log2 = 52 := by rw [log2_mul_two_pow positive, filled]
  have mantissa : 0 < n * 2 ^ k := by positivity
  obtain ⟨full, bits⟩ := (Nat.log2_eq_iff mantissa.ne').mp leading
  have size := HasSize.finite mantissa (⟨bits, by omega, .inl full⟩ : Canonical (n * 2 ^ k) (0 - k))
  rw [mul_zpow_shift, zpow_zero, mul_one] at size
  exact ⟨_, size⟩

/-- A positive whole number below `2 ^ 53` is not rounded as a float. -/
theorem toFloat_whole {n : UInt64} (positive : 0 < n.toNat) (small : n.toNat < 2 ^ 53) :
    HasSize n.toFloat.toModel.unpack n.toNat := by
  -- A float has one size near enough, and the whole number itself is one.
  obtain ⟨d, size, rounds⟩ := toFloat_rounds positive
  obtain ⟨f, whole⟩ := hasSize_whole positive small
  have same : d = n.toNat := rounds.unique whole.rounds
  rwa [same] at size

/-- What has a size is finite. -/
theorem HasSize.isFinite {f : UnpackedFloat} {u : ℚ} (size : HasSize f u) : f.isFinite = true := by
  cases size <;> rfl

section

variable (bits : BitVec Format.binary64.numBits)

theorem toNat_unpackMantissa : (unpackMantissa bits).toNat = bits.toNat % 2 ^ 52 := by
  simp only [unpackMantissa, BitVec.extractLsb, BitVec.toNat_cast, BitVec.extractLsb'_toNat,
    Nat.shiftRight_eq_div_pow, Nat.pow_zero, Nat.div_one]

theorem toNat_unpackExponent : (unpackExponent bits).toNat = bits.toNat / 2 ^ 52 % 2 ^ 11 := by
  simp only [unpackExponent, BitVec.extractLsb, BitVec.toNat_cast, BitVec.extractLsb'_toNat,
    Nat.shiftRight_eq_div_pow]

theorem toNat_unpackSign : (unpackSign bits).toNat = bits.toNat / 2 ^ 63 % 2 := by
  simp only [unpackSign, BitVec.extractLsb, BitVec.toNat_cast, BitVec.extractLsb'_toNat,
    Nat.shiftRight_eq_div_pow]

variable {bits} in
/-- The sign bit of a positive float is clear. -/
theorem isNegative_of_positive (positive : Sign.ofBitVec (unpackSign bits) = .positive) :
    binary64.isNegative bits.toNat = false := by
  -- A sign bit that is set makes the float negative, so the top bit counts for nothing.
  have sign := toNat_unpackSign bits
  have clear : unpackSign bits = 0#1 := by
    by_contra set
    rw [Sign.ofBitVec, if_neg set] at positive
    cases positive
  rw [clear, BitVec.toNat_ofNat] at sign
  refine decide_eq_false ?_
  change ¬ bits.toNat / 2 ^ 63 % 2 = 1
  omega

end

/-- The bits of a positive float tell its mantissa and its exponent. -/
theorem bits_of_unpack {x : Float} {m : ℕ} {e : ℤ} {positive : 0 < m}
    (unpacked : x.toModel.unpack = .finite .positive m e positive) :
    binary64.isFinite x.toBits.toNat = true ∧ binary64.isNegative x.toBits.toNat = false
      ∧ (Binary.ofFloat x).mantissa = m ∧ (Binary.ofFloat x).exponent = e := by
  let bits : BitVec Format.binary64.numBits := x.toBits.toBitVec
  change unpack Format.binary64 bits = _ at unpacked
  have exponent := toNat_unpackExponent bits
  have mantissa := toNat_unpackMantissa bits
  have bias : ((Format.binary64.exponentBias : ℕ) : ℤ) = 1023 := by norm_num [Format.exponentBias]
  change _ = x.toBits.toNat / 2 ^ 52 % 2 ^ 11 at exponent
  change _ = x.toBits.toNat % 2 ^ 52 at mantissa
  unfold UnpackedFloat.unpack at unpacked
  dsimp only at unpacked
  split at unpacked
  · -- Exponent bits that are all ones belong to no number.
    split at unpacked <;> cases unpacked
  next notOnes =>
    have finite : binary64.isFinite x.toBits.toNat = true := by
      refine decide_eq_true fun ones => notOnes (BitVec.eq_of_toNat_eq ?_)
      rw [exponent]
      exact ones
    rw [Binary.ofFloat]
    split at unpacked
    next zero =>
      -- Without a leading bit the exponent is the least one.
      split at unpacked
      · cases unpacked
      · injection unpacked with plus m_eq e_eq
        rw [zero] at exponent e_eq
        rcases magnitude_cases x.toBits.toNat with ⟨-, same⟩ | ⟨some, -⟩
        · rw [same]
          refine ⟨finite, isNegative_of_positive plus, mantissa ▸ m_eq, ?_⟩
          rw [← e_eq, bias]
          rfl
        · exact absurd exponent (by simpa using some.ne)
    next some =>
      injection unpacked with plus m_eq e_eq
      -- A number with a leading bit has it put in front of its mantissa.
      rcases magnitude_cases x.toBits.toNat with ⟨none, -⟩ | ⟨-, same⟩
      · exact absurd (BitVec.eq_of_toNat_eq (by rw [exponent, none]; rfl)) some
      · rw [same]
        refine ⟨finite, isNegative_of_positive plus, ?_, ?_⟩
        · rw [← m_eq, toNat_leading, mantissa]
        · rw [← e_eq, bias, exponent]
          ring

/-- The bits of a zero have neither a mantissa nor the exponent of an infinity. -/
theorem bits_of_zero {x : Float} {sign : Sign} (unpacked : x.toModel.unpack = .zero sign) :
    binary64.isFinite x.toBits.toNat = true ∧ (Binary.ofFloat x).mantissa = 0 := by
  let bits : BitVec Format.binary64.numBits := x.toBits.toBitVec
  change unpack Format.binary64 bits = _ at unpacked
  have exponent := toNat_unpackExponent bits
  have mantissa := toNat_unpackMantissa bits
  change _ = x.toBits.toNat / 2 ^ 52 % 2 ^ 11 at exponent
  change _ = x.toBits.toNat % 2 ^ 52 at mantissa
  unfold UnpackedFloat.unpack at unpacked
  dsimp only at unpacked
  split at unpacked
  · -- Neither the infinity nor a number without a mantissa is this zero.
    split at unpacked <;> cases unpacked
  split at unpacked
  next zero =>
    split at unpacked
    next none =>
      rw [none] at mantissa
      rw [zero] at exponent
      rcases magnitude_cases x.toBits.toNat with ⟨-, same⟩ | ⟨some, -⟩
      · -- The exponent bits of a zero are zeros, so they are not all ones.
        refine ⟨decide_eq_true fun ones => ?_, ?_⟩
        · exact absurd (ones.symm.trans exponent.symm) (by decide)
        · rw [Binary.ofFloat, same]
          exact mantissa.symm
      · exact absurd exponent (by simpa using some.ne)
    next => cases unpacked
  next => cases unpacked

/-- A power of two is a quotient of powers, of which one is one. -/
theorem two_zpow_eq (e : ℤ) : (2 : ℚ) ^ e = 2 ^ e.toNat / 2 ^ (-e).toNat := by
  -- One of the two exponents on the right is zero, according to the sign.
  rw [← zpow_natCast, ← zpow_natCast, ← zpow_sub₀ two_ne_zero]
  congr 1
  omega

/-- The numerator and the denominator stand for the exact value. -/
theorem Binary.quotient_eq (x : Binary) :
    (x.numerator : ℚ) / x.denominator = x.mantissa * 2 ^ x.exponent := by
  rw [two_zpow_eq, Binary.numerator, Binary.denominator]
  push_cast
  ring

/-- A quotient is rounded to the whole number that is less than a half away. -/
theorem roundDiv_near {numerator denominator n : ℕ} (positive : 0 < denominator)
    (near : |(numerator : ℚ) / denominator - n| < 1 / 2) (tie : Tie) :
    roundDiv numerator denominator tie = n := by
  have divisor : (0 : ℚ) < denominator := by exact_mod_cast positive
  -- Both sides of the distance, with the denominator cleared.
  rw [abs_lt, lt_sub_iff_add_lt, sub_lt_iff_lt_add, lt_div_iff₀ divisor, div_lt_iff₀ divisor] at near
  have above : 2 * n * denominator < 2 * numerator + denominator := by
    have : (2 * n * denominator : ℚ) < 2 * numerator + denominator := by linarith
    exact_mod_cast this
  have below : 2 * numerator < 2 * n * denominator + denominator := by
    have : (2 * numerator : ℚ) < 2 * n * denominator + denominator := by linarith
    exact_mod_cast this
  -- The numerator is the quotient times the denominator and a rest below it.
  have parts := Nat.div_add_mod numerator denominator
  have rest := Nat.mod_lt numerator positive
  unfold roundDiv
  generalize numerator / denominator = quotient at parts ⊢
  generalize numerator % denominator = left at parts rest ⊢
  subst parts
  -- The rest tells on which side of the half the quotient lies, and it is never the half itself.
  dsimp only
  split
  · -- Less than a half is left over, so the quotient is the number.
    have least : quotient < n + 1 := by nlinarith
    have most : n < quotient + 1 := by nlinarith
    omega
  · split
    · -- More than a half is left over, so the number is one more than the quotient.
      have least : quotient + 1 < n + 1 := by nlinarith
      have most : n < quotient + 2 := by nlinarith
      omega
    · have least : quotient < n := by nlinarith
      have most : n < quotient + 1 := by nlinarith
      omega

/-- A float is rounded to the whole number that is less than a half away. -/
theorem roundToInt_of_near {x : Float} {u : ℚ} {n : ℕ} (size : HasSize x.toModel.unpack u)
    (near : |u - n| < 1 / 2) :
    binary64.isFinite x.toBits.toNat = true ∧ Decimal.roundToInt x = n := by
  generalize unpacked : x.toModel.unpack = f at size
  cases size with
  | zero sign =>
    obtain ⟨finite, none⟩ := bits_of_zero unpacked
    have whole : roundDiv (Binary.ofFloat x).numerator (Binary.ofFloat x).denominator
        .awayFromZero = n := by
      refine roundDiv_near (by rw [Binary.denominator]; positivity) ?_ _
      rwa [Binary.quotient_eq, none, Nat.cast_zero, zero_mul]
    -- Only zero is near a zero, whatever its sign is.
    obtain rfl : n = 0 := by
      rw [zero_sub, abs_neg, Nat.abs_cast] at near
      have few : (n : ℚ) < 1 := by linarith
      exact Nat.lt_one_iff.mp (by exact_mod_cast few)
    refine ⟨finite, ?_⟩
    rw [Decimal.roundToInt, whole]
    simp
  | @finite m e mantissa canonical =>
    obtain ⟨finite, sign, m_eq, e_eq⟩ := bits_of_unpack unpacked
    refine ⟨finite, ?_⟩
    -- The distance is that of the quotient of the bits.
    rw [← m_eq, ← e_eq, ← Binary.quotient_eq] at near
    rw [Decimal.roundToInt, roundDiv_near (by rw [Binary.denominator]; positivity) near, sign]
    simp

/-- The number that a float stands for, if it stands for one. -/
def number? (x : Float) : Option ℚ :=
  match x.toModel.unpack with
  | .zero _ => some 0
  | .finite .positive mantissa exponent _ => some (mantissa * 2 ^ exponent)
  | .finite .negative mantissa exponent _ => some (-(mantissa * 2 ^ exponent))
  | _ => none

theorem number?_isSome (x : Float) : (number? x).isSome = x.isFinite := by
  -- A number is there for zeros and for finite floats of either sign, as the test has it.
  change _ = x.toModel.unpack.isFinite
  unfold number?
  rcases x.toModel.unpack with _ | _ | _ | ⟨_ | _, _⟩ <;> rfl

/-- A float that stands for a number that is not negative has it as its size. -/
theorem hasSize_of_number? {x : Float} {v : ℚ} (stands : number? x = some v) (nonneg : 0 ≤ v) :
    HasSize x.toModel.unpack v := by
  unfold number? at stands
  split at stands
  next sign unpacked =>
    rw [unpacked, ← Option.some.inj stands]
    exact .zero sign
  next m e positive unpacked =>
    rw [unpacked, ← Option.some.inj stands]
    exact .finite positive (unpack_canonical unpacked)
  next m e positive unpacked =>
    -- A negative float does not stand for such a number.
    have size : (0 : ℚ) < m * 2 ^ e := by positivity
    have := Option.some.inj stands
    linarith
  next => cases stands

/-- A float that is near a whole number is brought into a range as that number. -/
theorem clampRounded_of_near {x : Float} {u : ℚ} {n : ℕ} (size : HasSize x.toModel.unpack u)
    (near : |u - n| < 1 / 2) (low high : ℕ) : clampRounded low high x = max low (min high n) := by
  obtain ⟨finite, rounded⟩ := roundToInt_of_near size near
  rw [clampRounded, if_pos finite, rounded]
  omega

section

variable {n : ℕ} (positive : 0 < n) (small : n < 2 ^ 53)
include positive small

/-- A positive whole number that can be a float is the size of its float. -/
theorem hasSize_toFloat : HasSize n.toUInt64.toFloat.toModel.unpack n := by
  -- Below two to the fifty-third nothing is lost in sixty-four bits.
  have toNat : n.toUInt64.toNat = n := by
    rw [UInt64.toNat_ofNat']
    omega
  have size := toFloat_whole (n := n.toUInt64) (by omega) (by omega)
  rwa [toNat] at size

theorem isFinite_toFloat : n.toUInt64.toFloat.isFinite = true :=
  show n.toUInt64.toFloat.toModel.unpack.isFinite = true from
    (hasSize_toFloat positive small).isFinite

/-- A whole number that can be a float is brought into a range as it is. -/
theorem clampRounded_toFloat (low high : ℕ) :
    clampRounded low high n.toUInt64.toFloat = max low (min high n) :=
  clampRounded_of_near (hasSize_toFloat positive small) (by simp) low high

end

end Minigame.Rounding

import Minigame.Proofs.Float.Order

/-!
Products of floats, and how far a number is from the float that it is rounded to.

The relative error of one rounding is half a unit in the last of 53 bits.
-/

namespace Minigame.Rounding

open Float.Model Float.Model.UnpackedFloat

/-- The whole number that a cut is rounded to is at most half away. -/
theorem CutOf.rounded_near {cut : ExtendedMantissa} {x : ℚ} (whole : CutOf cut x) :
    |(cut.roundedMantissa : ℚ) - x| ≤ 1 / 2 := by
  obtain ⟨mantissa, round, sticky⟩ := cut
  rw [abs_le]
  -- The two residual bits tell on which side of the half the number lies.
  cases round <;> cases sticky <;>
    simp only [CutOf, ExtendedMantissa.roundedMantissa, ExtendedMantissa.accuracy,
      Accuracy.roundToNearestEven] at whole ⊢
  · constructor <;> linarith
  · constructor <;> linarith
  · rcases Nat.mod_two_eq_zero_or_one mantissa with even | odd
    · -- At the half the even one of two mantissas is taken, and this one is even.
      simp [even]
      constructor <;> linarith
    · -- This one is odd, so the next one is taken.
      simp [odd]
      constructor <;> linarith
  · push_cast
    constructor <;> linarith

/-- A number that is not too small is near the float that it is rounded to. -/
theorem Rounds.near {x v : ℚ} (rounds : Rounds x v) (least : 2 ^ (-1022 : ℤ) ≤ x) :
    |v - x| ≤ x / 2 ^ 53 := by
  obtain ⟨unit, cut, whole, rfl, -, -, exact⟩ := rounds
  have positive : (0 : ℚ) < 2 ^ unit := by positivity
  -- A number of this size has all its 53 bits, so the unit is that of its last bit.
  have large : (2 : ℚ) ^ (unit + 52) ≤ x := by
    rcases exact with rfl | below
    · exact least
    · exact below
  rw [zpow_add₀ two_ne_zero] at large
  -- The error of the number is that of the integer, in the same unit.
  have error : (cut.roundedMantissa : ℚ) * 2 ^ unit - x
      = (cut.roundedMantissa - x / 2 ^ unit) * 2 ^ unit := by
    field_simp
  calc |(cut.roundedMantissa : ℚ) * 2 ^ unit - x|
      -- Half a unit is small against a number that has fifty-two bits more.
      = |cut.roundedMantissa - x / 2 ^ unit| * 2 ^ unit := by
        rw [error, abs_mul, abs_of_pos positive]
    _ ≤ 1 / 2 * 2 ^ unit := by
        gcongr
        exact whole.rounded_near
    _ = 2 ^ unit * 2 ^ (52 : ℤ) / 2 ^ 53 := by norm_num; ring
    _ ≤ x / 2 ^ 53 := by gcongr

/-- What an exact number with enough bits is rounded to. -/
theorem roundExact_size {m : ℕ} {e : ℤ} (room : 2 ^ 52 ≤ m ∨ e ≤ -1074) :
    ∃ v, HasSize (roundWithAccuracy Format.binary64 .positive m e .exact) v
      ∧ Rounds (m * 2 ^ e) v := by
  refine roundWithAccuracy_size ?_ ?_
  · -- Nothing is cut off from an exact number.
    rw [mul_div_cancel_right₀ _ (by positivity)]
    exact cutOf_exact m
  · rw [targetExponent_eq, totalExponent]
    -- With enough bits, or at the least exponent, the mantissa is not shifted.
    rcases room with full | least
    · have bits : 52 ≤ m.log2 := (Nat.le_log2 (by omega)).mpr full
      omega
    · omega

/-- A product of floats is the exact product, rounded. -/
theorem mul_size {f g : UnpackedFloat} {u v : ℚ} (first : HasSize f u) (second : HasSize g v) :
    ∃ w, HasSize (UnpackedFloat.mul Format.binary64 f g) w ∧ Rounds (u * v) w := by
  rcases first with sign | @⟨m, e, positive, canonical⟩ <;>
    rcases second with sign' | @⟨m', e', positive', canonical'⟩
  · -- A product with a zero is a zero.
    exact ⟨0, .zero _, by simpa using (HasSize.zero sign).rounds⟩
  · exact ⟨0, .zero _, by simpa using (HasSize.zero sign).rounds⟩
  · exact ⟨0, .zero _, by simpa using (HasSize.zero sign').rounds⟩
  · -- With a full mantissa the product has bits enough, and without one its exponent is too small.
    have room : 2 ^ 52 ≤ m * m' ∨ e + e' ≤ -1074 := by
      rcases canonical.full with full | rfl
      · -- One full factor is enough.
        exact .inl (full.trans (Nat.le_mul_of_pos_right m positive'))
      · rcases canonical'.full with full | rfl
        · exact .inl (full.trans (Nat.le_mul_of_pos_left m' positive))
        · -- Two numbers below the least full one have a product that is far below it.
          exact .inr (by norm_num)
    -- The exponents add up, and the mantissas are multiplied.
    have value : (m : ℚ) * 2 ^ e * (m' * 2 ^ e') = (m * m' : ℕ) * 2 ^ (e + e') := by
      rw [zpow_add₀ two_ne_zero]
      push_cast
      ring
    rw [value]
    exact roundExact_size room

/-- What a rounded number below the greatest float amounts to when it is stored. -/
theorem pack_size {f : UnpackedFloat} {v : ℚ} (size : HasSize f v) (fits : v < 2 ^ 1024) :
    HasSize (Float.Model.pack f).unpack v := by
  have amount := amount_pack size
  rw [stored, if_pos fits] at amount
  exact amount.size

end Minigame.Rounding

import Minigame.Proofs.Float.Rounding

/-!
What the operations on floats do to their sizes.

A float without a sign is a rational number; a sum and a quotient are the floats that the exact
sum and quotient are rounded to.
-/

namespace Minigame.Rounding

open Float.Model Float.Model.UnpackedFloat

/-- The mantissas and exponents that floats have: 53 bits, or fewer with the least exponent. -/
structure Canonical (mantissa : ℕ) (exponent : ℤ) : Prop where
  bits : mantissa < 2 ^ 53
  least : -1074 ≤ exponent
  full : 2 ^ 52 ≤ mantissa ∨ exponent = -1074

/-- A float that is not negative, and the number it stands for. -/
inductive HasSize : UnpackedFloat → ℚ → Prop
  | zero (sign : Sign) : HasSize (.zero sign) 0
  | finite {mantissa : ℕ} {exponent : ℤ} (positive : 0 < mantissa)
      (canonical : Canonical mantissa exponent) :
      HasSize (.finite .positive mantissa exponent positive) (mantissa * 2 ^ exponent)

/-- A product with a power of two is a product with another one, if the exponents add up. -/
theorem mul_zpow_shift (m : ℕ) (e : ℤ) (k : ℕ) :
    ((m * 2 ^ k : ℕ) : ℚ) * 2 ^ (e - k) = m * 2 ^ e := by
  push_cast
  rw [zpow_sub₀ (by norm_num), zpow_natCast]
  field_simp

theorem log2_mul_two_pow {m : ℕ} (positive : 0 < m) (k : ℕ) : (m * 2 ^ k).log2 = m.log2 + k := by
  rw [Nat.log2_eq_iff (by positivity), Nat.pow_add, add_right_comm, Nat.pow_add]
  exact ⟨Nat.mul_le_mul_right _ (Nat.log2_self_le positive.ne'),
    Nat.mul_lt_mul_of_pos_right Nat.lt_log2_self (by positivity)⟩

/-- The exponent that a number is rounded to. -/
theorem targetExponent_eq (total : ℤ) :
    Format.binary64.targetExponent total = max (total - 53) (-1074) := by
  simp only [Format.targetExponent, Format.mantissaBits, Format.minExponent]
  norm_num

/-- A float is rounded to itself. -/
theorem HasSize.rounds {f : UnpackedFloat} {u : ℚ} (size : HasSize f u) : Rounds u u := by
  cases size with
  | zero sign => exact ⟨-1074, .ofMantissaAndAccuracy 0 .exact, by simpa using cutOf_exact 0,
      by simp [ExtendedMantissa.ofMantissaAndAccuracy, ExtendedMantissa.roundedMantissa,
        ExtendedMantissa.accuracy, Accuracy.roundToNearestEven], le_rfl, by positivity, .inl rfl⟩
  | @finite m e positive canonical =>
    have unit : (0 : ℚ) < 2 ^ e := by positivity
    -- Its own exponent is the unit of the rounding, and the cut is exact.
    refine ⟨e, .ofMantissaAndAccuracy m .exact, ?_, rfl, canonical.least, ?_, ?_⟩
    · rw [mul_div_cancel_right₀ _ unit.ne']
      exact cutOf_exact m
    · rw [zpow_add₀ (by norm_num), mul_comm]
      have : (m : ℚ) < 2 ^ 53 := by exact_mod_cast canonical.bits
      exact mul_lt_mul_of_pos_left (by exact_mod_cast this) unit
    · rcases canonical.full with full | least
      · right
        rw [zpow_add₀ (by norm_num), mul_comm]
        have : (2 : ℚ) ^ 52 ≤ m := by exact_mod_cast full
        exact mul_le_mul_of_nonneg_right (by exact_mod_cast this) unit.le
      · exact .inl least

/-- The first shift of a rounding leaves 53 bits. -/
theorem shiftToTargetExponent_cut {m : ℕ} {e : ℤ} {accuracy : Accuracy} {x : ℚ}
    (whole : CutOf (.ofMantissaAndAccuracy m accuracy) (x / 2 ^ e))
    (room : e ≤ Format.binary64.targetExponent (totalExponent m e)) :
    let unit := (shiftToTargetExponent Format.binary64 m e accuracy).2
    CutOf (shiftToTargetExponent Format.binary64 m e accuracy).1 (x / 2 ^ unit)
      ∧ -1074 ≤ unit ∧ x < 2 ^ (unit + 53) ∧ (unit = -1074 ∨ 2 ^ (unit + 52) ≤ x) := by
  -- The target is not below the exponent, so the shift takes away a number of bits.
  obtain ⟨k, shift⟩ : ∃ k : ℕ, Format.binary64.targetExponent (totalExponent m e) = e + k :=
    ⟨(Format.binary64.targetExponent (totalExponent m e) - e).toNat, by omega⟩
  -- The residual bits are beside the mantissa.
  have same : (.ofMantissaAndAccuracy m accuracy : ExtendedMantissa).mantissa = m := by
    rcases accuracy with _ | order
    · rfl
    · cases order <;> rfl
  have lower := whole.mantissa_le
  have upper := whole.lt_mantissa
  rw [same, le_div_iff₀ (by positivity)] at lower
  rw [same, div_lt_iff₀ (by positivity)] at upper
  simp only [shiftToTargetExponent, shiftToExponent, shift, add_sub_cancel_left, Int.toNat_natCast]
  rw [targetExponent_eq, totalExponent] at shift
  refine ⟨?_, by omega, ?_, ?_⟩
  · rw [zpow_add₀ (by norm_num), zpow_natCast, ← div_div]
    exact whole.shiftRight k
  · -- The number has no more bits than its mantissa.
    calc x < (m + 1) * 2 ^ e := upper
      _ ≤ 2 ^ (m.log2 + 1) * 2 ^ e := by
        gcongr
        exact_mod_cast Nat.lt_log2_self
      _ = 2 ^ ((m.log2 : ℤ) + 1 + e) := by
        rw [← zpow_natCast, ← zpow_add₀ (by norm_num)]
        norm_cast
      _ ≤ 2 ^ (e + k + 53) := zpow_le_zpow_right₀ (by norm_num) (by omega)
  · by_cases floor : e + k = -1074
    · exact .inl floor
    · -- Above the least exponent the leading bit of the mantissa is the first of the 53 bits.
      right
      have nonzero : m ≠ 0 := by
        rintro rfl
        rw [Nat.log2_zero] at shift
        omega
      calc (2 : ℚ) ^ (e + k + 52) = 2 ^ m.log2 * 2 ^ e := by
            rw [← zpow_natCast, ← zpow_add₀ (by norm_num)]
            congr 1
            omega
        _ ≤ m * 2 ^ e := by
          gcongr
          exact_mod_cast Nat.log2_self_le nonzero
        _ ≤ x := lower

/-- The second shift of a rounding only takes a carry out of the 53 bits into the exponent. -/
theorem shiftToTargetExponent_exact {r : ℕ} {unit : ℤ} (bits : r ≤ 2 ^ 53) (least : -1074 ≤ unit)
    (full : unit = -1074 ∨ 2 ^ 52 ≤ r) :
    ∃ m e, shiftToTargetExponent Format.binary64 r unit .exact = (⟨m, false, false⟩, e)
      ∧ Canonical m e ∧ (m : ℚ) * 2 ^ e = r * 2 ^ unit := by
  rcases bits.lt_or_eq with fits | rfl
  · -- With 53 bits at most nothing is shifted.
    have short : r.log2 ≤ 52 := by
      rcases Nat.eq_zero_or_pos r with rfl | positive
      · simp
      · have := (Nat.log2_lt positive.ne').mpr fits
        omega
    have stays : (Format.binary64.targetExponent (totalExponent r unit) - unit).toNat = 0 := by
      rw [targetExponent_eq, totalExponent]
      omega
    refine ⟨r, unit, ?_, ⟨fits, least, full.symm⟩, rfl⟩
    simp [shiftToTargetExponent, shiftToExponent, stays, HShiftRight.hShiftRight, Nat.repeat,
      ExtendedMantissa.ofMantissaAndAccuracy]
  · -- A carry makes one more bit, which is a zero.
    have moves :
        (Format.binary64.targetExponent (totalExponent (2 ^ 53) unit) - unit).toNat = 1 := by
      rw [targetExponent_eq, totalExponent, Nat.log2_two_pow]
      omega
    refine ⟨2 ^ 52, unit + 1, ?_, ⟨by norm_num, by omega, .inl le_rfl⟩, ?_⟩
    · rw [shiftToTargetExponent, shiftToExponent, moves]
      rfl
    · rw [zpow_add₀ (by norm_num), zpow_one]
      push_cast
      ring

/-- What a number that was cut is rounded to. -/
theorem roundWithAccuracy_size {m : ℕ} {e : ℤ} {accuracy : Accuracy} {x : ℚ}
    (whole : CutOf (.ofMantissaAndAccuracy m accuracy) (x / 2 ^ e))
    (room : e ≤ Format.binary64.targetExponent (totalExponent m e)) :
    ∃ v, HasSize (roundWithAccuracy Format.binary64 .positive m e accuracy) v ∧ Rounds x v := by
  obtain ⟨cut, least, above, exact⟩ := shiftToTargetExponent_cut whole room
  -- From here on only the cut counts, not how it was made.
  unfold roundWithAccuracy
  generalize shiftToTargetExponent Format.binary64 m e accuracy = first at cut least above exact ⊢
  obtain ⟨em, unit⟩ := first
  dsimp only at cut least above exact ⊢
  have positive : (0 : ℚ) < 2 ^ unit := by positivity
  -- Rounding adds one at most, so it may carry into one more bit, and it never takes the first
  -- away.
  have bits : em.roundedMantissa ≤ 2 ^ 53 := by
    have : em.mantissa < 2 ^ 53 := by
      apply cut.mantissa_lt
      rw [div_lt_iff₀ positive]
      rw [zpow_add₀ (by norm_num), mul_comm] at above
      exact_mod_cast above
    have := (CutOf.rounded_bounds em).2
    omega
  have full : unit = -1074 ∨ 2 ^ 52 ≤ em.roundedMantissa := by
    refine exact.imp_right fun below => ?_
    have : 2 ^ 52 ≤ em.mantissa := by
      apply cut.le_mantissa
      rw [le_div_iff₀ positive]
      rw [zpow_add₀ (by norm_num), mul_comm] at below
      exact_mod_cast below
    exact this.trans (CutOf.rounded_bounds em).1
  obtain ⟨m', e', second, canonical, value⟩ := shiftToTargetExponent_exact bits least full
  refine ⟨em.roundedMantissa * 2 ^ unit, ?_, unit, em, cut, rfl, least, above, exact⟩
  rw [second, ← value]
  dsimp only
  by_cases zero : m' = 0
  · rw [dif_pos zero, zero, Nat.cast_zero, zero_mul]
    exact .zero _
  · rw [dif_neg zero]
    exact .finite _ canonical

/-- What a multiple of a power of two is rounded to. -/
theorem round_size {m : ℕ} (positive : 0 < m) (e : ℤ) :
    ∃ v, HasSize (UnpackedFloat.round Format.binary64 .positive m e) v ∧ Rounds (m * 2 ^ e) v := by
  -- Zeros are put behind the mantissa, so that there are bits enough to be cut.
  set k := (e - Format.binary64.targetExponent (totalExponent m e)).toNat with shift
  have value := mul_zpow_shift m e k
  have total : totalExponent (m * 2 ^ k) (e - k) = totalExponent m e := by
    rw [totalExponent, totalExponent, log2_mul_two_pow positive]
    push_cast
    ring
  unfold UnpackedFloat.round decreaseExponent
  dsimp only
  rw [← shift, Nat.shiftLeft_eq]
  refine roundWithAccuracy_size ?_ ?_
  · rw [← value, mul_div_cancel_right₀ _ (by positivity)]
    exact cutOf_exact _
  · rw [total]
    omega

/-- A sum of floats is the exact sum, rounded. -/
theorem add_size {f g : UnpackedFloat} {u v : ℚ} (first : HasSize f u) (second : HasSize g v) :
    ∃ w, HasSize (UnpackedFloat.add Format.binary64 f g) w ∧ Rounds (u + v) w := by
  -- A sum with zero is the other summand, and a float is rounded to itself.
  have exact_left := first.rounds
  have exact_right := second.rounds
  rcases first with sign | @⟨m, e, positive, canonical⟩ <;>
    rcases second with sign' | @⟨m', e', positive', canonical'⟩
  · refine ⟨0, ?_, by simpa using exact_left⟩
    simp only [UnpackedFloat.add]
    split <;> exact .zero _
  · exact ⟨_, .finite positive' canonical', by simpa using exact_right⟩
  · exact ⟨_, .finite positive canonical, by simpa using exact_left⟩
  · -- Both summands are multiples of the smaller power of two.
    have value := mul_zpow_shift m e (e - min e e').toNat
    have value' := mul_zpow_shift m' e' (e' - min e e').toNat
    rw [show e - (e - min e e').toNat = min e e' by omega] at value
    rw [show e' - (e' - min e e').toNat = min e e' by omega] at value'
    set n := m * 2 ^ (e - min e e').toNat with left
    set n' := m' * 2 ^ (e' - min e e').toNat with right
    have sum : 0 < n + n' := by positivity
    have sign : compare ((n : ℤ) + n') 0 = .gt := compare_gt_iff_gt.mpr (by exact_mod_cast sum)
    simp only [UnpackedFloat.add, decreaseExponent, Sign.apply, UnpackedFloat.normalize,
      Nat.shiftLeft_eq, ← left, ← right, sign]
    rw [← value, ← value', ← add_mul]
    exact_mod_cast round_size sum (min e e')

/-- The whole part of a quotient and what is left of it. -/
theorem cutOf_quotient (n : ℕ) {d : ℕ} (positive : 0 < d) :
    CutOf (.ofMantissaAndAccuracy (n / d) (accuracyOfFraction (n % d) d)) (n / d) := by
  have divisor : (0 : ℚ) < d := by exact_mod_cast positive
  -- The quotient is its whole part and the rest over the divisor.
  have parts : (d : ℚ) * (n / d : ℕ) + (n % d : ℕ) = n := by exact_mod_cast Nat.div_add_mod n d
  have rest : ((n % d : ℕ) : ℚ) < d := by exact_mod_cast Nat.mod_lt n positive
  have quotient : (n : ℚ) / d = (n / d : ℕ) + (n % d : ℕ) / d := by
    rw [← parts]
    field_simp
  rw [quotient, accuracyOfFraction]
  split
  case isTrue exact => simp [exact, CutOf, ExtendedMantissa.ofMantissaAndAccuracy]
  case isFalse inexact =>
    have left : (0 : ℚ) < (n % d : ℕ) := by exact_mod_cast Nat.pos_of_ne_zero inexact
    -- Whether the rest is below, at or above the half decides both bits.
    rcases order : compare (2 * (n % d)) d with _ | _ | _
    · rw [compare_lt_iff_lt] at order
      have : (2 : ℚ) * (n % d : ℕ) < d := by exact_mod_cast order
      refine ⟨lt_add_of_pos_right _ (by positivity), ?_⟩
      have : ((n % d : ℕ) : ℚ) / d < 1 / 2 := by
        rw [div_lt_div_iff₀ divisor (by norm_num)]
        linarith
      exact add_lt_add_right this _
    · rw [compare_eq_iff_eq] at order
      have : (2 : ℚ) * (n % d : ℕ) = d := by exact_mod_cast order
      have : ((n % d : ℕ) : ℚ) / d = 1 / 2 := by
        rw [div_eq_div_iff divisor.ne' (by norm_num)]
        linarith
      rw [this]
      rfl
    · rw [compare_gt_iff_gt] at order
      have : (d : ℚ) < 2 * (n % d : ℕ) := by exact_mod_cast order
      have : (1 : ℚ) / 2 < (n % d : ℕ) / d := by
        rw [div_lt_div_iff₀ (by norm_num) divisor]
        linarith
      have : ((n % d : ℕ) : ℚ) / d < 1 := by rwa [div_lt_one divisor]
      dsimp only [CutOf, ExtendedMantissa.ofMantissaAndAccuracy]
      exact ⟨by linarith, by linarith⟩

/-- A quotient of 53 bits at least is computed before it is rounded. -/
theorem divCore_room {m m' : ℕ} (positive : 0 < m) (positive' : 0 < m') (e e' : ℤ) :
    let core := divCore Format.binary64 m e m' e'
    core.2.1 ≤ Format.binary64.targetExponent (totalExponent core.1 core.2.1) := by
  set target := Format.binary64.targetExponent (totalExponent m e - totalExponent m' e') with aim
  dsimp only [divCore]
  rw [← aim]
  set unit := min (e - e') target with least
  set k := (e - e' - unit).toNat with shift
  rw [targetExponent_eq] at aim ⊢
  rw [Nat.shiftLeft_eq]
  by_cases floor : unit ≤ -1074
  · -- No target is below the least exponent.
    omega
  · simp only [totalExponent] at aim ⊢
    have enough : 2 ^ 52 ≤ m * 2 ^ k / m' := by
      rw [Nat.le_div_iff_mul_le positive']
      calc 2 ^ 52 * m' ≤ 2 ^ 52 * 2 ^ (m'.log2 + 1) := by
            gcongr
            exact Nat.lt_log2_self.le
        _ = 2 ^ (52 + (m'.log2 + 1)) := (pow_add _ _ _).symm
        _ ≤ 2 ^ (m.log2 + k) := Nat.pow_le_pow_right (by norm_num) (by omega)
        _ = 2 ^ m.log2 * 2 ^ k := pow_add _ _ _
        _ ≤ m * 2 ^ k := by
          gcongr
          exact Nat.log2_self_le positive.ne'
    have bits : 52 ≤ (m * 2 ^ k / m').log2 := by
      rw [Nat.le_log2 (by omega)]
      exact enough
    omega

/-- A quotient of positive numbers is the exact quotient, rounded, however many bits they have. -/
theorem quotient_size {m m' : ℕ} (positive : 0 < m) (positive' : 0 < m') (e e' : ℤ) :
    ∃ w, HasSize (UnpackedFloat.div Format.binary64 (.finite .positive m e positive)
        (.finite .positive m' e' positive')) w
      ∧ Rounds (m * 2 ^ e / (m' * 2 ^ e')) w := by
  have room := divCore_room positive positive' e e'
  simp only [UnpackedFloat.div]
  refine roundWithAccuracy_size ?_ room
  -- The numerator is shifted so far that the quotient is cut at the exponent of the core.
  set unit := (divCore Format.binary64 m e m' e').2.1 with core
  set k := (e - e' - unit).toNat with shift
  have divisor : (m' : ℚ) ≠ 0 := by exact_mod_cast positive'.ne'
  have above : unit ≤ e - e' := min_le_left _ _
  have value := mul_zpow_shift m (e - e') k
  rw [show e - e' - k = unit by omega] at value
  have quotient : (m : ℚ) * 2 ^ e / (m' * 2 ^ e') / 2 ^ unit = ((m <<< k : ℕ) : ℚ) / m' := by
    rw [Nat.shiftLeft_eq, eq_div_iff divisor, div_mul_eq_mul_div, div_eq_iff (by positivity),
      value, zpow_sub₀ (by norm_num)]
    field_simp
  rw [quotient]
  exact cutOf_quotient (m <<< k) positive'

/-- A quotient of floats is the exact quotient, rounded. -/
theorem div_size {f g : UnpackedFloat} {u v : ℚ} (first : HasSize f u) (second : HasSize g v)
    (nonzero : 0 < v) :
    ∃ w, HasSize (UnpackedFloat.div Format.binary64 f g) w ∧ Rounds (u / v) w := by
  rcases second with _ | @⟨m', e', positive', canonical'⟩
  · exact absurd nonzero (lt_irrefl _)
  rcases first with sign | @⟨m, e, positive, canonical⟩
  · exact ⟨0, .zero _, by simpa using (HasSize.zero sign).rounds⟩
  · exact quotient_size positive positive' e e'

/-- Taking the integer part of a float cuts it at the binary point. -/
theorem toInt_size {f : UnpackedFloat} {u : ℚ} (size : HasSize f u) (lo hi : ℤ) :
    ∃ cut : ExtendedMantissa, CutOf cut u ∧ f.toInt lo hi = cut.mantissa := by
  rcases size with sign | @⟨m, e, positive, canonical⟩
  · exact ⟨_, cutOf_exact 0, rfl⟩
  · refine ⟨ExtendedMantissa.ofMantissaAndAccuracy (m * 2 ^ e.toNat) .exact >>> (-e).toNat, ?_, ?_⟩
    · -- Positive exponents multiply the mantissa, and negative ones cut bits off.
      have cut := (cutOf_exact (m * 2 ^ e.toNat)).shiftRight (-e).toNat
      have power : (2 : ℚ) ^ e = 2 ^ e.toNat / 2 ^ (-e).toNat := by
        rw [← zpow_natCast, ← zpow_natCast, ← zpow_sub₀ (by norm_num)]
        congr 1
        omega
      rw [power, ← mul_div_assoc]
      exact_mod_cast cut
    · simp only [UnpackedFloat.toInt, roundToInt, decreaseExponent, shiftToExponent, Sign.apply,
        Nat.shiftLeft_eq, sub_zero]
      rw [show (0 - (e - e.toNat)).toNat = (-e).toNat by omega]

/-- A float with a greater exponent is greater. -/
theorem Canonical.lt_of_exponent {m m' : ℕ} {e e' : ℤ} (small : Canonical m e)
    (large : Canonical m' e') (less : e < e') : (m : ℚ) * 2 ^ e < m' * 2 ^ e' := by
  have least := small.least
  -- Above the least exponent all mantissas are full, so they differ by less than a factor of two.
  have full : 2 ^ 52 ≤ m' := large.full.resolve_right (by omega)
  calc (m : ℚ) * 2 ^ e < 2 ^ 53 * 2 ^ e := by
        gcongr
        exact_mod_cast small.bits
    _ = 2 ^ 52 * 2 ^ (e + 1) := by
      rw [zpow_add₀ (by norm_num), zpow_one]
      ring
    _ ≤ m' * 2 ^ e' := by
      gcongr
      · exact_mod_cast full
      · norm_num
      · omega

/-- Mantissas and exponents order floats as their sizes are ordered. -/
theorem HasSize.le_iff {f g : UnpackedFloat} {u v : ℚ} (first : HasSize f u)
    (second : HasSize g v) : f.le g = true ↔ u ≤ v := by
  rcases first with sign | @⟨m, e, positive, canonical⟩ <;>
    rcases second with sign' | @⟨m', e', positive', canonical'⟩
  · simp [UnpackedFloat.le, UnpackedFloat.compare]
  · have : (0 : ℚ) ≤ m' * 2 ^ e' := by positivity
    simp [UnpackedFloat.le, UnpackedFloat.compare, this]
  · have : (0 : ℚ) < m * 2 ^ e := by positivity
    simp [UnpackedFloat.le, UnpackedFloat.compare, this]
  · simp only [UnpackedFloat.le, UnpackedFloat.compare, Option.any_some]
    -- Exponents are compared first; for canonical floats that is the order of the sizes.
    rcases lt_trichotomy e e' with less | rfl | greater
    · have : compare e e' = .lt := compare_lt_iff_lt.mpr less
      simp [this, (canonical.lt_of_exponent canonical' less).le]
    · have unit : (0 : ℚ) < 2 ^ e := by positivity
      simp [Std.ReflCmp.compare_self, mul_le_mul_iff_left₀ unit, Nat.isLE_compare]
    · have : compare e e' = .gt := compare_gt_iff_gt.mpr greater
      simp [this, canonical'.lt_of_exponent canonical greater]

end Minigame.Rounding

import Mathlib
import Minigame.Proofs.Decimal.Written
import Minigame.Proofs.Float.Size

/-!
The shortest decimals of doubles tell the doubles apart.

The numbers that are read back as a double lie between the halves of the ways to its neighbours. No
number lies there for two doubles, and the decimal that is written for a double is such a number.
-/

namespace Minigame.Decimal

open Minigame.Text Minigame.Rounding

/-- Decimals and binary values are compared as the numbers that they stand for. -/
theorem compareScaled_eq (a : Nat) (i : Int) (n : Nat) (j : Int) :
    compareScaled a i n j = compare ((a : ℚ) * 10 ^ i) (n * 2 ^ j) := by
  -- Both sides are multiplied by the powers that their negative exponents divide by.
  set scale : ℚ := 10 ^ (-i).toNat * 2 ^ (-j).toNat with scale_eq
  have grows : StrictMono fun v : ℚ => v * scale := by
    have positive : 0 < scale := by positivity
    exact fun u v less => mul_lt_mul_of_pos_right less positive
  -- A power times what its negative exponent divides by is a whole power.
  have split (b : ℚ) (nonzero : b ≠ 0) (e : Int) : b ^ e * b ^ (-e).toNat = b ^ e.toNat := by
    rw [← zpow_natCast, ← zpow_natCast, ← zpow_add₀ nonzero]
    congr 1
    omega
  have left : ((a * 10 ^ i.toNat * 2 ^ (-j).toNat : ℕ) : ℚ) = a * 10 ^ i * scale := by
    push_cast
    rw [scale_eq, ← split 10 (by norm_num) i]
    ring
  have right : ((n * 2 ^ j.toNat * 10 ^ (-i).toNat : ℕ) : ℚ) = n * 2 ^ j * scale := by
    push_cast
    rw [scale_eq, ← split 2 (by norm_num) j]
    ring
  -- What is compared is whole on both sides then.
  rw [compareScaled, ← cmp_eq_compare, ← cmp_eq_compare, ← grows.cmp_map_eq, ← left, ← right,
    (Nat.strictMono_cast (α := ℚ)).cmp_map_eq]

namespace Binary

/-- The lower end of what is read back, in quarters of the last place of the mantissa. -/
def low (x : Binary) : Nat :=
  if x.narrowBelow then 4 * x.mantissa - 1 else 4 * x.mantissa - 2

/-- The upper end of what is read back, in quarters of the last place of the mantissa. -/
def high (x : Binary) : Nat :=
  4 * x.mantissa + 2

/-- The numbers that are read back as a value: the ends belong to even mantissas alone. -/
structure Covers (x : Binary) (v : ℚ) : Prop where
  above : x.low * 2 ^ (x.exponent - 2) ≤ v
  below : v ≤ x.high * 2 ^ (x.exponent - 2)
  inside : x.mantissa % 2 = 1 →
    x.low * 2 ^ (x.exponent - 2) < v ∧ v < x.high * 2 ^ (x.exponent - 2)

/-- A decimal that reads back stands for a number that is read back. -/
theorem covers_of_readsBack {x : Binary} {d : Scaled} (reads : x.readsBack d = true) :
    x.Covers d.value := by
  have fromLow := compareScaled_eq d.digits d.exponent x.low (x.exponent - 2)
  have fromHigh := compareScaled_eq d.digits d.exponent x.high (x.exponent - 2)
  simp only [readsBack, Bool.and_eq_true, Bool.or_eq_true, decide_eq_true_eq] at reads
  obtain ⟨low, high⟩ := reads
  -- The decimal lies above the lower end, or it is this end and the mantissa is even.
  change compareScaled d.digits d.exponent x.low (x.exponent - 2) = .gt
    ∨ x.mantissa % 2 = 0 ∧ compareScaled d.digits d.exponent x.low (x.exponent - 2) = .eq at low
  change compareScaled d.digits d.exponent x.high (x.exponent - 2) = .lt
    ∨ x.mantissa % 2 = 0 ∧ compareScaled d.digits d.exponent x.high (x.exponent - 2) = .eq at high
  rw [fromLow, compare_gt_iff_gt, compare_eq_iff_eq] at low
  rw [fromHigh, compare_lt_iff_lt, compare_eq_iff_eq] at high
  refine ⟨?above, ?below, fun odd => ⟨?_, ?_⟩⟩
  case above => exact low.elim le_of_lt fun same => same.2.ge
  case below => exact high.elim le_of_lt fun same => same.2.le
  · -- The mantissa is odd, so the ends are excluded.
    exact low.resolve_right fun same => by omega
  · exact high.resolve_right fun same => by omega

/-- Only decimals that read back are taken from a grid. -/
theorem onGrid?_readsBack {x : Binary} {exponent : Int} {d : Scaled}
    (taken : x.onGrid? exponent = some d) : x.readsBack d = true := by
  unfold onGrid? at taken
  dsimp only at taken
  split at taken
  next below above =>
    -- Both neighbours read back, and rounding takes one of them.
    obtain rfl := Option.some.inj taken
    rw [roundDiv]
    split
    · exact below
    · split
      · exact above
      · split <;> assumption
  next below above => exact Option.some.inj taken ▸ below
  next below above => exact Option.some.inj taken ▸ above
  next => cases taken

/-- The exact decimal stands for the value itself. -/
theorem exact_value (x : Binary) : x.exact.value = x.mantissa * 2 ^ x.exponent := by
  rw [exact]
  split
  -- A whole number is written with its numerator.
  next whole =>
    obtain ⟨n, same⟩ := Int.eq_ofNat_of_zero_le whole
    simp [Scaled.value, numerator, same]
  -- A fraction of a power of two is one of a power of ten, with as many factors of five.
  next fraction =>
    obtain ⟨n, same⟩ := Int.eq_ofNat_of_zero_le (a := -x.exponent) (by omega)
    have exponent : x.exponent = -n := by omega
    have ten : (10 : ℚ) = 5 * 2 := by norm_num
    simp only [Scaled.value, exponent, neg_neg, Int.toNat_natCast, zpow_neg, zpow_natCast, ten]
    push_cast
    rw [mul_pow]
    field_simp

/-- A value is read back as itself. -/
theorem covers_exact (x : Binary) : x.Covers x.exact.value := by
  have quarters : (x.mantissa : ℚ) * 2 ^ x.exponent = (4 * x.mantissa : ℕ) * 2 ^ (x.exponent - 2) := by
    rw [zpow_sub₀ (by norm_num)]
    push_cast
    ring
  have unit : (0 : ℚ) < 2 ^ (x.exponent - 2) := by positivity
  -- The lower end is half a place below at most, and a quarter of one at least.
  have low : x.low ≤ 4 * x.mantissa ∧ (x.mantissa % 2 = 1 → x.low < 4 * x.mantissa) := by
    unfold Binary.low
    split <;> omega
  have high : 4 * x.mantissa < x.high := by
    unfold Binary.high
    omega
  rw [exact_value, quarters]
  refine ⟨?_, ?_, fun odd => ⟨?_, ?_⟩⟩
  · exact mul_le_mul_of_nonneg_right (Nat.cast_le.2 low.1) unit.le
  · exact mul_le_mul_of_nonneg_right (Nat.cast_le.2 high.le) unit.le
  · exact mul_lt_mul_of_pos_right (Nat.cast_lt.2 (low.2 odd)) unit
  · exact mul_lt_mul_of_pos_right (Nat.cast_lt.2 high) unit

/-- The shortest decimal stands for a number that is read back. -/
theorem covers_shortest (x : Binary) : x.Covers x.shortest.value := by
  unfold shortest
  dsimp only
  split
  -- A decimal was found on one of the grids, and it reads back.
  next d found =>
    obtain ⟨n, -, grid⟩ := List.exists_of_findSome?_eq_some found
    exact covers_of_readsBack (onGrid?_readsBack grid)
  -- Otherwise the exact decimal is taken.
  next => exact x.covers_exact

/-- A zero is read back from zero. -/
theorem covers_zero {x : Binary} (zero : x.mantissa = 0) : x.Covers 0 := by
  have exact := x.covers_exact
  rwa [exact_value, zero, Nat.cast_zero, zero_mul] at exact

/-- Nothing but a zero is read back from zero. -/
theorem Covers.mantissa_eq_zero {x : Binary} (covers : x.Covers 0) : x.mantissa = 0 := by
  have unit : (0 : ℚ) < 2 ^ (x.exponent - 2) := by positivity
  -- The lower end would have to be zero.
  have low : (x.low : ℚ) ≤ 0 := by
    simpa using le_of_mul_le_mul_right (covers.above.trans_eq (zero_mul _).symm) unit
  have none : x.low = 0 := by exact_mod_cast le_antisymm low (Nat.cast_nonneg _)
  unfold Binary.low at none
  split at none <;> omega

/-- Values that are read from one number lie on both sides of it. -/
theorem Covers.low_le_high {x y : Binary} {v : ℚ} (ofX : x.Covers v) (ofY : y.Covers v) {k : ℕ}
    (apart : y.exponent = x.exponent + k) :
    y.low * 2 ^ k ≤ x.high
      ∧ (x.mantissa % 2 = 1 ∨ y.mantissa % 2 = 1 → y.low * 2 ^ k < x.high) := by
  have unit : (0 : ℚ) < 2 ^ (x.exponent - 2) := by positivity
  -- Both ends are counted in the places of the smaller exponent.
  have low : (y.low : ℚ) * 2 ^ (y.exponent - 2) = (y.low * 2 ^ k : ℕ) * 2 ^ (x.exponent - 2) := by
    rw [show y.exponent - 2 = k + (x.exponent - 2) by omega, zpow_add₀ (by norm_num), zpow_natCast]
    push_cast
    ring
  constructor
  · have ends := ofY.above.trans ofX.below
    rw [low] at ends
    exact_mod_cast le_of_mul_le_mul_right ends unit
  · intro odd
    have ends : (y.low : ℚ) * 2 ^ (y.exponent - 2) < x.high * 2 ^ (x.exponent - 2) := by
      -- One of the two ends is excluded, as one of the mantissas is odd.
      rcases odd with odd | odd
      · exact ofY.above.trans_lt (ofX.inside odd).2
      · exact (ofY.inside odd).1.trans_le ofX.below
    rw [low] at ends
    exact_mod_cast lt_of_mul_lt_mul_right ends unit.le

/-- The mantissas and exponents of doubles: the value below is nearer at the least full mantissa alone. -/
structure Regular (x : Binary) : Prop where
  canonical : Canonical x.mantissa x.exponent
  narrow : x.narrowBelow = true ↔ x.mantissa = 2 ^ 52 ∧ -1074 < x.exponent

/-- No number is read back as two doubles. -/
theorem Covers.unique {x y : Binary} {v : ℚ} (regularX : x.Regular) (regularY : y.Regular)
    (ofX : x.Covers v) (ofY : y.Covers v) :
    x.mantissa = y.mantissa ∧ x.exponent = y.exponent := by
  -- By symmetry the second exponent is the first one or a greater one.
  wlog order : x.exponent ≤ y.exponent generalizing x y
  · have := this regularY regularX ofY ofX (by omega)
    exact ⟨this.1.symm, this.2.symm⟩
  obtain ⟨k, apart⟩ : ∃ k : ℕ, y.exponent = x.exponent + k := ⟨(y.exponent - x.exponent).toNat, by omega⟩
  obtain ⟨⟨smallX, leastX, fullX⟩, narrowX⟩ := regularX
  obtain ⟨⟨smallY, leastY, fullY⟩, narrowY⟩ := regularY
  obtain ⟨meet, apart_of_odd⟩ := ofX.low_le_high ofY apart
  -- The lower end of the greater value is as near as its mantissa allows.
  have lowY : (y.mantissa = 2 ^ 52 ∧ -1074 < y.exponent) ∧ y.low = 4 * y.mantissa - 1
      ∨ ¬ (y.mantissa = 2 ^ 52 ∧ -1074 < y.exponent) ∧ y.low = 4 * y.mantissa - 2 := by
    unfold Binary.low
    split
    next narrow => exact .inl ⟨narrowY.1 narrow, rfl⟩
    next wide => exact .inr ⟨fun least => wide (narrowY.2 least), rfl⟩
  have highX : x.high = 4 * x.mantissa + 2 := rfl
  rcases Nat.eq_zero_or_pos k with rfl | positive
  · -- With one exponent mantissas that are not equal are neighbours, and one of them is odd.
    obtain ⟨back, back_of_odd⟩ := ofY.low_le_high ofX (k := 0) (by omega)
    have lowX : 4 * x.mantissa - 2 ≤ x.low := by
      unfold Binary.low
      split <;> omega
    have highY : y.high = 4 * y.mantissa + 2 := rfl
    simp only [Nat.pow_zero, Nat.mul_one] at meet apart_of_odd back back_of_odd
    omega
  · -- The greater value begins where the last one with the smaller exponent ends, and that is odd.
    have double : y.low * 2 ≤ y.low * 2 ^ k :=
      Nat.mul_le_mul_left _ (Nat.le_self_pow positive.ne' 2)
    omega

end Binary

/-- The magnitude of a double by its exponent bits and its fraction. -/
theorem magnitude_cases (bits : Nat) :
    bits / 2 ^ 52 % 2 ^ 11 = 0 ∧ binary64.magnitude bits = ⟨bits % 2 ^ 52, -1074, false⟩
      ∨ 0 < bits / 2 ^ 52 % 2 ^ 11 ∧ binary64.magnitude bits =
        ⟨2 ^ 52 + bits % 2 ^ 52, (bits / 2 ^ 52 % 2 ^ 11 : Nat) - 1075,
          bits % 2 ^ 52 = 0 && 1 < bits / 2 ^ 52 % 2 ^ 11⟩ := by
  -- Exponent bits of zero stand for the least exponent, without a leading bit.
  rcases Nat.eq_zero_or_pos (bits / 2 ^ 52 % 2 ^ 11) with least | positive
  · exact .inl ⟨least, if_pos least⟩
  · refine .inr ⟨positive, (if_neg positive.ne').trans ?_⟩
    have exponent (field : Int) : (2 - 2 ^ 10 - 52 + (field - 1) : Int) = field - 1075 := by omega
    exact congrArg (Binary.mk _ · _) (exponent _)

/-- The magnitude behind the bits of a double is one of a double. -/
theorem magnitude_regular (bits : Nat) : (binary64.magnitude bits).Regular := by
  rcases magnitude_cases bits with ⟨least, same⟩ | ⟨positive, same⟩
  · rw [same]
    exact ⟨⟨by dsimp only; omega, by simp, .inr rfl⟩, by simp⟩
  · rw [same]
    refine ⟨⟨by dsimp only; omega, by dsimp only; omega, .inl (by dsimp only; omega)⟩, ?_⟩
    simp only [Bool.and_eq_true, decide_eq_true_eq]
    omega

/-- Two doubles of one sign and one magnitude have the same bits. -/
theorem eq_of_magnitude {a b : Nat} (smallA : a < 2 ^ 64) (smallB : b < 2 ^ 64)
    (sign : binary64.isNegative a = binary64.isNegative b)
    (mantissa : (binary64.magnitude a).mantissa = (binary64.magnitude b).mantissa)
    (exponent : (binary64.magnitude a).exponent = (binary64.magnitude b).exponent) : a = b := by
  have signs : a / 2 ^ 63 % 2 = 1 ↔ b / 2 ^ 63 % 2 = 1 := decide_eq_decide.1 sign
  -- A mantissa without the leading bit has the exponent bits zero, any other one tells them.
  rcases magnitude_cases a with ⟨leastA, sameA⟩ | ⟨positiveA, sameA⟩ <;>
    rcases magnitude_cases b with ⟨leastB, sameB⟩ | ⟨positiveB, sameB⟩ <;>
    · rw [sameA, sameB] at mantissa exponent
      dsimp only at mantissa exponent
      omega

/-- A text that begins with a minus sign is no unsigned decimal. -/
theorem readScaled?_minus (rest : List Char) : readScaled? ('-' :: rest) = none := rfl

/-- Whatever the layout is, the text of a magnitude spells a number that is read back as it. -/
theorem magnitudeText_read (layout : Layout) (x : Binary) :
    ∃ s, readScaled? (layout.magnitudeText x) = some s ∧ x.Covers s.value := by
  unfold Layout.magnitudeText
  split
  -- Both ways to write a zero spell zero.
  next zero =>
    have covers := Binary.covers_zero zero
    cases layout.pointZero
    · exact ⟨⟨0, 0⟩, rfl, by simpa [Scaled.value] using covers⟩
    · exact ⟨⟨0, -1⟩, rfl, by simpa [Scaled.value] using covers⟩
  next nonzero =>
    have covers := x.covers_shortest
    -- Without digits the decimal would be zero, and so would the value.
    have digits : x.shortest.digits ≠ 0 := fun none =>
      nonzero <| Binary.Covers.mantissa_eq_zero <| by simpa [Scaled.value, none] using covers
    obtain ⟨s, read, same⟩ := (Scaled.plain_toDigits digits).read_write layout
    exact ⟨s, read, same ▸ x.shortest.toDigits_value ▸ covers⟩

/-- The text of a magnitude does not begin with a minus sign. -/
theorem magnitudeText_ne_minus (layout : Layout) (x : Binary) (rest : List Char) :
    layout.magnitudeText x ≠ '-' :: rest := fun minus => by
  -- The text spells a decimal, which has no sign.
  obtain ⟨s, read, -⟩ := magnitudeText_read layout x
  rw [minus, readScaled?_minus] at read
  cases read

/-- Whatever the layout is, the texts of two doubles are different. -/
theorem writeBits_inj {layout : Layout} {a b : Nat} (smallA : a < 2 ^ 64) (smallB : b < 2 ^ 64)
    (same : layout.writeBits binary64 a = layout.writeBits binary64 b) : a = b := by
  rw [writeBits_eq, writeBits_eq] at same
  -- The sign is seen in front, so that both magnitudes have one text.
  obtain ⟨sign, texts⟩ : binary64.isNegative a = binary64.isNegative b
      ∧ layout.magnitudeText (binary64.magnitude a) = layout.magnitudeText (binary64.magnitude b) := by
    cases signA : binary64.isNegative a <;> cases signB : binary64.isNegative b <;>
      simp only [signA, signB, if_true, Bool.false_eq_true, if_false] at same
    · -- Neither of the two has a sign.
      exact ⟨rfl, same⟩
    · exact absurd same (magnitudeText_ne_minus layout _ _)
    · exact absurd same.symm (magnitudeText_ne_minus layout _ _)
    · -- Both signs are the same, and they are taken off.
      exact ⟨rfl, (List.cons.inj same).2⟩
  -- One text spells one number, which is read back as both.
  obtain ⟨s, readA, coversA⟩ := magnitudeText_read layout (binary64.magnitude a)
  obtain ⟨t, readB, coversB⟩ := magnitudeText_read layout (binary64.magnitude b)
  obtain rfl : s = t := Option.some.inj (readA.symm.trans (texts ▸ readB))
  obtain ⟨mantissa, exponent⟩ :=
    Binary.Covers.unique (magnitude_regular a) (magnitude_regular b) coversA coversB
  exact eq_of_magnitude smallA smallB sign mantissa exponent

/-- Doubles with the same bits are the same. -/
theorem eq_of_toBits {x y : Float} (same : x.toBits = y.toBits) : x = y := by
  -- A float is its bits, with a proof that they are in order.
  obtain ⟨⟨bitsX, validX⟩⟩ := x
  obtain ⟨⟨bitsY, validY⟩⟩ := y
  obtain rfl : bitsX = bitsY := same
  rfl

/-- Whatever the layout is, a double is told by its text. -/
theorem writeFloat_inj {layout : Layout} {x y : Float}
    (same : layout.writeFloat x = layout.writeFloat y) : x = y :=
  eq_of_toBits (UInt64.toNat_inj.1 (writeBits_inj x.toBits.toNat_lt y.toBits.toNat_lt same))

end Minigame.Decimal

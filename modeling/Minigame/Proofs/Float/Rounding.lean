import Mathlib
import Minigame.Power

/-!
Rounding to 64-bit floating-point numbers respects the order.

A number is cut to 53 bits, or to a multiple of the least positive float, and what is cut off is
kept as two bits that decide the rounding.
-/

namespace Minigame.Rounding

open Float.Model Float.Model.UnpackedFloat

/-- What a mantissa and its two residual bits tell about the number that was cut. -/
def CutOf (cut : ExtendedMantissa) (x : ℚ) : Prop :=
  match cut.roundBit, cut.stickyBit with
  | false, false => x = cut.mantissa
  | false, true => (cut.mantissa : ℚ) < x ∧ x < cut.mantissa + 1 / 2
  | true, false => x = cut.mantissa + 1 / 2
  | true, true => (cut.mantissa : ℚ) + 1 / 2 < x ∧ x < cut.mantissa + 1

namespace CutOf

variable {cut other : ExtendedMantissa} {x y : ℚ}

theorem mantissa_le (whole : CutOf cut x) : (cut.mantissa : ℚ) ≤ x := by
  obtain ⟨mantissa, round, sticky⟩ := cut
  -- The two bits leave four cases, and in each of them the number lies from the mantissa on.
  cases round <;> cases sticky <;> simp only [CutOf] at whole ⊢ <;> linarith

theorem lt_mantissa (whole : CutOf cut x) : x < cut.mantissa + 1 := by
  obtain ⟨mantissa, round, sticky⟩ := cut
  cases round <;> cases sticky <;> simp only [CutOf] at whole ⊢ <;> linarith

/-- A mantissa is the integer part of what it was cut from, so integers below are below it. -/
theorem le_mantissa (whole : CutOf cut x) {n : ℕ} (least : (n : ℚ) ≤ x) : n ≤ cut.mantissa := by
  have below : (n : ℚ) < cut.mantissa + 1 := least.trans_lt whole.lt_mantissa
  have strict : n < cut.mantissa + 1 := by exact_mod_cast below
  omega

theorem mantissa_lt (whole : CutOf cut x) {n : ℕ} (most : x < n) : cut.mantissa < n := by
  have above : (cut.mantissa : ℚ) < n := whole.mantissa_le.trans_lt most
  exact_mod_cast above

/-- Cutting off one more bit cuts half the number. -/
theorem shiftRightOne (whole : CutOf cut x) : CutOf cut.shiftRightOne (x / 2) := by
  obtain ⟨mantissa, round, sticky⟩ := cut
  -- The last bit of the mantissa is what half of it leaves over.
  have halves : ((mantissa % 2 : ℕ) : ℚ) + 2 * ((mantissa / 2 : ℕ) : ℚ) = mantissa := by
    exact_mod_cast Nat.mod_add_div mantissa 2
  -- The bit that is cut off becomes the round bit, and the old round bit makes the rest sticky.
  rcases Nat.mod_two_eq_zero_or_one mantissa with even | odd
  · have bit : (mantissa % 2 != 0) = false := by simp [even]
    rw [even, Nat.cast_zero, zero_add] at halves
    cases round <;> cases sticky <;>
      simp only [CutOf, ExtendedMantissa.shiftRightOne, bit, Bool.or_true, Bool.or_false] at whole ⊢
    all_goals first | linarith | constructor <;> linarith
  · have bit : (mantissa % 2 != 0) = true := by simp [odd]
    rw [odd, Nat.cast_one] at halves
    cases round <;> cases sticky <;>
      simp only [CutOf, ExtendedMantissa.shiftRightOne, bit, Bool.or_true, Bool.or_false] at whole ⊢
    all_goals first | linarith | constructor <;> linarith

theorem shiftRight (whole : CutOf cut x) (bits : ℕ) : CutOf (cut >>> bits) (x / 2 ^ bits) := by
  change CutOf (bits.repeat ExtendedMantissa.shiftRightOne cut) _
  -- Bit by bit, with half of the number left each time.
  induction bits with
  | zero => simpa [Nat.repeat] using whole
  | succ bits ih =>
    have next := ih.shiftRightOne
    rw [div_div, ← pow_succ] at next
    exact next

/-- Rounding keeps a mantissa or takes the next one. -/
theorem rounded_bounds (cut : ExtendedMantissa) :
    cut.mantissa ≤ cut.roundedMantissa ∧ cut.roundedMantissa ≤ cut.mantissa + 1 := by
  obtain ⟨mantissa, round, sticky⟩ := cut
  -- Only above the half, or at the half of an odd mantissa, the next one is taken.
  cases round <;> cases sticky <;>
    simp only [ExtendedMantissa.roundedMantissa, ExtendedMantissa.accuracy,
      Accuracy.roundToNearestEven] <;> omega

/-- Of two numbers the greater one is not rounded to less. -/
theorem rounded_mono (small : CutOf cut x) (large : CutOf other y) (ordered : x ≤ y) :
    cut.roundedMantissa ≤ other.roundedMantissa := by
  -- The integer parts are ordered as the numbers are.
  have parts : cut.mantissa ≤ other.mantissa :=
    large.le_mantissa (small.mantissa_le.trans ordered)
  rcases parts.lt_or_eq with less | same
  · -- Between different integer parts there is room for both roundings.
    have upper := (rounded_bounds cut).2
    have lower := (rounded_bounds other).1
    omega
  · -- With the same integer part the residual bits decide, and they are ordered as the numbers.
    obtain ⟨mantissa, round, sticky⟩ := cut
    obtain ⟨mantissa', round', sticky'⟩ := other
    subst same
    cases round <;> cases sticky <;> cases round' <;> cases sticky' <;>
      simp only [CutOf, ExtendedMantissa.roundedMantissa, ExtendedMantissa.accuracy,
        Accuracy.roundToNearestEven] at small large ⊢ <;>
      first | omega | (exfalso; linarith)

end CutOf

/-- A cut of an integer that loses nothing. -/
theorem cutOf_exact (n : ℕ) : CutOf (.ofMantissaAndAccuracy n .exact) n := rfl

/-- A number and the multiple of a power of two it is rounded to. -/
def Rounds (x v : ℚ) : Prop :=
  ∃ (unit : ℤ) (cut : ExtendedMantissa),
    CutOf cut (x / 2 ^ unit) ∧ v = cut.roundedMantissa * 2 ^ unit
      ∧ -1074 ≤ unit ∧ x < 2 ^ (unit + 53) ∧ (unit = -1074 ∨ 2 ^ (unit + 52) ≤ x)

/-- A greater number is not rounded to less, across all sizes. -/
theorem Rounds.mono {x y v w : ℚ} (small : Rounds x v) (large : Rounds y w) (ordered : x ≤ y) :
    v ≤ w := by
  obtain ⟨unit, cut, whole, rfl, least, above, exact⟩ := small
  obtain ⟨unit', cut', whole', rfl, least', above', exact'⟩ := large
  -- A greater number does not have the smaller unit.
  have units : unit ≤ unit' := by
    rcases exact with rfl | below
    · exact least'
    · -- A number with all its bits is at least as large as they say.
      have bound : (2 : ℚ) ^ (unit + 52) < 2 ^ (unit' + 53) := (below.trans ordered).trans_lt above'
      have := (zpow_lt_zpow_iff_right₀ (by norm_num : (1 : ℚ) < 2)).mp bound
      omega
  rcases units.lt_or_eq with less | rfl
  · -- The smaller number is rounded to a power of two at most, the greater to one at least.
    have below' : (2 : ℚ) ^ (unit' + 52) ≤ y := exact'.resolve_left (by omega)
    -- Before rounding the smaller number has fewer than fifty-four bits.
    have few : cut.mantissa < 2 ^ 53 := by
      apply whole.mantissa_lt
      rw [div_lt_iff₀ (by positivity)]
      calc x < 2 ^ (unit + 53) := above
        _ = ((2 ^ 53 : ℕ) : ℚ) * 2 ^ unit := by
          rw [zpow_add₀ (by norm_num)]
          push_cast
          exact mul_comm _ _
    -- The greater number has a bit in front of all the others.
    have many : 2 ^ 52 ≤ cut'.mantissa := by
      apply whole'.le_mantissa
      rw [le_div_iff₀ (by positivity)]
      calc ((2 ^ 52 : ℕ) : ℚ) * 2 ^ unit' = 2 ^ (unit' + 52) := by
            rw [zpow_add₀ (by norm_num)]
            push_cast
            exact mul_comm _ _
        _ ≤ y := below'
    -- Rounding goes no farther than to the next power of two.
    have upper : (cut.roundedMantissa : ℚ) ≤ 2 ^ 53 := by
      have := (CutOf.rounded_bounds cut).2
      exact_mod_cast (by omega : cut.roundedMantissa ≤ 2 ^ 53)
    have lower : (2 : ℚ) ^ 52 ≤ cut'.roundedMantissa := by
      have := (CutOf.rounded_bounds cut').1
      exact_mod_cast many.trans this
    -- The powers of two on both sides meet in the middle.
    calc (cut.roundedMantissa : ℚ) * 2 ^ unit ≤ 2 ^ 53 * 2 ^ unit := by gcongr
      _ = 2 ^ 52 * 2 ^ (unit + 1) := by
        rw [zpow_add₀ (by norm_num), zpow_one]
        ring
      _ ≤ 2 ^ 52 * 2 ^ unit' := by
        gcongr
        · norm_num
        · omega
      _ ≤ cut'.roundedMantissa * 2 ^ unit' := by gcongr
  · -- In the same unit the integers are rounded in order.
    have fractions : x / 2 ^ unit ≤ y / 2 ^ unit := by gcongr
    have rounded := whole.rounded_mono whole' fractions
    have : (cut.roundedMantissa : ℚ) ≤ cut'.roundedMantissa := by exact_mod_cast rounded
    gcongr

/-- A number is rounded in one way alone. -/
theorem Rounds.unique {x v w : ℚ} (first : Rounds x v) (second : Rounds x w) : v = w :=
  le_antisymm (first.mono second le_rfl) (second.mono first le_rfl)

end Minigame.Rounding

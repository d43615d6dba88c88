import Minigame.Proofs.Float.Product
import Minigame.Proofs.Float.Whole

/-!
Decimals are read as the floats that they are rounded to.

Short decimals are quotients and products of floats with powers of ten from a table. All others are
rounded from the exact quotient or product.
-/

namespace Minigame.Decimal

open Minigame.Text Minigame.Rounding
open Float.Model Float.Model.UnpackedFloat

/-- The powers of ten in the table are exact. -/
theorem powerOfTen_size {k : ℕ} (listed : k < Float.exactlyRepresentablePowersOfTen.size) :
    HasSize Float.exactlyRepresentablePowersOfTen[k].toModel.unpack (10 ^ k) := by
  -- Each entry has a full mantissa, and with its exponent it is the power.
  have table : ∀ k : Fin 23,
      (match Float.exactlyRepresentablePowersOfTen.getD k 0.0 |>.toModel.unpack with
      | .finite .positive m e _ => decide (2 ^ 52 ≤ m ∧ m < 2 ^ 53 ∧ -1074 ≤ e ∧
          m * 2 ^ e.toNat = 10 ^ k.val * 2 ^ (-e).toNat)
      | _ => false) = true := by decide +kernel
  have entry := table ⟨k, listed⟩
  rw [Array.getD_eq_getD_getElem?, Array.getElem?_eq_getElem listed, Option.getD_some] at entry
  generalize Float.exactlyRepresentablePowersOfTen[k].toModel.unpack = f at entry ⊢
  -- Any other kind of float fails the check of the table.
  rcases f with _ | _ | _ | ⟨_ | _, m, e, positive⟩ <;> try cases entry
  obtain ⟨full, bits, least, same⟩ := of_decide_eq_true entry
  have size := HasSize.finite positive ⟨bits, least, .inl full⟩
  have value : (m : ℚ) * 2 ^ e = 10 ^ k := by
    rw [two_zpow_eq, ← mul_div_assoc, div_eq_iff (by positivity)]
    exact_mod_cast same
  rwa [value] at size

/-- Numbers that are neither too small nor too great for a float, by a wide margin. -/
structure InReach (v : ℚ) : Prop where
  least : 10 ^ (-60 : ℤ) ≤ v
  most : v ≤ 10 ^ (60 : ℤ)

/-- A number in reach is rounded to a float below infinity. -/
theorem InReach.rounds_lt {v w : ℚ} (reach : InReach v) (rounds : Rounds v w) : w < 2 ^ 1024 := by
  have bound : (10 : ℚ) ^ (60 : ℤ) ≤ 2 ^ (200 : ℤ) := by norm_num
  calc w ≤ 2 ^ (200 : ℤ) :=
        rounds.mono (rounds_two_zpow (by norm_num)) (reach.most.trans bound)
    _ < 2 ^ (1024 : ℤ) := zpow_lt_zpow_right₀ (by norm_num) (by norm_num)
    _ = 2 ^ 1024 := zpow_natCast 2 1024

section

variable {m : ℕ} {e : ℤ} (positive : 0 < m) (reach : InReach (m * 10 ^ e))
include positive reach

/-- A decimal with few digits and a small exponent is a quotient or a product of exact floats. -/
theorem ofScientific_short (small : m < 2 ^ 53) (few : e.natAbs ≤ 22) :
    ∃ w, HasSize (Float.ofScientific m (e < 0) e.natAbs).toModel.unpack w
      ∧ Rounds (m * 10 ^ e) w := by
  -- Digits below 2^53 and powers up to 10^22 are floats, so only the division or product rounds.
  have digits := hasSize_toFloat positive small
  have listed : e.natAbs < Float.exactlyRepresentablePowersOfTen.size := by
    change e.natAbs < 23
    omega
  have power := powerOfTen_size listed
  rw [Float.ofScientific, dif_pos ⟨small, few⟩]
  dsimp only
  by_cases negative : e < 0
  · rw [if_pos (by simpa using negative)]
    obtain ⟨w, size, rounds⟩ := div_size digits power (by positivity)
    -- A negative exponent divides by the power.
    have value : (m : ℚ) / 10 ^ e.natAbs = m * 10 ^ e := by
      obtain ⟨k, rfl⟩ := Int.eq_negSucc_of_lt_zero negative
      rw [zpow_negSucc, Int.natAbs_negSucc, div_eq_mul_inv]
    rw [value] at rounds
    exact ⟨w, pack_size size (reach.rounds_lt rounds), rounds⟩
  · rw [if_neg (by simpa using negative)]
    obtain ⟨w, size, rounds⟩ := mul_size digits power
    -- Any other exponent multiplies by it.
    have value : (m : ℚ) * 10 ^ e.natAbs = m * 10 ^ e := by
      obtain ⟨k, rfl⟩ := Int.eq_ofNat_of_zero_le (by omega : 0 ≤ e)
      rw [zpow_natCast, Int.natAbs_natCast]
    rw [value] at rounds
    exact ⟨w, pack_size size (reach.rounds_lt rounds), rounds⟩

/-- The exponents of decimals in reach, by how many bits their digits have. -/
theorem exponent_bounds : -(61 + (m.log2 : ℤ)) ≤ e ∧ e ≤ 60 := by
  constructor
  · -- Few bits are few digits, so a number that is not too small has no very low exponent.
    have digits : (m : ℚ) ≤ 10 ^ (m.log2 + 1 : ℤ) := by
      calc (m : ℚ) ≤ 2 ^ (m.log2 + 1) := by exact_mod_cast Nat.lt_log2_self.le
        _ ≤ 10 ^ (m.log2 + 1) := by gcongr; norm_num
        _ = 10 ^ (m.log2 + 1 : ℤ) := by norm_cast
    have power : (10 : ℚ) ^ (-60 : ℤ) ≤ 10 ^ (m.log2 + 1 + e : ℤ) := by
      rw [zpow_add₀ (by norm_num)]
      exact reach.least.trans (by gcongr)
    have := (zpow_le_zpow_iff_right₀ (by norm_num)).mp power
    omega
  · -- At least one digit is there, so the exponent alone is not above the greatest number.
    have power : (10 : ℚ) ^ e ≤ 10 ^ (60 : ℤ) := by
      refine le_trans ?_ reach.most
      exact le_mul_of_one_le_left (by positivity) (by exact_mod_cast positive)
    exact (zpow_le_zpow_iff_right₀ (by norm_num)).mp power

/-- Any other decimal in reach is the exact quotient or product, rounded. -/
theorem ofScientific_long :
    ∃ w, HasSize (Float.Model.ofScientific m e).unpack w ∧ Rounds (m * 10 ^ e) w := by
  -- In reach neither of the two early answers for extreme exponents is given.
  obtain ⟨few, many⟩ := exponent_bounds positive reach
  have bits : Format.binary64.exponentBits = 11 := rfl
  obtain ⟨w, size, rounds⟩ : ∃ w, HasSize (UnpackedFloat.ofScientific Format.binary64 m e) w
      ∧ Rounds (m * 10 ^ e) w := by
    -- The exponent is neither too small nor too great, so the answer is rounded.
    rw [UnpackedFloat.ofScientific, dif_neg positive.ne', if_neg (by rw [bits]; norm_num; omega),
      if_neg (by rw [bits]; norm_num; omega)]
    split
    · next whole =>
      -- The digits are moved to the left, so that the product has bits enough.
      have room : 2 ^ 52 ≤ m <<< 53 * 10 ^ e.toNat := by
        rw [Nat.shiftLeft_eq]
        have : 0 < m * 10 ^ e.toNat := by positivity
        nlinarith
      have value : ((m <<< 53 * 10 ^ e.toNat : ℕ) : ℚ) * 2 ^ (-53 : ℤ) = m * 10 ^ e := by
        obtain ⟨k, rfl⟩ := Int.eq_ofNat_of_zero_le whole
        rw [Nat.shiftLeft_eq, Int.toNat_natCast]
        push_cast
        rw [zpow_natCast]
        norm_num
        ring
      obtain ⟨w, size, rounds⟩ := roundExact_size (e := -53) (.inl room)
      rw [value] at rounds
      exact ⟨w, size, rounds⟩
    · next fraction =>
      -- The quotient of two whole numbers is rounded once, with all its digits.
      have power : 0 < 10 ^ (-e).toNat := by positivity
      obtain ⟨w, size, rounds⟩ := quotient_size positive power 0 0
      have value : (m : ℚ) * 2 ^ (0 : ℤ) / ((10 ^ (-e).toNat : ℕ) * 2 ^ (0 : ℤ)) = m * 10 ^ e := by
        obtain ⟨k, rfl⟩ := Int.eq_negSucc_of_lt_zero (not_le.mp fraction)
        simp [zpow_negSucc, div_eq_mul_inv]
      rw [value] at rounds
      exact ⟨w, size, rounds⟩
  exact ⟨w, pack_size size (reach.rounds_lt rounds), rounds⟩

/-- How many digits a decimal in reach has, moved by its exponent. -/
theorem size_bounds : -60 < ((Nat.toDigits 10 m).length + e : ℤ)
    ∧ ((Nat.toDigits 10 m).length + e : ℤ) ≤ 61 := by
  have some : 0 < (Nat.toDigits 10 m).length := Nat.length_toDigits_pos
  constructor
  · -- A number with that many digits is below that power of ten.
    have most : m < 10 ^ (Nat.toDigits 10 m).length :=
      (Nat.length_toDigits_le_iff (by norm_num) some).mp le_rfl
    have power : (10 : ℚ) ^ (-60 : ℤ) < 10 ^ ((Nat.toDigits 10 m).length + e : ℤ) := by
      rw [zpow_add₀ (by norm_num), zpow_natCast]
      refine reach.least.trans_lt ?_
      gcongr
      exact_mod_cast most
    exact (zpow_lt_zpow_iff_right₀ (by norm_num)).mp power
  · -- The first digit is not zero, so the number is not below the power of ten one lower.
    have least : 10 ^ ((Nat.toDigits 10 m).length - 1) ≤ m := by
      rcases Nat.eq_zero_or_pos ((Nat.toDigits 10 m).length - 1) with one | more
      · rw [one]
        exact positive
      · refine not_lt.mp fun fewer => ?_
        have := (Nat.length_toDigits_le_iff (by norm_num) more).mpr fewer
        omega
    have power : (10 : ℚ) ^ (((Nat.toDigits 10 m).length - 1 : ℕ) + e : ℤ) ≤ 10 ^ (60 : ℤ) := by
      rw [zpow_add₀ (by norm_num), zpow_natCast]
      refine le_trans ?_ reach.most
      gcongr
      exact_mod_cast least
    have := (zpow_le_zpow_iff_right₀ (by norm_num)).mp power
    omega

/-- A decimal in reach is read as the float that it is rounded to. -/
theorem toFloat_size :
    ∃ w, HasSize (toFloat m e).toModel.unpack w ∧ Rounds (m * 10 ^ e) w := by
  obtain ⟨few, many⟩ := size_bounds positive reach
  -- Neither is the decimal so small that it is zero nor so great that it is infinity.
  unfold toFloat
  dsimp only
  rw [if_neg (by omega), if_neg (by omega)]
  by_cases short : m < 2 ^ 53 ∧ e.natAbs ≤ 22
  · exact ofScientific_short positive reach short.1 short.2
  · -- The exponent is handed over as its sign and its size, and put together again.
    have exponent : (if decide (e < 0) = true then Int.negOfNat e.natAbs else Int.ofNat e.natAbs)
        = e := by
      by_cases negative : e < 0
      · rw [if_pos (by simpa using negative), Int.negOfNat_eq, Int.ofNat_eq_natCast]
        omega
      · rw [if_neg (by simpa using negative)]
        exact Int.natAbs_of_nonneg (by omega)
    rw [Float.ofScientific, dif_neg short, exponent]
    exact ofScientific_long positive reach

end

/-- A float that is not negative and that a number is rounded to. -/
def ReadAs (x : Float) (v : ℚ) : Prop :=
  ∃ w, HasSize x.toModel.unpack w ∧ Rounds v w

/-- Zero is read as zero, with any sign. -/
theorem readAs_zero {x : Float} (sign : Sign) (unpacked : x.toModel.unpack = .zero sign) :
    ReadAs x 0 := by
  have size := HasSize.zero sign
  exact ⟨0, unpacked ▸ size, size.rounds⟩

/-- A number that is a float is read as itself. -/
theorem ReadAs.hasSize {x : Float} {v : ℚ} {f : UnpackedFloat} (reads : ReadAs x v)
    (size : HasSize f v) : HasSize x.toModel.unpack v := by
  obtain ⟨w, read, rounds⟩ := reads
  -- Rounding has one result, and a float is rounded to itself.
  have same : w = v := rounds.unique size.rounds
  exact same ▸ read

/-- The number that a literal of digits stands for. -/
def literalValue? (text : List Char) : Option ℚ :=
  match text with
  | '-' :: rest => (readScaled? rest).map (-·.value)
  | _ => (readScaled? (dropPlus text)).map (·.value)

section

variable {text : List Char} (unsigned : ∀ rest, text ≠ '-' :: rest)
include unsigned

/-- A literal without a minus sign stands for what is behind an optional plus sign. -/
theorem literalValue?_of_unsigned :
    literalValue? text = (readScaled? (dropPlus text)).map (·.value) := by
  unfold literalValue?
  split
  · next rest => exact absurd rfl (unsigned rest)
  · rfl

/-- A literal without a minus sign is read as what is behind an optional plus sign. -/
theorem readFloat?_of_unsigned :
    readFloat? text = (readDecimal? (dropPlus text) <|> specialValue? (dropPlus text)) := by
  unfold readFloat?
  split
  · next rest => exact absurd rfl (unsigned rest)
  · rfl

end

theorem Scaled.value_nonneg (d : Scaled) : 0 ≤ d.value := by
  unfold Scaled.value
  positivity

section

variable {text : List Char}

/-- Digits that stand for zero, or for a number in reach, are read. -/
theorem readDecimal?_readAs {d : Scaled} (spelled : readScaled? text = some d)
    (reach : d.value = 0 ∨ InReach d.value) :
    ∃ x, readDecimal? text = some x ∧ ReadAs x d.value ∧ (d.value = 0 → x = 0.0) := by
  rw [readDecimal?_eq, spelled]
  refine ⟨toFloat d.digits d.exponent, rfl, ?_⟩
  -- Without digits the decimal is zero; otherwise it is in reach.
  rcases Nat.eq_zero_or_pos d.digits with none | some
  · have zero : d.value = 0 := by simp [Scaled.value, none]
    have read : toFloat d.digits d.exponent = 0.0 := if_pos (.inl none)
    rw [zero, read]
    exact ⟨readAs_zero .positive rfl, fun _ => rfl⟩
  · have positive : 0 < d.value := by
      unfold Scaled.value
      positivity
    exact ⟨toFloat_size some (reach.resolve_left positive.ne'), fun zero => absurd zero positive.ne'⟩

/-- A literal that stands for zero, or for a number in reach, is read. -/
theorem readFloat?_readAs {v : ℚ} (stands : literalValue? text = some v) (nonneg : 0 ≤ v)
    (reach : v = 0 ∨ InReach v) : ∃ x, readFloat? text = some x ∧ ReadAs x v := by
  by_cases signed : ∃ rest, text = '-' :: rest
  · obtain ⟨rest, rfl⟩ := signed
    obtain ⟨d, spelled, rfl⟩ := Option.map_eq_some_iff.1 stands
    -- Behind a minus sign only zero is not negative.
    have zero : d.value = 0 := le_antisymm (by linarith) d.value_nonneg
    obtain ⟨x, read, -, none⟩ := readDecimal?_readAs spelled (.inl zero)
    refine ⟨-x, by simp [readFloat?, read], ?_⟩
    rw [none zero, zero, neg_zero]
    exact readAs_zero .negative rfl
  · have unsigned : ∀ rest, text ≠ '-' :: rest := not_exists.1 signed
    rw [literalValue?_of_unsigned unsigned] at stands
    obtain ⟨d, spelled, rfl⟩ := Option.map_eq_some_iff.1 stands
    obtain ⟨x, read, reads, -⟩ := readDecimal?_readAs spelled reach
    exact ⟨x, by simp [readFloat?_of_unsigned unsigned, read], reads⟩

/-- Words for special values stand for no finite float. -/
theorem specialValue?_isFinite {x : Float} (read : specialValue? text = some x) :
    x.isFinite = false ∧ (-x).isFinite = false := by
  unfold specialValue? at read
  dsimp only at read
  -- The words are those for infinity and for what is not a number.
  split at read
  · obtain rfl := Option.some.inj read
    decide +kernel
  · split at read
    · obtain rfl := Option.some.inj read
      decide +kernel
    · cases read

/-- What is no literal of digits is not read as a finite float. -/
theorem isFinite_of_no_literal {x : Float} (none : literalValue? text = none)
    (read : readFloat? text = some x) : x.isFinite = false := by
  -- Behind any sign only words are left.
  have word (other : List Char) (unspelled : (readScaled? other).map Scaled.value = .none)
      {y : Float} (read : (readDecimal? other <|> specialValue? other) = some y) :
      y.isFinite = false ∧ (-y).isFinite = false := by
    rw [readDecimal?_eq, Option.map_eq_none_iff.1 unspelled] at read
    exact specialValue?_isFinite read
  -- A minus sign turns the float round, and that is finite or not as before.
  by_cases signed : ∃ rest, text = '-' :: rest
  · obtain ⟨rest, rfl⟩ := signed
    obtain ⟨y, unsigned, rfl⟩ := Option.map_eq_some_iff.1 read
    exact (word rest (by simpa [literalValue?] using none) unsigned).2
  · have unsigned : ∀ rest, text ≠ '-' :: rest := not_exists.1 signed
    rw [literalValue?_of_unsigned unsigned] at none
    rw [readFloat?_of_unsigned unsigned] at read
    exact (word _ none read).1

end

end Minigame.Decimal

import Minigame.Proofs.Float.Packing

/-!
The order of floats that are not negative, and the operations that respect it.

Sums, quotients and whole parts are rounded, yet a greater float never gives a lesser one.
-/

namespace Minigame.Rounding

open Float.Model Float.Model.UnpackedFloat

/-- A float that is not negative, and what it amounts to: a number, or more than every number. -/
inductive Amount : UnpackedFloat → WithTop ℚ → Prop
  | infinite : Amount (.infinity .positive) ⊤
  | finite {f : UnpackedFloat} {u : ℚ} (size : HasSize f u) : Amount f u

/-- What a rounded number amounts to when it is stored. -/
def stored (v : ℚ) : WithTop ℚ :=
  if v < 2 ^ 1024 then v else ⊤

theorem le_stored (v : ℚ) : (v : WithTop ℚ) ≤ stored v := by
  unfold stored
  split
  · exact le_rfl
  · exact le_top

theorem stored_mono {v w : ℚ} (ordered : v ≤ w) : stored v ≤ stored w := by
  unfold stored
  split_ifs with first second second
  · exact_mod_cast ordered
  · exact le_top
  · -- A lesser number cannot be too great where the greater one is not.
    exact absurd (ordered.trans_lt second) first
  · exact le_rfl

/-- Storing a float takes what is too great to infinity. -/
theorem amount_pack {f : UnpackedFloat} {v : ℚ} (size : HasSize f v) :
    Amount (Float.Model.pack f).unpack (stored v) := by
  rcases size with sign | @⟨m, e, positive, canonical⟩
  -- Zero is stored as it is, with its sign.
  · have zero : stored 0 = (0 : ℚ) := if_pos (by positivity)
    rw [zero, unpack_pack_zero]
    exact .finite (.zero sign)
  · have bits : (m : ℚ) < 2 ^ 53 := by exact_mod_cast canonical.bits
    rcases le_or_gt e 971 with most | large
    -- With at most 53 bits of mantissa this exponent stays below the limit.
    · have fits : (m : ℚ) * 2 ^ e < 2 ^ 1024 := by
        calc (m : ℚ) * 2 ^ e < 2 ^ 53 * 2 ^ e := by gcongr
          _ ≤ 2 ^ 53 * 2 ^ (971 : ℤ) := by
            gcongr
            norm_num
          _ = 2 ^ (1024 : ℤ) := (zpow_add₀ two_ne_zero 53 971).symm
          _ = 2 ^ 1024 := zpow_natCast 2 1024
      rw [stored, if_pos fits]
      rw [unpack_pack_finite positive canonical most]
      exact .finite (.finite positive canonical)
    · -- A greater exponent comes with a full mantissa, and so with a number beyond all floats.
      have full : 2 ^ 52 ≤ m := canonical.full.resolve_right (by omega)
      have beyond : ¬ (m : ℚ) * 2 ^ e < 2 ^ 1024 := by
        rw [not_lt]
        calc (2 : ℚ) ^ 1024 = 2 ^ (1024 : ℤ) := (zpow_natCast 2 1024).symm
          _ = 2 ^ 52 * 2 ^ (972 : ℤ) := zpow_add₀ two_ne_zero 52 972
          _ ≤ m * 2 ^ e := by
            gcongr
            · exact_mod_cast full
            · norm_num
            · omega
      rw [stored, if_neg beyond]
      rw [unpack_pack_large positive large]
      exact .infinite

variable {x y z : Float}

theorem float_le_iff : x ≤ y ↔ x.toModel.unpack.le y.toModel.unpack = true := by
  change decide (x.toModel ≤ y.toModel) = true ↔ _
  exact decide_eq_true_iff

theorem HasSize.nonneg {f : UnpackedFloat} {u : ℚ} (size : HasSize f u) : 0 ≤ u := by
  cases size <;> positivity

namespace Amount

variable {f g : UnpackedFloat} {u v w : WithTop ℚ}

theorem nonneg (amount : Amount f u) : 0 ≤ u := by
  cases amount with
  | infinite => exact le_top
  | finite size => exact_mod_cast size.nonneg

theorem size {d : ℚ} (amount : Amount f d) : HasSize f d := by
  -- The case of infinity can be taken off only once the amount is a variable.
  generalize number : (d : WithTop ℚ) = u at amount
  cases amount with
  | infinite => exact absurd number (by simp)
  | finite size => rwa [WithTop.coe_inj.mp number]

theorem isNaN (amount : Amount f u) : f.isNaN = false := by
  rcases amount with _ | _ | _ <;> rfl

/-- Floats are ordered as their amounts are. -/
theorem le_iff (first : Amount f u) (second : Amount g v) : f.le g = true ↔ u ≤ v := by
  -- Infinity is compared by its constructor, and two numbers by their sizes.
  rcases first with _ | size <;> rcases second with _ | size'
  · exact iff_of_true rfl le_rfl
  · refine iff_of_false ?_ (by simp)
    cases size' <;> simp [UnpackedFloat.le, UnpackedFloat.compare]
  · refine iff_of_true ?_ le_top
    cases size <;> rfl
  · rw [size.le_iff size', WithTop.coe_le_coe]

/-- What is not less than such a float is another one. -/
theorem of_le {y : Float} (first : Amount f u) (ordered : f.le y.toModel.unpack = true) :
    ∃ v, Amount y.toModel.unpack v := by
  -- What is below zero and what is no number compare with nothing from zero on.
  generalize unpacked : y.toModel.unpack = g at ordered ⊢
  rcases g with _ | _ | sign | ⟨_, m, e, positive⟩
  case zero => exact ⟨_, .finite (.zero sign)⟩
  case infinity sign =>
    cases sign
    · rcases first with _ | _ | _ <;> exact absurd ordered Bool.false_ne_true
    · exact ⟨_, .infinite⟩
  case notANumber => rcases first with _ | _ | _ <;> exact absurd ordered Bool.false_ne_true
  case finite sign =>
    cases sign
    · rcases first with _ | _ | _ <;> exact absurd ordered Bool.false_ne_true
    · exact ⟨_, .finite (.finite positive (unpack_canonical unpacked))⟩

theorem infinity : Amount (Float.Model.pack (.infinity .positive)).unpack ⊤ := by
  rw [unpack_pack_infinity]
  exact .infinite

/-- A sum is not less than a summand. -/
theorem add (first : Amount f u) (second : Amount g v) :
    ∃ w, Amount (Float.Model.pack (UnpackedFloat.add Format.binary64 f g)).unpack w ∧ u ≤ w := by
  rcases first with _ | @⟨_, u, size⟩
  -- Infinity with anything from zero on added to it stays infinity.
  · have sum : UnpackedFloat.add Format.binary64 (.infinity .positive) g = .infinity .positive := by
      rcases second with _ | _ | _ <;> rfl
    rw [sum]
    exact ⟨⊤, infinity, le_rfl⟩
  · rcases second with _ | @⟨_, v, size'⟩
    · have sum :
          UnpackedFloat.add Format.binary64 f (.infinity .positive) = .infinity .positive := by
        cases size <;> rfl
      rw [sum]
      exact ⟨⊤, infinity, le_top⟩
    · -- The exact sum is not less than the summand, and that is rounded to itself.
      obtain ⟨w, sum, rounds⟩ := add_size size size'
      have more : u ≤ w := size.rounds.mono rounds (le_add_of_nonneg_right size'.nonneg)
      exact ⟨_, amount_pack sum, (WithTop.coe_le_coe.mpr more).trans (le_stored w)⟩

/-- Of two floats the greater one does not have the lesser quotient. -/
theorem div_mono {h : UnpackedFloat} {d : ℚ} (first : Amount f u) (second : Amount g v)
    (ordered : u ≤ v) (divisor : HasSize h d) (positive : 0 < d) :
    ∃ p q, Amount (Float.Model.pack (UnpackedFloat.div Format.binary64 f h)).unpack p
      ∧ Amount (Float.Model.pack (UnpackedFloat.div Format.binary64 g h)).unpack q ∧ p ≤ q := by
  have overflow :
      UnpackedFloat.div Format.binary64 (.infinity .positive) h = .infinity .positive := by
    rcases divisor with _ | _
    · exact absurd positive (lt_irrefl _)
    · rfl
  rcases second with _ | @⟨_, v, size'⟩
  · rw [overflow]
    rcases first with _ | size
    · rw [overflow]
      exact ⟨⊤, ⊤, infinity, infinity, le_rfl⟩
    · obtain ⟨p, quotient, -⟩ := div_size size divisor positive
      exact ⟨_, ⊤, amount_pack quotient, infinity, le_top⟩
  · rcases first with _ | @⟨_, u, size⟩
    · exact absurd ordered (by simp)
    · -- The exact quotients are in order, and so are the floats they are rounded to.
      obtain ⟨p, quotient, rounds⟩ := div_size size divisor positive
      obtain ⟨q, quotient', rounds'⟩ := div_size size' divisor positive
      have fractions : u / d ≤ v / d := by
        gcongr
        exact WithTop.coe_le_coe.mp ordered
      exact ⟨_, _, amount_pack quotient, amount_pack quotient',
        stored_mono (rounds.mono rounds' fractions)⟩

theorem div_zero (amount : Amount f u) (positive : 0 < u) :
    UnpackedFloat.div Format.binary64 f (.zero .positive) = .infinity .positive := by
  rcases amount with _ | _ | _
  · rfl
  · exact absurd positive (lt_irrefl _)
  · rfl

/-- A whole part is kept up to the largest number of 64 bits. -/
theorem toUInt64_mono (first : Amount f u) (second : Amount g v) (ordered : u ≤ v) :
    f.toUInt64.toNat ≤ g.toUInt64.toNat := by
  -- The conversion cuts off at the largest count, and cutting off respects the order.
  have clamped (n : ℕ) : (UInt64.ofNatClamp n).toNat = min n (2 ^ 64 - 1) := by
    unfold UInt64.ofNatClamp
    split
    case isTrue fits =>
      rw [UInt64.toNat_ofNatLT]
      simp only [UInt64.size] at fits
      omega
    case isFalse large =>
      rw [UInt64.toNat_ofNatLT]
      simp only [UInt64.size] at large ⊢
      omega
  simp only [UnpackedFloat.toUInt64, clamped]
  rcases second with _ | @⟨_, v, size'⟩
  · have most :
        (UnpackedFloat.toInt 0 (UInt64.size - 1) (.infinity .positive)).toNat = 2 ^ 64 - 1 := rfl
    omega
  · rcases first with _ | @⟨_, u, size⟩
    · exact absurd ordered (by simp)
    -- Of two numbers the greater one has the greater whole part.
    · obtain ⟨cut, whole, value⟩ := toInt_size size 0 (UInt64.size - 1)
      obtain ⟨cut', whole', value'⟩ := toInt_size size' 0 (UInt64.size - 1)
      have parts := whole'.le_mantissa (whole.mantissa_le.trans (WithTop.coe_le_coe.mp ordered))
      rw [value, value', Int.toNat_natCast, Int.toNat_natCast]
      omega

end Amount

/-- A power of two is a float. -/
theorem rounds_two_zpow {e : ℤ} (least : -1022 ≤ e) : Rounds (2 ^ e) (2 ^ e) := by
  -- Its mantissa is the least full one, so it is stored without rounding.
  have size := HasSize.finite (by norm_num : 0 < 2 ^ 52)
    (⟨by norm_num, by omega, .inl le_rfl⟩ : Canonical (2 ^ 52) (e - 52))
  have value : ((2 ^ 52 : ℕ) : ℚ) * 2 ^ (e - 52) = 2 ^ e := by
    rw [Nat.cast_pow, Nat.cast_ofNat, ← zpow_natCast, ← zpow_add₀ two_ne_zero]
    congr 1
    omega
  rw [value] at size
  exact size.rounds

/-- A positive integer of 64 bits is rounded to a float. -/
theorem toFloat_rounds {n : UInt64} (positive : 0 < n.toNat) :
    ∃ d, HasSize n.toFloat.toModel.unpack d ∧ Rounds n.toNat d := by
  have bound := n.toNat_lt
  obtain ⟨d, size, rounds⟩ := round_size positive 0
  rw [zpow_zero, mul_one] at rounds
  -- Rounding respects the order, and the limit of 64 bits is a float itself.
  have most : d ≤ 2 ^ (64 : ℤ) :=
    rounds.mono (rounds_two_zpow (by norm_num)) (by exact_mod_cast bound.le)
  have fits : d < 2 ^ 1024 := by
    calc d ≤ 2 ^ (64 : ℤ) := most
      _ < 2 ^ (1024 : ℤ) := zpow_lt_zpow_right₀ (by norm_num) (by norm_num)
      _ = 2 ^ 1024 := zpow_natCast 2 1024
  have sign : compare (n.toNat : ℤ) 0 = .gt := compare_gt_iff_gt.mpr (by exact_mod_cast positive)
  have model : n.toFloat.toModel
      = .pack (UnpackedFloat.round Format.binary64 .positive n.toNat 0) := by
    change Float.Model.pack (UnpackedFloat.normalize Format.binary64 n.toNat 0 .positive) = _
    simp only [UnpackedFloat.normalize, sign, Int.toNat_natCast]
  have amount := amount_pack size
  rw [stored, if_pos fits, ← model] at amount
  exact ⟨d, amount.size, rounds⟩

/-- A positive integer of 64 bits is neither rounded to zero nor too great for a float. -/
theorem toFloat_size {n : UInt64} (positive : 0 < n.toNat) :
    ∃ d, HasSize n.toFloat.toModel.unpack d ∧ 0 < d := by
  obtain ⟨d, size, rounds⟩ := toFloat_rounds positive
  -- One is a float, so nothing from one on is rounded below it.
  have least : (2 : ℚ) ^ (0 : ℤ) ≤ d :=
    (rounds_two_zpow (by norm_num)).mono rounds (by rw [zpow_zero]; exact_mod_cast positive)
  exact ⟨d, size, lt_of_lt_of_le (by positivity) least⟩

theorem float_le_of_lt (ordered : x < y) : x ≤ y := by
  rw [float_le_iff]
  have strict : x.toModel.unpack.lt y.toModel.unpack = true := by
    change decide (x.toModel < y.toModel) = true at ordered
    exact of_decide_eq_true ordered
  -- Both comparisons look at one ordering; less is the stronger answer.
  rw [UnpackedFloat.lt, beq_iff_eq] at strict
  rw [UnpackedFloat.le, strict]
  rfl

/-- The floats from zero on are those that amount to something. -/
theorem zero_le_iff : 0.0 ≤ x ↔ ∃ u, Amount x.toModel.unpack u := by
  have zero : Amount (0.0 : Float).toModel.unpack (0 : ℚ) := .finite (.zero .positive)
  constructor
  · intro least
    exact zero.of_le (float_le_iff.mp least)
  · rintro ⟨u, amount⟩
    exact float_le_iff.mpr ((zero.le_iff amount).mpr amount.nonneg)

/-- What is a number and not zero or less is more than zero. -/
theorem zero_le_of_not_le (number : x.isNaN = false) (positive : ¬ x ≤ 0.0) : 0.0 ≤ x := by
  rw [float_le_iff] at positive
  rw [zero_le_iff]
  change x.toModel.unpack.isNaN = false at number
  generalize unpacked : x.toModel.unpack = f at number positive ⊢
  rcases f with _ | _ | sign | ⟨_, m, e, mantissa⟩
  case zero => exact ⟨_, .finite (.zero sign)⟩
  case notANumber => exact absurd number (by decide)
  case infinity sign =>
    cases sign
    · exact absurd rfl positive
    · exact ⟨_, .infinite⟩
  case finite sign =>
    cases sign
    · exact absurd rfl positive
    · exact ⟨_, .finite (.finite mantissa (unpack_canonical unpacked))⟩

theorem zero_le_zero : (0.0 : Float) ≤ 0.0 := by decide

theorem isNaN_of_zero_le (start : 0.0 ≤ x) : x.isNaN = false := by
  obtain ⟨u, amount⟩ := zero_le_iff.mp start
  exact amount.isNaN

theorem float_le_trans (start : 0.0 ≤ x) (first : x ≤ y) (second : y ≤ z) : x ≤ z := by
  -- With the start the other two floats amount to something, and amounts are ordered.
  obtain ⟨u, least⟩ := zero_le_iff.mp start
  obtain ⟨v, middle⟩ := least.of_le (float_le_iff.mp first)
  obtain ⟨w, most⟩ := middle.of_le (float_le_iff.mp second)
  rw [float_le_iff, least.le_iff middle] at first
  rw [float_le_iff, middle.le_iff most] at second
  rw [float_le_iff, least.le_iff most]
  exact first.trans second

/-- Time that is added up never runs backwards. -/
theorem le_add (start : 0.0 ≤ x) (step : 0.0 ≤ y) : x ≤ x + y := by
  obtain ⟨u, first⟩ := zero_le_iff.mp start
  obtain ⟨v, second⟩ := zero_le_iff.mp step
  obtain ⟨w, sum, more⟩ := first.add second
  exact float_le_iff.mpr ((first.le_iff sum).mpr more)

/-- The whole part of a quotient by an integer respects the order, even if the integer is zero. -/
theorem quotient_mono (start : 0.0 ≤ x) (positive : ¬ x ≤ 0.0) (ordered : x ≤ y) (n : UInt64) :
    (x / n.toFloat).toUInt64.toNat ≤ (y / n.toFloat).toUInt64.toNat := by
  obtain ⟨u, first⟩ := zero_le_iff.mp start
  obtain ⟨v, second⟩ := first.of_le (float_le_iff.mp ordered)
  rw [float_le_iff, first.le_iff second] at ordered
  change (Float.Model.pack (UnpackedFloat.div Format.binary64 x.toModel.unpack
      n.toFloat.toModel.unpack)).unpack.toUInt64.toNat
    ≤ (Float.Model.pack (UnpackedFloat.div Format.binary64 y.toModel.unpack
      n.toFloat.toModel.unpack)).unpack.toUInt64.toNat
  rcases Nat.eq_zero_or_pos n.toNat with none | some
  · -- Dividing by zero gives infinity for both.
    have divisor : n.toFloat.toModel.unpack = .zero .positive := by
      rw [show n = 0 from UInt64.toNat_inj.mp none]
      rfl
    have zero : Amount (0.0 : Float).toModel.unpack (0 : ℚ) := .finite (.zero .positive)
    rw [float_le_iff, first.le_iff zero, not_le] at positive
    rw [divisor, first.div_zero positive, second.div_zero (positive.trans_le ordered)]
  · obtain ⟨d, divisor, nonzero⟩ := toFloat_size some
    obtain ⟨p, q, quotient, quotient', more⟩ := first.div_mono second ordered divisor nonzero
    exact quotient.toUInt64_mono quotient' more

end Minigame.Rounding

import Minigame.Proofs.Float.Size

/-! The 64 bits of a float keep its size, up to the greatest float; beyond it is infinity. -/

namespace Minigame.Rounding

open Float.Model Float.Model.UnpackedFloat

theorem ofBitVec_unpackSign (sign : Sign) (exponent : BitVec 11) (fraction : BitVec 52) :
    -- The sign is the highest bit, in front of the two other parts.
    Sign.ofBitVec (unpackSign (packComponents Format.binary64 sign exponent fraction)) = sign := by
  simp only [unpackSign, packComponents, BitVec.extractLsb]
  rw [BitVec.extractLsb'_append_eq_of_le (by omega), BitVec.extractLsb'_append_eq_of_le (by omega)]
  cases sign <;> rfl

/-- The bits of a mantissa with the leading bit that is not stored. -/
theorem toNat_leading (fraction : BitVec 52) :
    (1#1 ++ fraction).toNat = 2 ^ 52 + fraction.toNat := by
  rw [BitVec.toNat_append, ← Nat.shiftLeft_add_eq_or_of_lt fraction.isLt]
  rfl

/-- What is unpacked has a mantissa and an exponent that floats have. -/
theorem unpack_canonical {bits : BitVec Format.binary64.numBits} {sign : Sign} {m : ℕ} {e : ℤ}
    {positive : 0 < m} (unpacked : unpack Format.binary64 bits = .finite sign m e positive) :
    Canonical m e := by
  have bias : ((Format.binary64.exponentBias : ℕ) : ℤ) = 1023 := by norm_num [Format.exponentBias]
  unfold UnpackedFloat.unpack at unpacked
  dsimp only at unpacked
  -- All ones in the exponent are infinity and what is not a number.
  split at unpacked
  · split at unpacked <;> exact absurd unpacked (by simp)
  case isFalse =>
    split at unpacked
    case isTrue lowest =>
      split at unpacked
      · exact absurd unpacked (by simp)
      · -- Without a leading bit the exponent is the least one.
        injection unpacked with _ mantissa exponent
        rw [lowest, bias, BitVec.toNat_zero] at exponent
        subst mantissa
        have fraction := (unpackMantissa bits).isLt
        exact ⟨by omega, by omega, .inr (by omega)⟩
    -- Any other exponent stands for a mantissa with its leading bit.
    case isFalse higher =>
      injection unpacked with _ mantissa exponent
      rw [bias] at exponent
      have width := toNat_leading (unpackMantissa bits)
      have fraction := (unpackMantissa bits).isLt
      have lowest : (unpackExponent bits).toNat ≠ 0 := by
        intro zero
        exact higher (BitVec.eq_of_toNat_eq zero)
      exact ⟨by omega, by omega, .inl (by omega)⟩

/-- Packing a float of one of the 2046 exponents loses nothing. -/
theorem unpack_pack_finite {m : ℕ} {e : ℤ} (positive : 0 < m) (canonical : Canonical m e)
    (most : e ≤ 971) :
    (Float.Model.pack (.finite .positive m e positive)).unpack
      = .finite .positive m e positive := by
  have bias : Format.binary64.exponentBias = 1023 := by norm_num [Format.exponentBias]
  have least := canonical.least
  have bits := canonical.bits
  -- The stored exponent is never negative, and 2047 is left to infinity.
  obtain ⟨biased, shifted⟩ : ∃ biased : ℕ, e = biased - 1075 := ⟨(e + 1075).toNat, by omega⟩
  have sum : (e + (1023 : ℕ) + (52 : ℕ)).toNat = biased := by omega
  have room : ¬ 2 ^ 11 ≤ biased + 1 := by omega
  change unpack Format.binary64 (pack Format.binary64 _) = _
  unfold UnpackedFloat.pack UnpackedFloat.unpack
  simp only [bias, sum, if_neg room, Format.mantissaBits]
  by_cases full : 2 ^ 52 ≤ m
  · -- With all its bits a mantissa is stored without the leading one.
    have leading : m.log2 = 52 := (Nat.log2_eq_iff positive.ne').mpr ⟨full, bits⟩
    have exponent : (BitVec.ofNat 11 biased).toNat = biased := by
      rw [BitVec.toNat_ofNat, Nat.mod_eq_of_lt (by omega)]
    -- An exponent of zero would be stored for fewer bits only.
    have low : ¬ BitVec.ofNat 11 biased = 0#11 := by
      intro bits
      have zero : biased = 0 := exponent.symm.trans (congrArg BitVec.toNat bits)
      omega
    -- All ones are not reached, since the exponent is at most 971.
    have high : ¬ BitVec.ofNat 11 biased = -1#11 := by
      intro bits
      have ones : biased = 2047 := exponent.symm.trans (congrArg BitVec.toNat bits)
      omega
    have mantissa : (1#1 ++ BitVec.ofNat 52 m).toNat = m := by
      rw [toNat_leading, BitVec.toNat_ofNat]
      omega
    simp only [leading, if_true, unpackExponent_packComponents, unpackMantissa_packComponents,
      ofBitVec_unpackSign, if_neg low, if_neg high, exponent, mantissa, finite.injEq, true_and]
    omega
  · -- With fewer bits it is stored whole, and the stored exponent is zero.
    -- The least exponent is the only one for fewer bits.
    have leading : m.log2 < 52 := (Nat.log2_lt positive.ne').mpr (by omega)
    have lowest : biased = 1 := by
      have := canonical.full.resolve_left full
      omega
    have mantissa : (BitVec.ofNat 52 m).toNat = m := by
      rw [BitVec.toNat_ofNat]
      omega
    have some : ¬ BitVec.ofNat 52 m = 0#52 := by
      intro bits
      have zero : m = 0 := mantissa.symm.trans (congrArg BitVec.toNat bits)
      omega
    have high : ¬ 0#11 = -1#11 := by decide
    simp only [if_neg (by omega : ¬ m.log2 + 1 = 1 + 52), unpackExponent_packComponents,
      unpackMantissa_packComponents, ofBitVec_unpackSign, if_neg high, if_true, dif_neg some,
      mantissa, finite.injEq, true_and, BitVec.toNat_zero]
    omega

theorem unpack_pack_infinity (sign : Sign) :
    (Float.Model.pack (.infinity sign)).unpack = .infinity sign := by
  change unpack Format.binary64 (packedInfinity Format.binary64 sign) = _
  unfold UnpackedFloat.unpack packedInfinity
  simp only [unpackExponent_packComponents, unpackMantissa_packComponents, ofBitVec_unpackSign]
  simp

theorem unpack_pack_zero (sign : Sign) :
    (Float.Model.pack (.zero sign)).unpack = .zero sign := by
  change unpack Format.binary64 (packedZero Format.binary64 sign) = _
  unfold UnpackedFloat.unpack packedZero
  simp only [unpackExponent_packComponents, unpackMantissa_packComponents, ofBitVec_unpackSign]
  simp

/-- Packing a float of a greater exponent gives infinity. -/
theorem unpack_pack_large {m : ℕ} {e : ℤ} (positive : 0 < m) (large : 971 < e) :
    (Float.Model.pack (.finite .positive m e positive)).unpack = .infinity .positive := by
  have bias : Format.binary64.exponentBias = 1023 := by norm_num [Format.exponentBias]
  -- Both are packed as infinity, since the exponent does not fit.
  have same : pack Format.binary64 (.finite .positive m e positive)
      = pack Format.binary64 (.infinity .positive) := by
    unfold UnpackedFloat.pack
    simp only [bias]
    exact if_pos (by omega)
  rw [← unpack_pack_infinity, Float.Model.pack, Float.Model.pack]
  simp only [same]

end Minigame.Rounding

import Minigame.Proofs.Float.Order

/-!
The order of all floats that are numbers, infinities of either sign among them.

They are ordered as their ranks are, so that of any two one is not greater than the other.
-/

namespace Minigame.Rounding

open Float.Model Float.Model.UnpackedFloat

/-- The place of a float among all others: its class, then its exponent, then its mantissa. -/
def rank : UnpackedFloat → ℤ ×ₗ ℤ ×ₗ ℤ
  | .infinity .negative => toLex (-2, toLex (0, 0))
  | .finite .negative m e _ => toLex (-1, toLex (-e, -(m : ℤ)))
  | .notANumber => toLex (0, toLex (0, 0))
  | .zero _ => toLex (0, toLex (0, 0))
  | .finite .positive m e _ => toLex (1, toLex (e, (m : ℤ)))
  | .infinity .positive => toLex (2, toLex (0, 0))

/-- Exponents are compared first, and mantissas where these are the same. -/
theorem compare_then (e e' : ℤ) (m m' : ℕ) :
    (compare e e').then (compare m m') = cmp (toLex (e, (m : ℤ))) (toLex (e', (m' : ℤ))) := by
  -- Three cases for the exponents, and three for the mantissas where the exponents are the same.
  rcases lt_trichotomy e e' with less | rfl | greater
  · simp [compare_lt_iff_lt.mpr less, cmp, cmpUsing, Prod.Lex.toLex_lt_toLex, less]
  · rcases lt_trichotomy m m' with less | rfl | greater
    · simp [compare_lt_iff_lt.mpr less, cmp, cmpUsing, Prod.Lex.toLex_lt_toLex, less]
    · simp [cmp, cmpUsing]
    · simp [compare_gt_iff_gt.mpr greater, cmp, cmpUsing, Prod.Lex.toLex_lt_toLex, greater,
        greater.not_gt]
  · simp [compare_gt_iff_gt.mpr greater, cmp, cmpUsing, Prod.Lex.toLex_lt_toLex, greater,
      greater.not_gt, greater.ne']

/-- Below zero the order is turned round. -/
theorem cmp_neg (e e' m m' : ℤ) :
    cmp (toLex (-e, -m)) (toLex (-e', -m')) = (cmp (toLex (e, m)) (toLex (e', m'))).swap := by
  -- The comparison the other way round is that of the negated parts.
  rw [cmp_swap]
  simp only [cmp, cmpUsing, Prod.Lex.toLex_lt_toLex, neg_lt_neg_iff, neg_inj, eq_comm]

/-- Within a class the class does not matter. -/
theorem cmp_class (c : ℤ) (a b : ℤ ×ₗ ℤ) : cmp (toLex (c, a)) (toLex (c, b)) = cmp a b := by
  simp [cmp, cmpUsing, Prod.Lex.toLex_lt_toLex]

/-- Numbers compare as their ranks do. -/
theorem compare_rank {f g : UnpackedFloat} (number : f.isNaN = false) (other : g.isNaN = false) :
    f.compare g = some (cmp (rank f) (rank g)) := by
  -- Floats of different classes are told apart by the class alone.
  rcases f with ⟨⟨⟩⟩ | _ | _ | ⟨⟨⟩, m, e, positive⟩ <;>
    rcases g with ⟨⟨⟩⟩ | _ | _ | ⟨⟨⟩, m', e', positive'⟩
  -- Below zero the greater size is the lesser number.
  case finite.negative.finite.negative =>
    rw [rank, rank, cmp_class, cmp_neg, ← compare_then]
    rfl
  case finite.positive.finite.positive =>
    rw [rank, rank, cmp_class, ← compare_then]
    rfl
  all_goals first
    | rfl
    | exact absurd number (by decide)
    | exact absurd other (by decide)

variable {x y z : Float}

section

variable (numberX : x.isNaN = false) (numberY : y.isNaN = false)
include numberX numberY

theorem le_iff_rank : x ≤ y ↔ rank x.toModel.unpack ≤ rank y.toModel.unpack := by
  rw [float_le_iff, UnpackedFloat.le, compare_rank numberX numberY, Option.any_some,
    Ordering.isLE_iff_ne_gt, cmp_eq_gt_iff, not_lt]

theorem lt_iff_rank : x < y ↔ rank x.toModel.unpack < rank y.toModel.unpack := by
  -- The order of floats is that of what they are unpacked to.
  have strict : x < y ↔ x.toModel.unpack.lt y.toModel.unpack = true := by
    change decide (x.toModel < y.toModel) = true ↔ _
    exact decide_eq_true_iff
  rw [strict, UnpackedFloat.lt, compare_rank numberX numberY, beq_iff_eq, Option.some.injEq,
    cmp_eq_lt_iff]

/-- Of two numbers one is less, or the other is not greater. -/
theorem lt_iff_not_le : x < y ↔ ¬ y ≤ x := by
  rw [lt_iff_rank numberX numberY, le_iff_rank numberY numberX, not_le]

end

/-- A number is not greater than itself. -/
theorem number_le_refl (number : x.isNaN = false) : x ≤ x :=
  (le_iff_rank number number).mpr le_rfl

/-- Of three numbers in order the first one is not greater than the last one. -/
theorem number_le_trans (numberX : x.isNaN = false) (numberY : y.isNaN = false)
    (numberZ : z.isNaN = false) (first : x ≤ y) (second : y ≤ z) : x ≤ z := by
  rw [le_iff_rank numberX numberY] at first
  rw [le_iff_rank numberY numberZ] at second
  exact (le_iff_rank numberX numberZ).mpr (first.trans second)

end Minigame.Rounding

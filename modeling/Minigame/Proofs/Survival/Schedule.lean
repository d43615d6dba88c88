import Minigame.Proofs.Float.Order
import Minigame.Survival.Run

/-! Windows follow the running time, and frames fill each one up to its target. -/

namespace Minigame.Survival

open Minigame.Rounding

/-- A frame counts for some time, whatever length it is given. -/
theorem Run.zero_le_frameLength (frameMs : Float) : 0.0 ≤ frameLength frameMs := by
  unfold frameLength
  -- A length that is a number above zero counts as it is, and nothing counts for more than the cap.
  split_ifs with positive
  · exact float_le_of_lt positive
  · decide
  · decide

namespace Schedule

theorem windowIndex_zero (schedule : Schedule) : schedule.windowIndex 0.0 = 0 :=
  if_pos (by decide)

/-- A later time does not lie in an earlier window, however quotients are rounded. -/
theorem windowIndex_mono (schedule : Schedule) {before after : Float} (ordered : before ≤ after) :
    schedule.windowIndex before ≤ schedule.windowIndex after := by
  unfold windowIndex
  split
  -- Before the start and at it the first window is the one.
  case isTrue => exact Nat.zero_le _
  case isFalse some =>
    rw [Bool.or_eq_true, decide_eq_true_eq, not_or, Bool.not_eq_true] at some
    -- A time in a window is a number above zero, and so is any later one.
    obtain ⟨number, positive⟩ := some
    have start := zero_le_of_not_le number positive
    have number' := isNaN_of_zero_le (float_le_trans zero_le_zero start ordered)
    have positive' : ¬ after ≤ 0.0 := fun most => positive (float_le_trans start ordered most)
    rw [if_neg (by rwa [number', Bool.false_or, decide_eq_true_eq])]
    exact quotient_mono start positive ordered _

/-- After some frames of a window one more spawns what is left, up to the cap. -/
theorem frameQuota_after (schedule : Schedule) (index frames : ℕ) :
    min (catchUpCap * frames) (schedule.windowTarget index)
        + schedule.frameQuota index (min (catchUpCap * frames) (schedule.windowTarget index))
      = min (catchUpCap * (frames + 1)) (schedule.windowTarget index) := by
  unfold frameQuota
  -- The frame takes what the window still lacks, as far as it goes.
  rw [Nat.mul_succ]
  omega

end Schedule

end Minigame.Survival

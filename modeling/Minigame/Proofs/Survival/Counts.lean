import Minigame.Proofs.Survival.Schedule

/-!
Windows count exactly, up to the largest count.

A count that does not fit 64 bits stops at the largest number that does, and nothing else tells the
counts of a schedule from sums of exact numbers.
-/

namespace Minigame

/-- The number of objects that a window of a rule brings, however large it is. -/
def SpawnRule.exactTarget (rule : SpawnRule) (index : ℕ) : ℕ :=
  match rule.mode with
  | .doubling => 2 ^ index
  | .linear | .fixed => rule.addPerInterval.getD 0

/-- Modes with an increment bring it in every window, and the other one brings powers of two. -/
theorem SpawnRule.exactTarget_eq (rule : SpawnRule) (index : ℕ) : rule.exactTarget index =
    if rule.mode.isPerInterval then rule.addPerInterval.getD 0 else 2 ^ index := by
  unfold exactTarget
  cases rule.mode <;> rfl

namespace Survival.Schedule

/-- A power of two stops at the largest count from the first one on that does not fit. -/
theorem doublings_eq (n : ℕ) : doublings n = min maxCount (2 ^ n) := by
  unfold doublings maxCount
  split
  case isTrue fits =>
    have below : 2 ^ n < 2 ^ 64 := Nat.pow_lt_pow_right (by decide) fits
    omega
  -- A power of two with a fitting exponent is below the largest count.
  case isFalse large =>
    have above : 2 ^ 64 ≤ 2 ^ n := Nat.pow_le_pow_right (by decide) (by omega)
    omega

/-- The powers of two below another one add up to the number in front of it. -/
theorem sum_two_pow (n : ℕ) : ∑ k ∈ Finset.range n, 2 ^ k = 2 ^ n - 1 := by
  have sum := Nat.geomSum_eq le_rfl n
  rwa [Nat.div_one] at sum

/-- What some windows bring together, if each one brings twice as many objects as the one before. -/
theorem doublings_sum (windows : ℕ) :
    (if min maxCount windows < 64 then 2 ^ min maxCount windows - 1 else maxCount) =
      min maxCount (2 ^ windows - 1) := by
  -- The sum of sixty-four windows is the largest count itself.
  unfold maxCount
  split
  case isTrue few =>
    -- Few windows are counted as they are.
    rw [min_eq_right (by omega)]
    have below : 2 ^ windows ≤ 2 ^ 64 := Nat.pow_le_pow_right (by decide) (by omega)
    omega
  case isFalse many =>
    have above : 2 ^ 64 ≤ 2 ^ windows := Nat.pow_le_pow_right (by decide) (by omega)
    omega

/-- What some windows bring together, if each one brings the same number of objects. -/
theorem increments_sum (count windows : ℕ) :
    min maxCount (count * min maxCount windows) = min maxCount (windows * count) := by
  -- With more windows than can be counted, a single object in each of them is too much already.
  rcases Nat.le_total windows maxCount with few | many
  · rw [min_eq_right few, Nat.mul_comm]
  rcases Nat.eq_zero_or_pos count with rfl | some
  · rw [Nat.zero_mul, Nat.mul_zero]
  · -- Both sides are cut at the largest count.
    have cut : maxCount ≤ count * maxCount := Nat.le_mul_of_pos_left _ some
    have whole : maxCount ≤ windows * count := many.trans (Nat.le_mul_of_pos_right _ some)
    rw [min_eq_left many, min_eq_left cut, min_eq_left whole]

variable (rule : SpawnRule)

/-- All windows up to a time bring the sum of what each of them brings, up to the largest count. -/
theorem cumulativeTarget_exact (elapsedMs : Float) :
    let schedule := ofRule rule
    schedule.cumulativeTarget elapsedMs =
      min maxCount (∑ k ∈ Finset.range (schedule.windowIndex elapsedMs + 1), rule.exactTarget k) := by
  intro schedule
  have mode : schedule.mode = rule.mode := rfl
  simp only [cumulativeTarget, SpawnRule.exactTarget_eq, mode]
  split
  -- The same number comes in each window, the first one included.
  case isTrue =>
    rw [Finset.sum_const, Finset.card_range, smul_eq_mul]
    exact increments_sum ..
  -- The powers of two are summed up.
  case isFalse =>
    rw [sum_two_pow]
    exact doublings_sum _

/-- A window brings what its rule says, up to the largest count. -/
theorem windowTarget_exact (narrow : ∀ count ∈ rule.addPerInterval, count < 2 ^ 32) (index : ℕ) :
    (ofRule rule).windowTarget index = min maxCount (rule.exactTarget index) := by
  have mode : (ofRule rule).mode = rule.mode := rfl
  rw [windowTarget, SpawnRule.exactTarget_eq, mode]
  split
  case isTrue =>
    -- An increment of 32 bits always fits.
    change rule.addPerInterval.getD 0 = _
    unfold maxCount
    cases counted : rule.addPerInterval with
    -- Without an increment nothing comes.
    | none => rfl
    | some count =>
      have small := narrow count counted
      rw [Option.getD_some]
      omega
  case isFalse => exact doublings_eq index

/-- The last power of two that can be counted, and the first one that cannot. -/
example : (ofRule .default).windowTarget 63 = 2 ^ 63 ∧
    (ofRule .default).windowTarget 64 = 2 ^ 64 - 1 := by decide

/-- Frames that each spawn their quota fill a window up to its target and not beyond. -/
theorem frames_fill (schedule : Schedule) (index frames : ℕ) :
    (fun spawned => spawned + schedule.frameQuota index spawned)^[frames] 0 =
      min (catchUpCap * frames) (schedule.windowTarget index) := by
  -- By induction on the frames: one more of them adds up to the cap of what is left.
  induction frames with
  | zero => rw [Nat.mul_zero, Nat.zero_min, Function.iterate_zero_apply]
  | succ frames ih =>
    rw [Function.iterate_succ_apply', ih]
    exact frameQuota_after schedule index frames

/--
A schedule counts as its rule says, and no count passes the largest number of 64 bits.

All windows up to a time bring the sum of their exact numbers, a window brings its exact number, and
frames that each spawn their quota fill a window from nothing up to its target, at most fifty objects
each. Increments are numbers of 32 bits.
-/
theorem counts_exact (narrow : ∀ count ∈ rule.addPerInterval, count < 2 ^ 32) :
    let schedule := ofRule rule
    (∀ elapsedMs, schedule.cumulativeTarget elapsedMs = min (2 ^ 64 - 1)
      (∑ k ∈ Finset.range (schedule.windowIndex elapsedMs + 1), rule.exactTarget k)) ∧
    (∀ index, schedule.windowTarget index = min (2 ^ 64 - 1) (rule.exactTarget index)) ∧
    ∀ index frames, (fun spawned => spawned + schedule.frameQuota index spawned)^[frames] 0 =
      min (50 * frames) (schedule.windowTarget index) := by
  intro schedule
  exact ⟨cumulativeTarget_exact rule, windowTarget_exact rule narrow, frames_fill schedule⟩

/-- The largest increment fills its window, and ever longer times bring no more than can be counted. -/
theorem counts_exact_largest :
    let rule : SpawnRule := ⟨.linear, 1, some (2 ^ 32 - 1)⟩
    let schedule := ofRule rule
    (∀ count ∈ rule.addPerInterval, count < 2 ^ 32) ∧
      schedule.windowTarget (2 ^ 64 - 1) = 2 ^ 32 - 1 ∧
      schedule.cumulativeTarget (1.0 / 0.0) = 2 ^ 64 - 1 := by
  intro rule schedule
  have narrow : ∀ count ∈ rule.addPerInterval, count < 2 ^ 32 := by
    -- The increment is the largest one of 32 bits.
    intro count given
    obtain rfl := Option.some.inj given
    decide
  obtain ⟨cumulative, target, -⟩ := counts_exact rule narrow
  refine ⟨narrow, ?_, ?_⟩
  · rw [target]
    decide
  · -- The time is the largest one there is, and its window is the last one that can be counted.
    have last : schedule.windowIndex (1.0 / 0.0) = 2 ^ 64 - 1 := by decide
    rw [cumulative, last]
    simp only [SpawnRule.exactTarget, rule, Option.getD_some, Finset.sum_const, Finset.card_range,
      smul_eq_mul]
    decide

end Survival.Schedule

end Minigame

import Minigame.Design.Rules
import Minigame.Scene

/-! When objects spawn: running time is cut into windows, each with a target to catch up to. -/

namespace Minigame.Survival

/-- The most objects one frame may spawn. -/
def catchUpCap : Nat := 50

/-- Counts stop at the largest number of 64 bits. -/
def maxCount : Nat := 2 ^ 64 - 1

/-- A spawn schedule. -/
structure Schedule where
  mode : SpawnMode
  intervalMs : Nat
  addPerInterval : Nat
  deriving DecidableEq

namespace Schedule

/-- The schedule of a rule; a window lasts a millisecond at least. -/
def ofRule (rule : SpawnRule) : Schedule :=
  ⟨rule.mode, max 1 rule.intervalMs, rule.addPerInterval.getD 0⟩

/-- The window that a running time lies in. -/
def windowIndex (schedule : Schedule) (elapsedMs : Float) : Nat :=
  -- The conversion stops at the largest count, so a long run stays in the last window.
  if elapsedMs.isNaN || elapsedMs ≤ 0.0 then 0
  else (elapsedMs / schedule.intervalMs.toUInt64.toFloat).toUInt64.toNat

/-- A power of two, up to the largest count. -/
def doublings (n : Nat) : Nat :=
  if n < 64 then 2 ^ n else maxCount

/-- The number of objects that a window brings. -/
def windowTarget (schedule : Schedule) (index : Nat) : Nat :=
  if schedule.mode.isPerInterval then schedule.addPerInterval else doublings index

/-- The number of objects that all windows up to a running time bring. -/
def cumulativeTarget (schedule : Schedule) (elapsedMs : Float) : Nat :=
  -- The window that has just begun counts in full.
  let windows := min maxCount (schedule.windowIndex elapsedMs + 1)
  if schedule.mode.isPerInterval then min maxCount (schedule.addPerInterval * windows)
  else if windows < 64 then 2 ^ windows - 1
  else maxCount

/-- The number of objects a frame spawns in a window that has some of its objects already. -/
def frameQuota (schedule : Schedule) (index spawned : Nat) : Nat :=
  min (schedule.windowTarget index - spawned) catchUpCap

/-- The rate in a window, as it is shown. -/
def rateLabel (schedule : Schedule) (index : Nat) : String :=
  let sign := if schedule.mode.isPerInterval then "+" else ""
  sign ++ toString (schedule.windowTarget index) ++ "/" ++ secondsLabel schedule.intervalMs ++ "s"

end Schedule

end Minigame.Survival

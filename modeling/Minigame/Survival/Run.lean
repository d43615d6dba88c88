import Minigame.Survival.Game
import Minigame.Survival.Orb

/-! A survival game played frame by frame. -/

namespace Minigame.Survival

/-- The longest time one frame counts for. -/
def maxFrameMs : Float := 66.0

/-- The time a frame without a positive length counts for. -/
def defaultFrameMs : Float := 16.0

/-- What a run is doing. -/
inductive RunState where
  | idle
  | running
  | paused
  | ended
  deriving DecidableEq

/-- A run of a survival game. -/
structure Run where
  schedule : Schedule
  limit : LimitRule
  width : Float
  height : Float
  generator : Generator
  state : RunState
  elapsedMs : Float
  windowIndex : Nat
  spawnedInWindow : Nat
  totalSpawned : Nat
  orbs : List Orb
  bestMs : Option Float
  deriving DecidableEq

namespace Run

/-- A run that has not started. -/
def initial (game : Game) (seed : UInt64) : Run where
  schedule := .ofRule game.spawn
  limit := game.limit
  width := game.scene.width.toUInt64.toFloat
  height := game.scene.height.toUInt64.toFloat
  generator := .ofSeed seed
  state := .idle
  elapsedMs := 0.0
  windowIndex := 0
  spawnedInWindow := 0
  totalSpawned := 0
  orbs := []
  bestMs := none

/-- Starts a run that is not under way. -/
def start (run : Run) : Run :=
  match run.state with
  | .running => run
  | .paused => run
  | _ =>
    { run with
      orbs := [], elapsedMs := 0.0, windowIndex := 0, spawnedInWindow := 0, totalSpawned := 0,
      state := .running }

/-- Pauses a running run and resumes a paused one. -/
def togglePause (run : Run) : Run :=
  match run.state with
  | .running => { run with state := .paused }
  | .paused => { run with state := .running }
  | _ => run

/-- The time a frame counts for. -/
def frameLength (frameMs : Float) : Float :=
  -- A length that is not a number is not positive either.
  if 0.0 < frameMs then (if frameMs < maxFrameMs then frameMs else maxFrameMs) else defaultFrameMs

/-- Moves on to the window of the elapsed time; a new window starts with nothing spawned. -/
def enterWindow (run : Run) : Run :=
  let index := run.schedule.windowIndex run.elapsedMs
  if index = run.windowIndex then run else { run with windowIndex := index, spawnedInWindow := 0 }

/-- The number of objects this frame spawns; a run that cannot end stops at its limit. -/
def quota (run : Run) : Nat :=
  -- A window brings what it still owes, and no frame more than the cap.
  let due := run.schedule.frameQuota run.windowIndex run.spawnedInWindow
  if run.limit.endOnLimit then due else min due (run.limit.maxConcurrent - run.orbs.length)

/-- Spawns the objects that are due. -/
def spawnDue (run : Run) : Run :=
  -- The window is entered first: what it owes is counted from its own start.
  let run := run.enterWindow
  let count := run.quota
  let (orbs, generator) := Orb.spawn run.width run.height count run.generator
  { run with
    orbs := run.orbs ++ orbs, generator,
    spawnedInWindow := run.spawnedInWindow + count, totalSpawned := run.totalSpawned + count }

/-- Moves all objects and takes out those that were popped long enough ago. -/
def moveOrbs (frameMs : Float) (run : Run) : Run :=
  { run with
    -- An object that is popping counts as live until it is taken out here.
    orbs := (run.orbs.map (Orb.move run.width run.height frameMs)).filter (·.popTimer ≤ popMs) }

/-- Whether a time does not improve on the best one. -/
def isNoRecord (run : Run) (timeMs : Float) : Bool :=
  run.bestMs.any (timeMs ≤ ·)

/-- Keeps a time that is better than the best one; tells whether it was. -/
def recordIfBetter (timeMs : Float) (run : Run) : Bool × Run :=
  -- A time as good as the best one is no record.
  if run.isNoRecord timeMs then (false, run) else (true, { run with bestMs := some timeMs })

/-- Ends a run that has reached its limit and keeps its time. -/
def endAtLimit (run : Run) : Run :=
  if run.limit.endOnLimit ∧ run.limit.maxConcurrent ≤ run.orbs.length then
    (recordIfBetter run.elapsedMs { run with state := .ended }).2
  else run

/-- A run one frame later. -/
def advance (frameMs : Float) (run : Run) : Run :=
  if run.state = .running then
    -- One frame spawns, moves and then looks at the limit, in this order.
    let length := frameLength frameMs
    { run with elapsedMs := run.elapsedMs + length }.spawnDue.moveOrbs length |>.endAtLimit
  else run

/-- Pops the topmost object at a point; tells whether there was one. -/
def popAt (x y : Float) (run : Run) : Bool × Run :=
  if run.state = .running then
    match Orb.popLast x y run.orbs with
    | some orbs => (true, { run with orbs })
    | none => (false, run)
  else (false, run)

end Run

end Minigame.Survival

import Minigame.Survival.Run
import Minigame.Decimal.Layout

/-! Survival games without a player: how many objects have spawned when each window begins. -/

namespace Minigame.Survival

open Minigame.Decimal

/-- What is simulated. -/
structure Simulation where
  spawn : SpawnRule
  limit : LimitRule
  seed : Nat
  durationMs : Nat
  frameMs : Float
  deriving DecidableEq

/-- A run at the first frame of a window. -/
structure Sample where
  window : Nat
  elapsedMs : Float
  spawned : Nat
  /-- The number of objects the schedule asks for up to here. -/
  expected : Nat
  live : Nat
  deriving DecidableEq

/-- The course of a simulation and the run at its end. -/
structure SimulationReport where
  samples : List Sample
  last : Run

namespace Simulation

/-- The document of the simulated game. -/
def design (simulation : Simulation) : Json :=
  Json.ofFields
    [("meta", Json.ofFields [("template", .str Template.bubbleClicker.name)]),
     ("rules", Json.ofFields
      [("spawn", simulation.spawn.toJson), ("limit", simulation.limit.toJson)])]

/-- The started run. -/
def start (simulation : Simulation) : Run :=
  (Run.initial (.ofDesign simulation.design) simulation.seed.toUInt64).start

/-- Whether a run goes on. -/
def goesOn (simulation : Simulation) (run : Run) : Bool :=
  run.state = .running && run.elapsedMs < simulation.durationMs.toUInt64.toFloat

/-- The sample of a run. -/
def sample (run : Run) : Sample where
  window := run.windowIndex
  elapsedMs := run.elapsedMs
  spawned := run.totalSpawned
  expected := run.schedule.cumulativeTarget run.elapsedMs
  live := run.orbs.length

/-- Runs frame by frame; a sample is taken whenever the window is not that of the last one. -/
def play (simulation : Simulation) : Nat → List Sample → Run → List Sample × Run
  | 0, samples, run => (samples.reverse, run)
  | frames + 1, samples, run =>
    if simulation.goesOn run then
      let run := run.advance simulation.frameMs
      let samples :=
        -- One sample a window, taken at its first frame.
        if (samples.head?.map Sample.window) = some run.windowIndex then samples
        else sample run :: samples
      simulation.play frames samples run
    else (samples.reverse, run)

/-- More frames than the duration has, whichever way the sum of their lengths is rounded. -/
def frameBound (simulation : Simulation) : Nat :=
  let frames := simulation.durationMs.toUInt64.toFloat / Run.frameLength simulation.frameMs
  2 * frames.toUInt64.toNat + 2

/-- The report of a simulation. -/
def report (simulation : Simulation) : SimulationReport :=
  let (samples, last) := simulation.play simulation.frameBound [] simulation.start
  ⟨samples, last⟩

end Simulation

/-- A text filled up to a width from the left. -/
def alignRight (width : Nat) (text : List Char) : List Char :=
  List.replicate (width - text.length) ' ' ++ text

/-- The columns of a sample. -/
def Sample.line (sample : Sample) : List Char :=
  let gap : List Char := [' ', ' ']
  let count (width n : Nat) := alignRight width (Nat.toDigits 10 n)
  count 6 sample.window ++ gap ++ alignRight 10 (fixedPlaces 0 sample.elapsedMs) ++ gap
    ++ count 7 sample.spawned ++ gap ++ count 8 sample.expected ++ gap ++ count 4 sample.live
    ++ ['\n']

namespace SimulationReport

/-- What the last line says about the time. -/
def outcome (report : SimulationReport) : List Char :=
  let seconds := fixedPlaces 2 (report.last.elapsedMs / 1000.0) ++ ['s']
  if report.last.state = .ended then "ended at ".toList ++ seconds
  else "still running after ".toList ++ seconds

/-- The report as a table with a line about the end. -/
def text (report : SimulationReport) : String :=
  String.ofList
    ("window  elapsed_ms  spawned  expected  live\n".toList
      ++ report.samples.flatMap Sample.line
      ++ report.outcome ++ ": ".toList ++ Nat.toDigits 10 report.last.totalSpawned
      ++ " spawned, ".toList ++ Nat.toDigits 10 report.last.orbs.length ++ " live\n".toList)

end SimulationReport

end Minigame.Survival

import Minigame.Design.Vocabulary

/-! The rules of a survival game: how objects spawn, how many may live, what is shown. -/

namespace Minigame

/-- How objects spawn. -/
structure SpawnRule where
  mode : SpawnMode
  intervalMs : Nat
  addPerInterval : Option Nat
  deriving DecidableEq

namespace SpawnRule

/-- The rule of a game that asks for nothing else. -/
def default : SpawnRule := ⟨.doubling, 2000, none⟩

/-- A rule that doubles in every interval. -/
def doubling (intervalMs : Nat) : SpawnRule := ⟨.doubling, intervalMs, none⟩

/-- A rule that adds the same number in every interval. -/
def linear (count intervalMs : Nat) : SpawnRule := ⟨.linear, intervalMs, some count⟩

/-- The written form; an absent increment is left out. -/
def toJson (rule : SpawnRule) : Json :=
  Json.ofFields ([("mode", Json.str rule.mode.name), ("interval_ms", Json.nat rule.intervalMs)]
    ++ (rule.addPerInterval.map fun count => ("add_per_interval", Json.nat count)).toList)

/-- Reads the written form. -/
def ofJson? (value : Json) : Option SpawnRule := do
  let record ← Record.ofJson? 3 value
  let mode ← record.required 0 "mode" fun v => v.asTag?.bind SpawnMode.ofName?
  let intervalMs ← record.required 1 "interval_ms" (Json.asUnsigned? 64)
  let addPerInterval ← record.optional 2 "add_per_interval" (Json.asUnsigned? 32)
  return ⟨mode, intervalMs, addPerInterval⟩

end SpawnRule

/-- How many objects may live at once and whether reaching that number ends the game. -/
structure LimitRule where
  maxConcurrent : Nat
  endOnLimit : Bool
  deriving DecidableEq

namespace LimitRule

/-- The limit of a game that asks for nothing else. -/
def default : LimitRule := ⟨100, true⟩

/-- The written form. -/
def toJson (rule : LimitRule) : Json :=
  Json.ofFields
    [("max_concurrent", Json.nat rule.maxConcurrent), ("end_on_limit", .bool rule.endOnLimit)]

/-- Reads the written form. -/
def ofJson? (value : Json) : Option LimitRule := do
  let record ← Record.ofJson? 2 value
  let maxConcurrent ← record.required 0 "max_concurrent" (Json.asUnsigned? 32)
  let endOnLimit ← record.required 1 "end_on_limit" Json.asBool?
  return ⟨maxConcurrent, endOnLimit⟩

end LimitRule

/-- What the page shows beside the game. -/
structure Hud where
  showTime : Bool
  showCount : Bool
  showSpawnRate : Bool
  sound : Bool
  pauseHotkey : String
  deriving DecidableEq

namespace Hud

/-- Everything shown, and P to pause. -/
def default : Hud := ⟨true, true, true, true, "P"⟩

/-- The written form. -/
def toJson (hud : Hud) : Json :=
  Json.ofFields
    [("show_time", .bool hud.showTime), ("show_count", .bool hud.showCount),
     ("show_spawn_rate", .bool hud.showSpawnRate), ("sound", .bool hud.sound),
     ("pause_hotkey", .str hud.pauseHotkey)]

/-- Reads the written form. -/
def ofJson? (value : Json) : Option Hud := do
  let record ← Record.ofJson? 5 value
  let showTime ← record.required 0 "show_time" Json.asBool?
  let showCount ← record.required 1 "show_count" Json.asBool?
  let showSpawnRate ← record.required 2 "show_spawn_rate" Json.asBool?
  let sound ← record.required 3 "sound" Json.asBool?
  let pauseHotkey ← record.required 4 "pause_hotkey" Json.asString?
  return ⟨showTime, showCount, showSpawnRate, sound, pauseHotkey⟩

end Hud

end Minigame

import Minigame.Digest
import Minigame.Survival.Schedule

/-! The survival game: objects spawn on a schedule and the player pops them. -/

namespace Minigame.Survival

open Minigame.Text

/-- A survival game. -/
structure Game where
  scene : Scene
  spawn : SpawnRule
  limit : LimitRule
  skin : Skin
  pauseKey : Char
  showTime : Bool
  showCount : Bool
  showSpawnRate : Bool
  sound : Bool
  deriving DecidableEq

namespace Game

/-- The length of a spawn interval; older designs give it in seconds or call it a window. -/
def interval? (doc : Json) : Option Float :=
  doc.numberAt? "/rules/spawn/interval_ms"
    <|> (doc.numberAt? "/rules/spawn/intervalSeconds").map (· * 1000.0)
    <|> doc.numberAt? "/rules/spawn/window_ms"

/-- The spawn rule; only modes with an increment for every interval have one. -/
def spawnRule (doc : Json) : SpawnRule :=
  let mode := (Design.spawnMode? doc).getD .doubling
  let increment :=
    doc.numberAt? "/rules/spawn/add_per_interval" <|> doc.numberAt? "/rules/spawn/addPerTick"
  { mode
    intervalMs := clamped (interval? doc) 2000 100 600000
    addPerInterval := if mode.isPerInterval then some (clamped increment 1 0 1000) else none }

/-- The limit rule. -/
def limitRule (doc : Json) : LimitRule :=
  let most :=
    doc.numberAt? "/rules/limit/max_concurrent" <|> doc.numberAt? "/rules/limit/concurrent_bubbles"
  { maxConcurrent := clamped most 100 1 10000
    endOnLimit := (doc.boolAt? "/rules/limit/end_on_limit").getD true }

/-- The key that pauses the game: an ASCII letter or digit, in upper case. -/
def pauseKeyOf (doc : Json) : Char :=
  -- Any other first character is as good as none.
  match (doc.textAt? "/hud/pause_hotkey").bind fun text => (trimChars text.toList).head? with
  | some c => if isAsciiLetter c || isAsciiDigit c then asciiUpperChar c else 'P'
  | none => 'P'

/-- The survival game a design asks for. -/
def ofDesign (doc : Json) : Game where
  scene := Scene.ofDesign "Bubble Rush" doc
  spawn := spawnRule doc
  limit := limitRule doc
  skin := (Design.skin? doc).getD .bubble
  pauseKey := pauseKeyOf doc
  showTime := (doc.boolAt? "/hud/show_time").getD true
  showCount := (doc.boolAt? "/hud/show_count").getD true
  showSpawnRate := (doc.boolAt? "/hud/show_spawn_rate").getD true
  sound := (doc.boolAt? "/hud/sound").getD true

/-- The increment of an interval, zero in a mode without one. -/
def addPerInterval (game : Game) : Nat :=
  game.spawn.addPerInterval.getD 0

/-- The length of an interval in seconds. -/
def intervalLabel (game : Game) : String :=
  secondsLabel game.spawn.intervalMs

/-- The name under which a page keeps the best time of games with this title. -/
def bestTimeKey (game : Game) : String :=
  "gamespec_best_v1_" ++ (Digest.compute (utf8 game.scene.title)).short

/-- What the script of a page is told about the game, in the order of declaration. -/
def runtimeFields (game : Game) : List (String × Json) :=
  [("cssW", Json.nat game.scene.width), ("cssH", Json.nat game.scene.height),
   ("hidpi", .bool game.scene.hidpi),
   ("mode", .str (if game.spawn.mode.isPerInterval then "linear" else "doubling")),
   ("intervalMs", Json.nat game.spawn.intervalMs), ("addPerInterval", Json.nat game.addPerInterval),
   ("limit", Json.nat game.limit.maxConcurrent), ("endOnLimit", .bool game.limit.endOnLimit),
   ("pauseKey", .str (String.singleton game.pauseKey)), ("skin", .str game.skin.name),
   ("sound", .bool game.sound), ("bestKey", .str game.bestTimeKey)]

end Game

end Minigame.Survival

import Minigame.Page.Piece
import Minigame.Page.SurvivalScript
import Minigame.Survival.Game

/-! The page of a survival game. -/

namespace Minigame.Page

open Minigame.Text

/-- The words for a skin: what its objects are called and what is done to them. -/
structure Wording where
  noun : String
  label : String
  verb : String

/-- The words for a skin. -/
def wording : Skin → Wording
  | .bubble => ⟨"bubbles", "Bubbles", "Pop"⟩
  | .balloon => ⟨"balloons", "Balloons", "Pop"⟩
  | .chicken => ⟨"chickens", "Chickens", "Catch"⟩
  | .slime => ⟨"slimes", "Slimes", "Squish"⟩
  | .asteroid => ⟨"asteroids", "Asteroids", "Blast"⟩

/-- The style variables of a theme. -/
def themeVariables : Theme → String
  | .dark => "--bg:#0b1020;--panel:#121a2b;--text:#e6f0ff;--muted:#9aa6b2;--stage:#0a0a0a"
  | .light => "--bg:#f4f6fb;--panel:#ffffff;--text:#111827;--muted:#4b5563;--stage:#e8edf5"

/-- The sentence on how objects spawn. -/
def scheduleText (game : Survival.Game) : String :=
  let seconds := game.intervalLabel
  if game.spawn.mode.isPerInterval then
    "Every " ++ seconds ++ "s spawns +" ++ toString game.addPerInterval ++ " "
      ++ (wording game.skin).noun ++ "."
  else "Every " ++ seconds ++ "s the spawn amount doubles."

/-- The sentence on what happens at the limit. -/
def limitText (game : Survival.Game) : String :=
  let most := toString game.limit.maxConcurrent ++ " " ++ (wording game.skin).noun
  if game.limit.endOnLimit then "Hit " ++ most ++ " on screen and it's game over."
  else "At most " ++ most ++ " fit on screen."

/-- How the game is played. -/
def helpText (game : Survival.Game) : String :=
  scheduleText game ++ " " ++ limitText game

/-- The label of the sound switch. -/
def soundLabel (sound : Bool) : String :=
  if sound then "Sound: On" else "Sound: Off"

/-- The key that pauses the game, as a text. -/
def pauseText (game : Survival.Game) : String :=
  String.singleton game.pauseKey

/-- The mark of an element that is not shown. -/
def hiddenUnless (shown : Bool) : Piece :=
  .fixed (if shown then "" else " hidden")

/-- The style rules that no design changes. -/
def survivalStyles : List String :=
  ["  html,body\x7bheight:100%\x7d",
   "  body\x7bbackground:var(--bg);color:var(--text);font-family:Inter,system-ui,sans-serif;margin:0;display:flex;flex-direction:column\x7d",
   "  header\x7bdisplay:flex;align-items:center;justify-content:space-between;flex-wrap:wrap;gap:8px;padding:12px 16px;background:linear-gradient(180deg,rgba(127,127,127,.08),transparent)\x7d",
   "  h1\x7bfont-size:18px;margin:0\x7d",
   "  .hud\x7bdisplay:flex;gap:16px;align-items:center;font-size:14px\x7d",
   "  .hud b\x7bcolor:var(--text)\x7d",
   "  [hidden]\x7bdisplay:none!important\x7d",
   "  .btn\x7bbackground:var(--panel);border:1px solid rgba(127,127,127,.3);color:var(--text);padding:6px 10px;border-radius:8px;cursor:pointer;font:inherit\x7d",
   "  .btn:hover\x7bborder-color:rgba(127,127,127,.6)\x7d",
   "  .wrap\x7bmax-width:1100px;margin:0 auto;flex:1;display:flex;flex-wrap:wrap;gap:20px;padding:16px;box-sizing:border-box\x7d",
   "  .stage\x7bflex:1;display:flex;align-items:center;justify-content:center\x7d",
   "  canvas\x7bbackground:var(--stage);border:2px solid rgba(127,127,127,.35);border-radius:6px;cursor:crosshair;touch-action:none\x7d",
   "  .panel\x7bwidth:340px;background:var(--panel);border:1px solid rgba(127,127,127,.25);border-radius:10px;padding:12px;box-sizing:border-box\x7d",
   "  .title\x7bfont-weight:700;margin:8px 0 12px 0\x7d",
   "  .muted\x7bcolor:var(--muted)\x7d",
   "  .overlay\x7bposition:absolute;inset:0;display:flex;align-items:center;justify-content:center\x7d",
   "  .card\x7bbackground:var(--panel);opacity:.95;border:1px solid rgba(127,127,127,.3);padding:24px 28px;border-radius:12px;text-align:center\x7d",
   "  .big\x7bfont-size:22px;margin:0 0 6px 0\x7d",
   "  .small\x7bfont-size:14px;color:var(--muted);margin:0 0 14px 0\x7d",
   "  hr\x7bborder:none;border-top:1px solid rgba(127,127,127,.2);margin:12px 0\x7d",
   "</style>",
   "</head>",
   "<body>"]

/-- The head of the page, with its title and its colours. -/
def survivalHead (game : Survival.Game) : List Piece :=
  lines
      ["<!DOCTYPE html><html lang=\"en\"><head><meta charset=\"utf-8\">",
       "<meta name=\"viewport\" content=\"width=device-width, initial-scale=1\">"]
    ++ line [.fixed "<title>", .shown game.scene.title, .fixed "</title>"]
    ++ lines ["<style>"]
    ++ line
      [.fixed "  :root\x7b ",
       .shown (themeVariables game.scene.theme),
       .fixed ";--accent:#6ee7b7 \x7d"]
    ++ lines survivalStyles

/-- The bar on top, with the values of the running game and its switches. -/
def survivalHud (game : Survival.Game) : List Piece :=
  let words := wording game.skin
  let schedule := Survival.Schedule.ofRule game.spawn
  lines ["  <header>"]
    ++ line [.fixed "    <h1 id=\"title\">", .shown game.scene.title, .fixed "</h1>"]
    ++ lines ["    <div class=\"hud\">"]
    ++ line
      [.fixed "      <span id=\"hud-time-wrap\"",
       hiddenUnless game.showTime,
       .fixed ">&#9201; Time: <b id=\"hud-time\">0.00s</b></span>"]
    ++ line
      [.fixed "      <span id=\"hud-count-wrap\"",
       hiddenUnless game.showCount,
       .fixed ">",
       .shown words.label,
       .fixed ": <b id=\"hud-count\">0</b></span>"]
    ++ line
      [.fixed "      <span id=\"hud-spawn-wrap\"",
       hiddenUnless game.showSpawnRate,
       .fixed ">Spawning: <b id=\"hud-spawn\">",
       .shown (schedule.rateLabel 0),
       .fixed "</b></span>"]
    ++ line
      [.fixed "      <button id=\"btn-sound\" class=\"btn\" type=\"button\">",
       .shown (soundLabel game.sound),
       .fixed "</button>"]
    ++ line
      [.fixed "      <button id=\"btn-pause\" class=\"btn\" type=\"button\">Pause (",
       .shown (pauseText game),
       .fixed ")</button>"]
    ++ lines
      ["    </div>",
       "  </header>"]

/-- The stage, behind a card that starts the game. -/
def survivalStage (game : Survival.Game) : List Piece :=
  let words := wording game.skin
  lines
      ["  <div class=\"wrap\">",
       "    <div class=\"stage\">",
       "      <div style=\"position:relative\">"]
    ++ line
      [.fixed "        <canvas id=\"game\" width=\"",
       number game.scene.width,
       .fixed "\" height=\"",
       number game.scene.height,
       .fixed "\"></canvas>"]
    ++ lines
      ["        <div id=\"overlay\" class=\"overlay\">",
       "          <div class=\"card\">"]
    ++ line [.fixed "            <p class=\"big\">", .shown game.scene.title, .fixed "</p>"]
    ++ line
      [.fixed "            <p class=\"small\">",
       .shown words.verb,
       .fixed " ",
       .shown words.noun,
       .fixed " by clicking or tapping. ",
       .shown (helpText game),
       .fixed "</p>"]
    ++ lines
      ["            <button id=\"btn-start\" class=\"btn\" type=\"button\">Start</button>",
       "          </div>",
       "        </div>",
       "      </div>",
       "    </div>"]

/-- The panel beside the stage. -/
def survivalPanel (game : Survival.Game) : List Piece :=
  let words := wording game.skin
  lines
      ["    <div class=\"panel\">",
       "      <div class=\"title\">How to Play</div>"]
    ++ line
      [.fixed "      <div class=\"muted\">Click or tap ",
       .shown words.noun,
       .fixed " to ",
       .shown (asciiLower words.verb),
       .fixed " them. ",
       .shown (helpText game),
       .fixed " Survive as long as possible. Press <b>",
       .shown (pauseText game),
       .fixed "</b> to pause.</div>"]
    ++ lines
      ["      <hr>",
       "      <div class=\"muted\">Best Time: <b id=\"best-time\">0.00s</b></div>",
       "    </div>",
       "  </div>",
       ""]

/-- What the script is told about the game. -/
def survivalData (game : Survival.Game) : List Piece :=
  let words := wording game.skin
  lines
      ["<script>",
       "(function()\x7b"]
    ++ line [.fixed "  var cfg = ", .data (Json.ofFields game.runtimeFields), .fixed ";"]
    ++ line [.fixed "  var NOUN = ", .data (.str words.noun), .fixed ";"]
    ++ line [.fixed "  var PAUSE_KEY = ", .data (.str (pauseText game)), .fixed ";"]

/-- The parts of a survival page. -/
def survivalPieces (game : Survival.Game) : List Piece :=
  survivalHead game ++ survivalHud game ++ survivalStage game ++ survivalPanel game
    ++ survivalData game ++ lines survivalScript

/-- The page of the survival game a design asks for. -/
def survivalPage (doc : Json) : String :=
  render (survivalPieces (Survival.Game.ofDesign doc))

end Minigame.Page

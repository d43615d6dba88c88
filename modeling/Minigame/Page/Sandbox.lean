import Minigame.Page.Piece
import Minigame.Sandbox.Game

/-! The page of a sandbox game. -/

namespace Minigame.Page

/-- The colours of a sandbox page. -/
structure SandboxColours where
  background : String
  text : String
  stage : String

/-- The colours of a theme. -/
def sandboxColours : Theme → SandboxColours
  | .dark => ⟨"#111", "#fff", "#000"⟩
  | .light => ⟨"#fafafa", "#111", "#fff"⟩

/-- What the script is told about the game. -/
def sandboxData (game : Sandbox.Game) : Json :=
  Json.ofFields
    [("w", Json.nat game.scene.width), ("h", Json.nat game.scene.height),
     ("speed", Json.nat game.speed)]

/-- Everything in front of the script. -/
def sandboxBody (game : Sandbox.Game) : List Piece :=
  let colours := sandboxColours game.scene.theme
  lines
      ["<!DOCTYPE html><html lang=\"en\"><head><meta charset=\"utf-8\">",
       "<meta name=\"viewport\" content=\"width=device-width, initial-scale=1\">"]
    ++ line [.fixed "<title>", .shown game.scene.title, .fixed "</title>"]
    ++ lines ["<style>"]
    ++ line
      [.fixed "  body\x7bbackground:",
       .shown colours.background,
       .fixed ";color:",
       .shown colours.text,
       .fixed ";font-family:Inter,system-ui,sans-serif;margin:0;padding:16px;text-align:center\x7d"]
    ++ lines ["  .wrap\x7bmax-width:960px;margin:0 auto\x7d"]
    ++ line
      [.fixed "  #game\x7bwidth:",
       number game.scene.width,
       .fixed "px;height:",
       number game.scene.height,
       .fixed "px;border:2px solid ",
       .shown colours.text,
       .fixed ";margin:20px auto;position:relative;background:",
       .shown colours.stage,
       .fixed ";overflow:hidden\x7d"]
    ++ lines
      ["  #player\x7bwidth:20px;height:20px;background:#4ade80;position:absolute;left:0;top:0;will-change:transform\x7d",
       "  .hud\x7bopacity:.9;font-size:14px;margin-top:8px\x7d",
       "  a, a:visited\x7bcolor:#93c5fd\x7d",
       "</style>",
       "</head><body><div class=\"wrap\">"]
    ++ line [.fixed "  <h1 id=\"title\">", .shown game.scene.title, .fixed "</h1>"]
    ++ line
      [.fixed "  <div id=\"game\" role=\"application\" aria-label=\"",
       .shown game.scene.title,
       .fixed "\"><div id=\"player\"></div></div>"]
    ++ line
      [.fixed "  <div class=\"hud\" id=\"hud\">Controls: ",
       .shown game.controlsLabel,
       .fixed " &middot; Controller: ",
       .shown game.controller,
       .fixed " &middot; Speed: ",
       number game.speed,
       .fixed "</div>"]
    ++ lines ["</div>"]

/-- The script behind its data: held keys move the object, frame by frame. -/
def sandboxScript : List String :=
  ["  var player = document.getElementById('player');",
   "  var maxX = cfg.w - 20, maxY = cfg.h - 20;",
   "  var x = Math.floor(cfg.w / 2) - 10, y = Math.floor(cfg.h / 2) - 10;",
   "  var held = Object.create(null);",
   "  var keymap = \x7b",
   "    w: 'up', arrowup: 'up', s: 'down', arrowdown: 'down',",
   "    a: 'left', arrowleft: 'left', d: 'right', arrowright: 'right'",
   "  \x7d;",
   "  function place()\x7b player.style.transform = 'translate(' + x + 'px,' + y + 'px)'; \x7d",
   "  addEventListener('keydown', function(e)\x7b",
   "    var dir = keymap[e.key.toLowerCase()];",
   "    if (dir) \x7b held[dir] = true; e.preventDefault(); \x7d",
   "  \x7d);",
   "  addEventListener('keyup', function(e)\x7b",
   "    var dir = keymap[e.key.toLowerCase()];",
   "    if (dir) held[dir] = false;",
   "  \x7d);",
   "  addEventListener('blur', function()\x7b held = Object.create(null); \x7d);",
   "  var last = 0;",
   "  function frame(ts)\x7b",
   "    var dt = last ? Math.min(66, ts - last) : 16;",
   "    last = ts;",
   "    var step = cfg.speed * dt / 1000;",
   "    if (held.up) y = Math.max(0, y - step);",
   "    if (held.down) y = Math.min(maxY, y + step);",
   "    if (held.left) x = Math.max(0, x - step);",
   "    if (held.right) x = Math.min(maxX, x + step);",
   "    place();",
   "    requestAnimationFrame(frame);",
   "  \x7d",
   "  place();",
   "  requestAnimationFrame(frame);",
   "\x7d)();",
   "</script>",
   "</body></html>"]

/-- The parts of a sandbox page. -/
def sandboxPieces (game : Sandbox.Game) : List Piece :=
  sandboxBody game ++ lines ["<script>", "(function()\x7b"]
    ++ line [.fixed "  var cfg = ", .data (sandboxData game), .fixed ";"]
    ++ lines sandboxScript

/-- The page of the sandbox a design asks for. -/
def sandboxPage (doc : Json) : String :=
  render (sandboxPieces (Sandbox.Game.ofDesign doc))

end Minigame.Page

import Minigame.Scene

/-! The sandbox: one object that moves. -/

namespace Minigame.Sandbox

open Minigame.Text

/-- A sandbox game. -/
structure Game where
  scene : Scene
  speed : Nat
  controller : String
  controls : List String
  deriving DecidableEq

namespace Game

/-- The sandbox a design asks for. -/
def ofDesign (doc : Json) : Game where
  scene := Scene.ofDesign "Your Game" doc
  speed := clamped (doc.numberAt? "/player/speed") 200 0 2000
  controller := (doc.textAt? "/player/controller").getD "topdown"
  controls :=
    match (doc.stringsAt "/controls").filter (!isBlankText ·) with
    | [] => ["wasd"]
    | controls => controls

/-- The controls as they are shown. -/
def controlsLabel (game : Game) : String :=
  upper (", ".intercalate game.controls)

end Game

end Minigame.Sandbox

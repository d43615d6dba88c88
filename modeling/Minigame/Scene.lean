import Minigame.Design.View
import Minigame.Decimal.Layout

/-! The scene of a game: what a design asks for, brought into a playable range. -/

namespace Minigame

open Minigame.Decimal

/-- A number rounded to a whole one, halves away from zero, and brought into a range. -/
def clampRounded (low high : Nat) (value : Float) : Nat :=
  let bits := value.toBits.toNat
  if binary64.isFinite bits then (max (low : Int) (min (high : Int) (roundToInt value))).toNat
  else if binary64.isNegative bits then low
  else high

/-- A number that may be missing, rounded and brought into a range. -/
def clamped (value : Option Float) (default low high : Nat) : Nat :=
  (value.map (clampRounded low high)).getD default

/-- Numbers in labels have the fewest digits that identify them and never an exponent. -/
def labelLayout : Layout where
  plainFrom := -400
  plainBelow := 400
  pointZero := false

/-- Milliseconds as a label in seconds. -/
def secondsLabel (ms : Nat) : String :=
  String.ofList (labelLayout.writeFloat (ms.toUInt64.toFloat / 1000.0))

/-- The stage of a game. -/
structure Scene where
  title : String
  theme : Theme
  width : Nat
  height : Nat
  hidpi : Bool
  deriving DecidableEq

/-- The stage a design asks for. -/
def Scene.ofDesign (defaultTitle : String) (doc : Json) : Scene where
  title := (Design.title? doc).getD defaultTitle
  theme := Design.theme doc
  width := clamped (doc.numberAt? "/scene/size/w") 800 120 4096
  height := clamped (doc.numberAt? "/scene/size/h") 500 120 4096
  hidpi := (doc.boolAt? "/scene/hidpi").getD true

end Minigame

import Minigame.Random

/-! The objects of a survival game: how they come up, move and pop. -/

namespace Minigame.Survival

/-- Half a turn. -/
def pi : Float := 3.141592653589793

/-- How long an object that was popped is still there. -/
def popMs : Float := 160.0

/-- An object on the stage. -/
structure Orb where
  x : Float
  y : Float
  radius : Float
  heading : Float
  speed : Float
  wobbleAmp : Float
  wobbleFreq : Float
  phase : Float
  color : Nat
  /-- How long ago it was popped, zero for an intact one. -/
  popTimer : Float
  deriving DecidableEq

namespace Orb

/-- Whether the object was popped. -/
def isPopping (orb : Orb) : Bool :=
  0.0 < orb.popTimer

/-- Whether a point lies on the object. -/
def contains (orb : Orb) (x y : Float) : Bool :=
  let dx := x - orb.x
  let dy := y - orb.y
  dx * dx + dy * dy ≤ orb.radius * orb.radius

/-- Pops an intact object. -/
def pop (orb : Orb) : Orb :=
  -- The timer of an object that is popping is not started again.
  if orb.isPopping then orb else { orb with popTimer := 1.0 }

/-- The greater of two numbers. -/
def larger (a b : Float) : Float :=
  if a < b then b else a

/-- A new object inside a stage. -/
def random (width height : Float) (g : Generator) : Orb × Generator :=
  -- The order of the draws is part of the game: the same seed gives the same objects.
  let (radius, g) := g.between 14.0 48.0
  -- An object that hardly fits still gets a range of positions.
  let (x, g) := g.between radius (larger (width - radius) (radius + 1.0))
  let (y, g) := g.between radius (larger (height - radius) (radius + 1.0))
  let (heading, g) := g.between 0.0 (pi * 2.0)
  let (speed, g) := g.between 10.0 40.0
  let (wobbleAmp, g) := g.between 0.5 2.2
  let (wobbleFreq, g) := g.between 1.0 2.4
  let (phase, g) := g.between 0.0 (pi * 2.0)
  let (color, g) := g.belowEight
  ({ x, y, radius, heading, speed, wobbleAmp, wobbleFreq, phase, color, popTimer := 0.0 }, g)

/-- Moves along the heading, with a wobble across it. -/
def drift (seconds : Float) (orb : Orb) : Orb :=
  let x := orb.x + orb.heading.cos * orb.speed * seconds
  let y := orb.y + orb.heading.sin * orb.speed * seconds
  let phase := orb.phase + orb.wobbleFreq * seconds
  let wobble := phase.sin * orb.wobbleAmp
  { orb with x := x + wobble, y := y - wobble * 0.6, phase }

/-- Turns an object back that crossed the left or the right edge. -/
def bounceAcross (width : Float) (orb : Orb) : Orb :=
  let orb :=
    if orb.x < orb.radius then { orb with x := orb.radius, heading := pi - orb.heading } else orb
  if width - orb.radius < orb.x then
    { orb with x := width - orb.radius, heading := pi - orb.heading }
  else orb

/-- Turns an object back that crossed the upper or the lower edge. -/
def bounceUpright (height : Float) (orb : Orb) : Orb :=
  let orb :=
    if orb.y < orb.radius then { orb with y := orb.radius, heading := -orb.heading } else orb
  if height - orb.radius < orb.y then
    { orb with y := height - orb.radius, heading := -orb.heading }
  else orb

/-- An object one frame later. -/
def move (width height frameMs : Float) (orb : Orb) : Orb :=
  let orb := bounceUpright height (bounceAcross width (orb.drift (frameMs / 1000.0)))
  -- An object that was popped drifts on until its time is over.
  if orb.isPopping then { orb with popTimer := orb.popTimer + frameMs } else orb

/-- Draws new objects. -/
def spawn (width height : Float) : Nat → Generator → List Orb × Generator
  | 0, g => ([], g)
  | n + 1, g =>
    let (orb, g) := random width height g
    let (orbs, g) := spawn width height n g
    (orb :: orbs, g)

/-- Pops the last object that a point lies on, if there is one. -/
def popLast (x y : Float) : List Orb → Option (List Orb)
  | [] => none
  | orb :: rest =>
    -- Objects farther on lie on top, so the rest is asked first.
    match popLast x y rest with
    | some popped => some (orb :: popped)
    | none => if orb.contains x y then some (orb.pop :: rest) else none

end Orb

end Minigame.Survival
